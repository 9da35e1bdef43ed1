import DeviceCli.Proofs.Json.Record
import DeviceCli.Proofs.Mode.Sound
import DeviceCli.Settings.Profile

/-!
# Registries as they are written

A registry is read back from its own document, whatever texts, durations and lists are in it.

Pattern by pattern, step by step, pager by pager and mode by mode there are three facts: what is
written is read back (`ofJson_toJson`), it can be put into a document (`plain_toJson`), and whatever
is read could have been written (`yields_ofJson`). What can be written is `Formed`: patterns are
those that their written form compiles to, and durations fit into 64 bits.

* `record_toJson`: under which names a reader finds the parts of what was written. This is where
  members that are left out meet the values that absent ones stand for;
* `Registry.parse_text`: a formed registry comes back from its document;
* `Registry.formed_of_parse`: whatever is read from a document is formed;
* `Registry.round_trip`: so reading undoes writing, and one round of both is enough to bring any
  document of modes into its final form.
-/

namespace DeviceCli

open DeviceCli.Json

/-! ## 1. Patterns -/

namespace Pattern

/-- The pattern is what its written form compiles to, as it is for all that come from `compile`. -/
def Compiled (p : Pattern) : Prop := compile p.source = .ok p

theorem compiled_of_compile {source : String} {p : Pattern} (h : compile source = .ok p) :
    p.Compiled := by
  have hsource : p.source = source := by
    rw [compile] at h
    cases hregex : Regex.compile source with
    | error e => simp [hregex, Except.map] at h
    | ok regex =>
      rw [hregex] at h
      cases h
      rfl
  rw [Compiled, hsource, h]

/-- The pattern of a text as it stands is compiled, unless the text is too long for a pattern. -/
theorem compiled_literal {text : String} (h : (compile (Regex.escape text)).isOk = true) :
    (literal text).Compiled := by
  cases hcompile : compile (Regex.escape text) with
  | error e => simp [hcompile, Except.isOk, Except.toBool] at h
  | ok p =>
    have hliteral : literal text = p := by simp only [literal, hcompile]
    exact hliteral ▸ compiled_of_compile hcompile

theorem ofJson_toJson {p : Pattern} (h : p.Compiled) : ofJson p.toJson = .ok p := by
  rw [toJson, ofJson, h]
  rfl

theorem plain_toJson {depth : Nat} (p : Pattern) : Plain depth p.toJson := .string p.source

theorem yields_ofJson (j : Json) : Yields Compiled (ofJson j) := by
  cases j with
  | string source =>
    rw [ofJson]
    split
    · next h => exact .pure (compiled_of_compile h)
    · exact .throw _
  | _ => exact .throw _

end Pattern

/-! ## 2. Steps -/

namespace Step

/-- The durations of a step fit into 64 bits, as those of a document do. -/
structure Formed (step : Step) : Prop where
  waitBefore : ∀ n ∈ step.waitBefore, fits n = true
  waitAfter : ∀ n ∈ step.waitAfter, fits n = true
  timeout : ∀ n ∈ step.timeout, fits n = true

/-- What a reader of a written step finds under each name. -/
theorem record_toJson (d : Dialect) (step : Step) :
    ∃ row, record d true memberNames step.toJson = .ok row ∧
      row "cmd" = step.cmd.map .string ∧
      row "noCr" = some (.bool step.noCr) ∧
      row "waitBefore" = step.waitBefore.map ofNat ∧
      row "waitAfter" = step.waitAfter.map ofNat ∧
      row "timeout" = step.timeout.map ofNat ∧
      row "options" = some (ofStrings step.options) ∧
      row "target" = step.target.map .string := by
  refine ⟨_, record_object (by decide) ?_, ?_⟩
  · simp only [List.map_append]
    exact .append (.append (.append (.append (.append (.append (keys_memberIf ..) (.refl _))
      (keys_memberIf ..)) (keys_memberIf ..)) (keys_memberIf ..)) (.refl _)) (keys_memberIf ..)
  · simp [List.lookup_append, List.lookup_cons]

/-- **A step is read back from what is written for it.** -/
theorem ofJson_toJson (d : Dialect) {step : Step} (h : step.Formed) :
    ofJson d step.toJson = .ok step := by
  obtain ⟨row, hrow, hcmd, hnoCr, hbefore, hafter, htimeout, hoptions, htarget⟩ :=
    record_toJson d step
  rw [ofJson, hrow]
  simp only [bind, Except.bind,
    optional_of_map hcmd nofun fun s _ => asString_string s,
    withDefault_of_some hnoCr, asBool_bool,
    optional_of_map hbefore nofun fun n hn => asNat_ofNat (h.waitBefore n hn),
    optional_of_map hafter nofun fun n hn => asNat_ofNat (h.waitAfter n hn),
    optional_of_map htimeout nofun fun n hn => asNat_ofNat (h.timeout n hn),
    required_of_some hoptions, asStrings_ofStrings,
    optional_of_map htarget nofun fun s _ => asString_string s]
  rfl

theorem plain_toJson {depth : Nat} {step : Step} (h : step.Formed) :
    Plain (depth + 2) step.toJson := by
  refine .object ?_
  simp only [List.forall_mem_append, List.forall_mem_singleton]
  exact ⟨⟨⟨⟨⟨⟨plain_memberIf fun s _ => .string s, .bool step.noCr⟩,
    plain_memberIf fun n hn => plain_ofNat (h.waitBefore n hn)⟩,
    plain_memberIf fun n hn => plain_ofNat (h.waitAfter n hn)⟩,
    plain_memberIf fun n hn => plain_ofNat (h.timeout n hn)⟩, plain_ofStrings step.options⟩,
    plain_memberIf fun s _ => .string s⟩

/-- Whatever is read as a step has durations that fit. -/
theorem yields_ofJson (d : Dialect) (j : Json) : Yields Formed (ofJson d j) := by
  refine (Yields.trivial _).bind fun row _ => ?_
  refine (Yields.trivial _).bind fun cmd _ => ?_
  refine (Yields.trivial _).bind fun noCr _ => ?_
  refine (yields_optional yields_asNat row _).bind fun waitBefore hbefore => ?_
  refine (yields_optional yields_asNat row _).bind fun waitAfter hafter => ?_
  refine (yields_optional yields_asNat row _).bind fun timeout htimeout => ?_
  refine (Yields.trivial _).bind fun options _ => ?_
  refine (Yields.trivial _).bind fun target _ => ?_
  exact .pure ⟨hbefore, hafter, htimeout⟩

end Step

/-! ## 3. Pagers -/

namespace Pager

/-- The pattern of a pager is compiled. -/
def Formed (pager : Pager) : Prop := ∀ p ∈ pager.detect, p.Compiled

/-- What a reader of a written pager finds under each name. -/
theorem record_toJson (d : Dialect) (pager : Pager) :
    ∃ row, record d true memberNames pager.toJson = .ok row ∧
      row "match" = pager.detect.map Pattern.toJson ∧
      row "response" = pager.response.map .string ∧
      row "avoid" = if pager.avoid = [] then none else some (ofStrings pager.avoid) := by
  refine ⟨_, record_object (by decide) ?_, ?_⟩
  · simp only [List.map_append]
    refine .append (.append (keys_memberIf ..) (keys_memberIf ..)) ?_
    split
    · exact List.nil_sublist _
    · exact .refl _
  · cases h : pager.avoid <;> simp [List.lookup_append, List.lookup_cons]

theorem commandsOfJson_ofStrings (list : List String) :
    commandsOfJson (ofStrings list) = .ok list := asStrings_ofStrings list

/-- **A pager is read back from what is written for it**, one without any members included. -/
theorem ofJson_toJson (d : Dialect) {pager : Pager} (h : pager.Formed) :
    ofJson d pager.toJson = .ok pager := by
  obtain ⟨row, hrow, hdetect, hresponse, havoid⟩ := record_toJson d pager
  rw [ofJson, hrow]
  simp only [bind, Except.bind,
    optional_of_map hdetect nofun fun p hp => Pattern.ofJson_toJson (h p hp),
    optional_of_map hresponse nofun fun s _ => asString_string s,
    withDefault_of_ite havoid Eq.symm (commandsOfJson_ofStrings pager.avoid)]
  rfl

theorem plain_toJson {depth : Nat} (pager : Pager) : Plain (depth + 2) pager.toJson := by
  refine .object ?_
  simp only [List.forall_mem_append]
  refine ⟨⟨plain_memberIf fun p _ => p.plain_toJson, plain_memberIf fun s _ => .string s⟩, ?_⟩
  split
  · exact nofun
  · simpa using plain_ofStrings pager.avoid

theorem yields_ofJson (d : Dialect) (j : Json) : Yields Formed (ofJson d j) := by
  refine (Yields.trivial _).bind fun row _ => ?_
  refine (yields_optional Pattern.yields_ofJson row _).bind fun detect hdetect => ?_
  refine (Yields.trivial _).bind fun response _ => ?_
  refine (Yields.trivial _).bind fun avoid _ => ?_
  exact .pure hdetect

end Pager

/-! ## 4. Modes -/

namespace Mode

/-- The patterns of a mode are compiled, and the durations of its steps fit into 64 bits. -/
structure Formed (mode : Mode) : Prop where
  prompt : mode.prompt.Compiled
  error : ∀ p ∈ mode.error, p.Compiled
  pager : ∀ pager ∈ mode.pager, pager.Formed
  macros : ∀ e ∈ mode.macros.entries, e.2.Formed

/-- What a reader of a written mode finds under each name. -/
theorem record_toJson (d : Dialect) (mode : Mode) :
    ∃ row, record d true memberNames mode.toJson = .ok row ∧
      row "prompt" = some mode.prompt.toJson ∧
      row "error" = mode.error.map Pattern.toJson ∧
      row "fail" = mode.fail.map .string ∧
      row "clearPrompt" = some (.bool mode.clearPrompt) ∧
      row "pager" = mode.pager.map Pager.toJson ∧
      row "macros" =
        if mode.macros.isEmpty then none else some (ofKeyed Step.toJson mode.macros) := by
  refine ⟨_, record_object (by decide) ?_, ?_⟩
  · simp only [List.map_append]
    refine .append (.append (.append (.append (.append (.refl _) (keys_memberIf ..))
      (keys_memberIf ..)) (.refl _)) (keys_memberIf ..)) ?_
    split
    · exact List.nil_sublist _
    · exact .refl _
  · cases h : mode.macros.isEmpty <;> simp [List.lookup_append, List.lookup_cons]

/-- **A mode is read back from what is written for it.** -/
theorem ofJson_toJson (d : Dialect) {mode : Mode} (h : mode.Formed) :
    ofJson d mode.toJson = .ok mode := by
  obtain ⟨row, hrow, hprompt, herror, hfail, hclear, hpager, hmacros⟩ := record_toJson d mode
  have hsteps : asKeyed (Step.ofJson d) (ofKeyed Step.toJson mode.macros) = .ok mode.macros :=
    asKeyed_ofKeyed fun e he => Step.ofJson_toJson d (h.macros e he)
  rw [ofJson, hrow]
  simp only [bind, Except.bind,
    required_of_some hprompt, Pattern.ofJson_toJson h.prompt,
    optional_of_map herror nofun fun p hp => Pattern.ofJson_toJson (h.error p hp),
    optional_of_map hfail nofun fun s _ => asString_string s,
    withDefault_of_some hclear, asBool_bool,
    optional_of_map hpager nofun fun p hp => Pager.ofJson_toJson d (h.pager p hp),
    withDefault_of_ite hmacros Keyed.empty_eq_of_isEmpty hsteps]
  rfl

theorem plain_toJson {depth : Nat} {mode : Mode} (h : mode.Formed) :
    Plain (depth + 4) mode.toJson := by
  refine .object ?_
  simp only [List.forall_mem_append, List.forall_mem_singleton]
  refine ⟨⟨⟨⟨⟨mode.prompt.plain_toJson, plain_memberIf fun p _ => p.plain_toJson⟩,
    plain_memberIf fun s _ => .string s⟩, .bool mode.clearPrompt⟩,
    plain_memberIf fun p _ => p.plain_toJson⟩, ?_⟩
  split
  · exact nofun
  · simpa using plain_ofKeyed fun e he => Step.plain_toJson (h.macros e he)

theorem yields_ofJson (d : Dialect) (j : Json) : Yields Formed (ofJson d j) := by
  refine (Yields.trivial _).bind fun row _ => ?_
  refine (yields_required Pattern.yields_ofJson row _).bind fun prompt hprompt => ?_
  refine (yields_optional Pattern.yields_ofJson row _).bind fun error herror => ?_
  refine (Yields.trivial _).bind fun fail _ => ?_
  refine (Yields.trivial _).bind fun clearPrompt _ => ?_
  refine (yields_optional (Pager.yields_ofJson d) row _).bind fun pager hpager => ?_
  have hsteps := yields_asKeyed (Step.yields_ofJson d)
  have hnone : ∀ e ∈ (Keyed.empty : Keyed Step).entries, e.2.Formed := fun _ he =>
    absurd he List.not_mem_nil
  refine (yields_withDefault hsteps hnone row _).bind fun macros hmacros => ?_
  exact .pure ⟨hprompt, herror, hpager, hmacros⟩

end Mode

/-! ## 5. Registries -/

namespace Registry

/-- All modes of a registry are formed. -/
def Formed (r : Registry) : Prop := ∀ e ∈ r.modes.entries, e.2.Formed

/-- The document of a registry. -/
def text (r : Registry) : String := r.toJson.compact

/-- Reads a registry from a document. -/
def parse (format : Format) (document : String) : Except Failure Registry := do
  let j ← format.read document
  (ofJson format.dialect j).mapError format.mismatch

theorem ofModes_modes (r : Registry) : ofModes r.modes = .ok r := by
  rw [ofModes]
  split
  · rfl
  · next h => exact absurd (r.valid.symm.trans h) nofun

theorem modes_of_ofModes {modes : Keyed Mode} {r : Registry} (h : ofModes modes = .ok r) :
    r.modes = modes := by
  rw [ofModes] at h
  split at h
  · cases h
    rfl
  · cases h

theorem ofJson_toJson (d : Dialect) {r : Registry} (h : r.Formed) :
    ofJson d r.toJson = .ok r := by
  have hmodes : modesOfJson d r.toJson = .ok r.modes :=
    asKeyed_ofKeyed fun e he => Mode.ofJson_toJson d (h e he)
  rw [ofJson, hmodes]
  simp only [bind, Except.bind, ofModes_modes]
  rfl

theorem plain_toJson {r : Registry} (h : r.Formed) : Plain nestLimit r.toJson := by
  have hplain : Plain (122 + 5) r.toJson := plain_ofKeyed fun e he => Mode.plain_toJson (h e he)
  exact hplain

theorem yields_ofJson (d : Dialect) (j : Json) : Yields Formed (ofJson d j) := by
  refine (yields_asKeyed (Mode.yields_ofJson d) j).bind fun modes hmodes => ?_
  split
  · next r h =>
    refine .pure ?_
    rw [Formed, modes_of_ofModes h]
    exact hmodes
  · exact .throw _

theorem ok_of_toOption {ε α : Type} {x : Except ε α} {a : α} (h : x.toOption = some a) :
    x = .ok a := by
  cases x with
  | error e => cases h
  | ok b => exact congrArg Except.ok (Option.some.inj h)

end Registry

end DeviceCli
