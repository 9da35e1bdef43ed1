import DeviceCli.Proofs.Except
import DeviceCli.Proofs.Text.Numeral
import DeviceCli.Settings.Environment

/-!
# Settings under an environment

Five settings of an `Engine` can be replaced by variables. Each is looked up and read for itself,
and the first that is set but cannot be read ends the whole.

* `SaysNumber`, `SaysFlag` and `SaysFormat` are what the text of a variable may say, and
  `Replaced` what becomes of a setting: it stays if the variable is not set, and is what the
  variable says if it is.
* `Engine.withEnvironment_eq_ok_iff`: the settings that come out are those of `Engine.Overlaid`.
* `Engine.withEnvironment_overlaid`: **there are such settings exactly if all variables can be read
  (`Readable`), they are a fixed point, and settings that were written into the variables are found
  in them.**
-/

namespace DeviceCli

open DeviceCli.Text

/-! ## 1. What variables say -/

namespace Environment

/-- A text with blanks around it spells a number of 64 bits. -/
def SaysNumber (raw : String) (n : Nat) : Prop := Decimal (trim raw).toList n ∧ n ≤ maxNat64

/-- The words for a truth value, in lower case. -/
def flagWords : Bool → List String
  | true => ["1", "true", "yes", "on", "enabled"]
  | false => ["0", "false", "no", "off", "disabled", ""]

/-- A text with blanks around it is a word for a truth value, in any case. -/
def SaysFlag (raw : String) (b : Bool) : Prop := lowerLatin (trim raw) ∈ flagWords b

/-- A text with blanks around it is the name of a format, in any case. -/
def SaysFormat (raw : String) (f : LogFormat) : Prop := lowerLatin (trim raw) = f.name

/-- What a variable gives, if it is set. -/
inductive Given {α : Type} (Says : String → α → Prop) : Option String → Option α → Prop where
  | unset : Given Says none none
  | set {raw : String} {a : α} (said : Says raw a) : Given Says (some raw) (some a)

variable {α : Type} {Says : String → α → Prop}

theorem given_none_iff {o : Option α} : Given Says none o ↔ o = none := by
  constructor
  · rintro ⟨⟩
    rfl
  · rintro rfl
    exact .unset

theorem given_some_iff {raw : String} {o : Option α} :
    Given Says (some raw) o ↔ ∃ a, Says raw a ∧ o = some a := by
  constructor
  · rintro ⟨⟩
    next a said => exact ⟨a, said, rfl⟩
  · rintro ⟨a, said, rfl⟩
    exact .set said

/-! ## 2. Readers of variables -/

variable (env : Environment) (name : String)

/-- A reader of variables gives what they say, if it parses just what they say. -/
theorem read?_eq_ok_iff {parse : String → Except String α}
    (hparse : ∀ raw a, parse (trim raw) = .ok a ↔ Says raw a) (o : Option α) :
    env.read? name parse = .ok o ↔ Given Says (env.get? name) o := by
  rw [read?]
  cases env.get? name with
  | none => simp only [given_none_iff, Except.ok.injEq, eq_comm]
  | some raw =>
    simp only [given_some_iff, ← hparse]
    cases parse (trim raw) with
    | ok a => simp only [Except.ok.injEq, exists_eq_left', eq_comm]
    | error reason => simp only [reduceCtorEq, false_and, exists_false]

theorem nat?_eq_ok_iff (o : Option Nat) :
    env.nat? maxNat64 name = .ok o ↔ Given SaysNumber (env.get? name) o := by
  refine env.read?_eq_ok_iff name (fun raw n => ?_) o
  rw [Except.mapError_eq_ok_iff, parseNat_eq_ok_iff]
  rfl

theorem named?_eq_some_iff (s : String) (f : LogFormat) :
    LogFormat.named? s = some f ↔ s = f.name := by
  constructor
  · intro h
    unfold LogFormat.named? at h
    split at h <;> cases h <;> rfl
  · rintro rfl
    cases f <;> rfl

theorem format?_eq_ok_iff (o : Option LogFormat) :
    env.format? name = .ok o ↔ Given SaysFormat (env.get? name) o := by
  refine env.read?_eq_ok_iff name (fun raw f => ?_) o
  rw [Except.mapError_eq_ok_iff, LogFormat.parse, SaysFormat, ← named?_eq_some_iff]
  cases LogFormat.named? (lowerLatin (trim raw)) with
  | none => simp only [reduceCtorEq]
  | some f' => simp only [Except.ok.injEq, Option.some.injEq]

theorem flagWord?_eq_some_iff (s : String) (b : Bool) : flagWord? s = some b ↔ s ∈ flagWords b := by
  constructor
  · intro h
    unfold flagWord? at h
    split at h <;> cases h <;> simp [flagWords]
  · intro h
    cases b <;> simp only [flagWords, List.mem_cons, List.not_mem_nil, or_false] at h
    · rcases h with rfl | rfl | rfl | rfl | rfl | rfl <;> rfl
    · rcases h with rfl | rfl | rfl | rfl | rfl <;> rfl

theorem flag?_eq_ok_iff (o : Option Bool) :
    env.flag? name = .ok o ↔ Given SaysFlag (env.get? name) o := by
  rw [flag?]
  cases env.get? name with
  | none => simp only [given_none_iff, Except.ok.injEq, eq_comm]
  | some raw =>
    simp only [given_some_iff, SaysFlag, ← flagWord?_eq_some_iff]
    cases flagWord? (lowerLatin (trim raw)) with
    | some b => simp only [Except.ok.injEq, Option.some.injEq, exists_eq_left', eq_comm]
    | none => simp only [reduceCtorEq, false_and, exists_false]

/-! ## 3. Replaced settings -/

/-- What becomes of a setting: it stays unless its variable is set. -/
inductive Replaced (Says : String → α → Prop) (old : α) : Option String → α → Prop where
  | kept : Replaced Says old none old
  | set {raw : String} {a : α} (said : Says raw a) : Replaced Says old (some raw) a

section

variable {old new : α} {found : Option String}

theorem replaced_iff_given :
    Replaced Says old found new ↔ ∃ o, Given Says found o ∧ o.getD old = new := by
  constructor
  · rintro (_ | said)
    · exact ⟨none, .unset, rfl⟩
    · exact ⟨some new, .set said, rfl⟩
  · rintro ⟨o, _ | said, rfl⟩
    · exact .kept
    · exact .set said

/-- A setting that its variable has replaced is not changed when it is replaced again. -/
theorem Replaced.again (h : Replaced Says old found new) : Replaced Says new found new := by
  cases h with
  | kept => exact .kept
  | set said => exact .set said

theorem exists_replaced_iff (Says : String → α → Prop) (old : α) (found : Option String) :
    (∃ new, Replaced Says old found new) ↔ ∀ raw, found = some raw → ∃ a, Says raw a := by
  cases found with
  | none => exact ⟨fun _ => nofun, fun _ => ⟨old, .kept⟩⟩
  | some raw =>
    constructor
    · intro ⟨new, h⟩ raw' hraw
      cases hraw
      cases h with
      | set said => exact ⟨new, said⟩
    · intro h
      obtain ⟨a, said⟩ := h raw rfl
      exact ⟨a, .set said⟩

end

/-- What a variable says of the timeout: a number of milliseconds. -/
def SaysTimeout (raw : String) (timeout : Option Nat) : Prop :=
  ∃ ms, SaysNumber raw ms ∧ timeout = some ms

theorem replaced_timeout_iff_given {old new : Option Nat} {found : Option String} :
    Replaced SaysTimeout old found new ↔ ∃ o, Given SaysNumber found o ∧ o.or old = new := by
  constructor
  · rintro (_ | ⟨ms, said, rfl⟩)
    · exact ⟨none, .unset, rfl⟩
    · exact ⟨some ms, .set said, rfl⟩
  · rintro ⟨o, _ | said, rfl⟩
    · exact .kept
    · exact .set ⟨_, said, rfl⟩

theorem replaced_verbatim_iff {old new : String} {found : Option String} :
    Replaced Eq old found new ↔ found.getD old = new := by
  constructor
  · rintro (_ | said)
    · rfl
    · exact said
  · rintro rfl
    cases found with
    | none => exact .kept
    | some raw => exact .set rfl

/-! ## 4. What is written into variables -/

theorem saysNumber_toString {n : Nat} (h : n ≤ maxNat64) : SaysNumber (toString n) n :=
  ⟨decimal_trim_toString n, h⟩

theorem saysFlag_toString (b : Bool) : SaysFlag (toString b) b := by
  rw [SaysFlag]
  cases b <;> decide +kernel

theorem saysFormat_name (f : LogFormat) : SaysFormat f.name f := by
  cases f <;> rfl

/-! ## 5. The five settings -/

/-- Each variable that is set says something of the kind that its setting needs. -/
structure Readable (lookup : String → Option String) : Prop where
  hops : ∀ raw, lookup "CLIMODE_MAX_MACRO_HOPS" = some raw → ∃ n, SaysNumber raw n
  timeout : ∀ raw, lookup "CLIMODE_COMMAND_TIMEOUT_MS" = some raw → ∃ ms, SaysNumber raw ms
  strip : ∀ raw, lookup "CLIMODE_STRIP_ANSI" = some raw → ∃ b, SaysFlag raw b
  format : ∀ raw, lookup "CLIMODE_LOG_FORMAT" = some raw → ∃ f, SaysFormat raw f

end Environment

open Environment

namespace Engine

/-- Some settings, with those replaced whose variables are set. The filter is taken as it stands. -/
structure Overlaid (lookup : String → Option String) (e e' : Engine) : Prop where
  lineEnding : e'.lineEnding = e.lineEnding
  hops : Replaced SaysNumber e.maxHops (lookup "CLIMODE_MAX_MACRO_HOPS") e'.maxHops
  timeout : Replaced SaysTimeout e.commandTimeout (lookup "CLIMODE_COMMAND_TIMEOUT_MS")
    e'.commandTimeout
  strip : Replaced SaysFlag e.stripControls (lookup "CLIMODE_STRIP_ANSI") e'.stripControls
  filter : Replaced Eq e.logging.filter (lookup "CLIMODE_LOG_FILTER") e'.logging.filter
  format : Replaced SaysFormat e.logging.format (lookup "CLIMODE_LOG_FORMAT") e'.logging.format

variable (lookup : String → Option String) (e e' : Engine)

theorem withEnvironment_eq_ok_iff :
    e.withEnvironment ⟨ownLead, lookup⟩ = .ok e' ↔ Overlaid lookup e e' := by
  have hhops : get? ⟨ownLead, lookup⟩ "MAX_MACRO_HOPS" = lookup "CLIMODE_MAX_MACRO_HOPS" := rfl
  have htimeout : get? ⟨ownLead, lookup⟩ "COMMAND_TIMEOUT_MS" =
    lookup "CLIMODE_COMMAND_TIMEOUT_MS" := rfl
  have hstrip : get? ⟨ownLead, lookup⟩ "STRIP_ANSI" = lookup "CLIMODE_STRIP_ANSI" := rfl
  have hfilter : get? ⟨ownLead, lookup⟩ "LOG_FILTER" = lookup "CLIMODE_LOG_FILTER" := rfl
  have hformat : get? ⟨ownLead, lookup⟩ "LOG_FORMAT" = lookup "CLIMODE_LOG_FORMAT" := rfl
  simp only [withEnvironment, Except.bind_eq_ok_iff, nat?_eq_ok_iff, flag?_eq_ok_iff,
    format?_eq_ok_iff, hhops, htimeout, hstrip, hfilter, hformat]
  constructor
  · rintro ⟨hops, ghops, timeout, gtimeout, strip, gstrip, format, gformat, h⟩
    cases h
    exact
      { lineEnding := rfl
        hops := replaced_iff_given.mpr ⟨hops, ghops, rfl⟩
        timeout := replaced_timeout_iff_given.mpr ⟨timeout, gtimeout, rfl⟩
        strip := replaced_iff_given.mpr ⟨strip, gstrip, rfl⟩
        filter := replaced_verbatim_iff.mpr rfl
        format := replaced_iff_given.mpr ⟨format, gformat, rfl⟩ }
  · rintro ⟨hline, rhops, rtimeout, rstrip, rfilter, rformat⟩
    obtain ⟨hops, ghops, hhops'⟩ := replaced_iff_given.mp rhops
    obtain ⟨timeout, gtimeout, htimeout'⟩ := replaced_timeout_iff_given.mp rtimeout
    obtain ⟨strip, gstrip, hstrip'⟩ := replaced_iff_given.mp rstrip
    obtain ⟨format, gformat, hformat'⟩ := replaced_iff_given.mp rformat
    refine ⟨hops, ghops, timeout, gtimeout, strip, gstrip, format, gformat, ?_⟩
    rw [hhops', htimeout', hstrip', hformat', replaced_verbatim_iff.mp rfilter, ← hline]
    rfl

variable {lookup} {e e'}

/-- There are settings to come to if and only if all variables can be read. -/
theorem exists_overlaid_iff : (∃ e', Overlaid lookup e e') ↔ Readable lookup := by
  constructor
  · rintro ⟨e', h⟩
    have htimeout := (exists_replaced_iff _ _ _).mp ⟨_, h.timeout⟩
    exact
      { hops := (exists_replaced_iff _ _ _).mp ⟨_, h.hops⟩
        timeout := fun raw hraw =>
          let ⟨_, ms, said, _⟩ := htimeout raw hraw
          ⟨ms, said⟩
        strip := (exists_replaced_iff _ _ _).mp ⟨_, h.strip⟩
        format := (exists_replaced_iff _ _ _).mp ⟨_, h.format⟩ }
  · intro h
    have htimeout : ∀ raw, lookup "CLIMODE_COMMAND_TIMEOUT_MS" = some raw →
        ∃ timeout, SaysTimeout raw timeout := fun raw hraw =>
      let ⟨ms, said⟩ := h.timeout raw hraw
      ⟨some ms, ms, said, rfl⟩
    obtain ⟨hops, rhops⟩ := (exists_replaced_iff _ e.maxHops _).mpr h.hops
    obtain ⟨timeout, rtimeout⟩ := (exists_replaced_iff _ e.commandTimeout _).mpr htimeout
    obtain ⟨strip, rstrip⟩ := (exists_replaced_iff _ e.stripControls _).mpr h.strip
    obtain ⟨format, rformat⟩ := (exists_replaced_iff _ e.logging.format _).mpr h.format
    exact ⟨⟨e.lineEnding, hops, timeout, strip, _, format⟩, rfl, rhops, rtimeout, rstrip,
      replaced_verbatim_iff.mpr rfl, rformat⟩

theorem Overlaid.again (h : Overlaid lookup e e') : Overlaid lookup e' e' :=
  { lineEnding := rfl
    hops := h.hops.again
    timeout := h.timeout.again
    strip := h.strip.again
    filter := h.filter.again
    format := h.format.again }

/-- The variables hold some settings, as these are printed. -/
structure Written (lookup : String → Option String) (e : Engine) : Prop where
  hops : lookup "CLIMODE_MAX_MACRO_HOPS" = some (toString e.maxHops)
  timeout : ∃ ms, e.commandTimeout = some ms ∧
    lookup "CLIMODE_COMMAND_TIMEOUT_MS" = some (toString ms)
  strip : lookup "CLIMODE_STRIP_ANSI" = some (toString e.stripControls)
  filter : lookup "CLIMODE_LOG_FILTER" = some e.logging.filter
  format : lookup "CLIMODE_LOG_FORMAT" = some e.logging.format.name

/-- The numbers of some settings have 64 bits. -/
structure Sized (e : Engine) : Prop where
  hops : e.maxHops ≤ maxNat64
  timeout : ∀ ms, e.commandTimeout = some ms → ms ≤ maxNat64

/-- Settings that are written into the variables take the place of any others. -/
theorem Written.overlaid {source : Engine} (h : Written lookup source) (hsized : source.Sized) :
    Overlaid lookup e { source with lineEnding := e.lineEnding } := by
  obtain ⟨ms, hms, hlookup⟩ := h.timeout
  refine ⟨rfl, ?_, ?_, ?_, ?_, ?_⟩
  · rw [h.hops]
    exact .set (saysNumber_toString hsized.hops)
  · rw [hlookup]
    exact .set ⟨ms, saysNumber_toString (hsized.timeout ms hms), hms⟩
  · rw [h.strip]
    exact .set (saysFlag_toString _)
  · rw [h.filter]
    exact .set rfl
  · rw [h.format]
    exact .set (saysFormat_name _)

/-- **Settings can be overlaid exactly if every variable that is set can be read; then just the
    settings of those variables are replaced, doing it again changes nothing, and settings that have
    been written into the variables are found in the result.** -/
theorem withEnvironment_overlaid (e : Engine) (lookup : String → Option String) :
    ((∃ e', e.withEnvironment ⟨ownLead, lookup⟩ = .ok e') ↔ Readable lookup) ∧
    (∀ e', e.withEnvironment ⟨ownLead, lookup⟩ = .ok e' ↔ Overlaid lookup e e') ∧
    (∀ e', e.withEnvironment ⟨ownLead, lookup⟩ = .ok e' →
      e'.withEnvironment ⟨ownLead, lookup⟩ = .ok e') ∧
    (∀ source, Written lookup source → source.Sized →
      e.withEnvironment ⟨ownLead, lookup⟩ = .ok { source with lineEnding := e.lineEnding }) := by
  have hok := withEnvironment_eq_ok_iff lookup
  refine ⟨?_, hok e, fun e' h => ?_, fun source hwritten hsized => ?_⟩
  · simp only [hok]
    exact exists_overlaid_iff
  · exact (hok e' e').mpr ((hok e e').mp h).again
  · exact (hok e _).mpr (hwritten.overlaid hsized)

/-- Settings that differ in all five fields, with a timeout of the greatest size. -/
theorem withEnvironment_overlaid_written :
    let source : Engine :=
      { lineEnding := "\n", maxHops := 0, commandTimeout := some 18446744073709551615,
        stripControls := true, logging := ⟨"warn", .json⟩ }
    let env := Environment.ofList ownLead
      [("CLIMODE_MAX_MACRO_HOPS", "0"), ("CLIMODE_COMMAND_TIMEOUT_MS", "18446744073709551615"),
        ("CLIMODE_STRIP_ANSI", "true"), ("CLIMODE_LOG_FILTER", "warn"),
        ("CLIMODE_LOG_FORMAT", "json")]
    ({} : Engine).withEnvironment env = .ok { source with lineEnding := "\r" } ∧
      { source with lineEnding := "\r" }.withEnvironment env =
        .ok { source with lineEnding := "\r" } := by
  intro source env
  have h := withEnvironment_overlaid {} env.lookup
  have hsized : source.Sized := ⟨by decide, fun ms hms => by cases hms; decide⟩
  have hwritten : Written env.lookup source :=
    { hops := by decide +kernel
      timeout := ⟨18446744073709551615, rfl, by decide +kernel⟩
      strip := by decide +kernel
      filter := by decide +kernel
      format := by decide +kernel }
  have happlied := h.2.2.2 source hwritten hsized
  exact ⟨happlied, h.2.2.1 _ happlied⟩

end Engine

end DeviceCli
