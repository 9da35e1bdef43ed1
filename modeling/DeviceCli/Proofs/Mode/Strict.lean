import DeviceCli.Proofs.Except
import DeviceCli.Proofs.Mode.Construction

/-!
# What may be added to a document of modes

A document of modes has records at three depths: modes, and in a mode its pager and the steps of its
macros. Each record has a fixed set of members, and some of them may be null. The names of modes and
macros are free.

* `Gap` is an object with a gap between two of its members; `Spot` leads to a record of a
  document, through everything that stands around it;
* `Json.record_object_eq_ok_iff`: what a strict record asks of its members;
* `Row.NullAt`: a record that has a null where another has nothing is read like the other one, by
  each reader of a member that may be null;
* `Spot.modesOfJson_fill`: a document is read by reading the record at a spot and going on with
  what that comes to;
* `Spot.modesOfJson_put`: **a further member is refused by its name, and a null that may be left
  out changes nothing**, in each record of an accepted document and at each position in it.
-/

namespace DeviceCli

open DeviceCli.Json

/-- An object with a gap between two of its members, or at an end of them. -/
structure Gap where
  front : List (String × Json)
  back : List (String × Json)

namespace Gap

/-- The names of the members. -/
def keys (gap : Gap) : List String := gap.front.map (·.1) ++ gap.back.map (·.1)

/-- The object as it is. -/
def closed (gap : Gap) : Json := .object (gap.front ++ gap.back)

/-- The object with a further member. -/
def put (gap : Gap) (key : String) (value : Json) : Json :=
  .object (gap.front ++ (key, value) :: gap.back)

end Gap

/-! ## 1. Members of strict records -/

namespace Json

variable {d : Dialect} {names : List String} {gap : Gap} {key : String} {row : Row}

/-- Members are checked by their names alone: each is known and comes once. -/
theorem checkMembers_eq_ok_iff {seen : List String} {members : List (String × Json)} :
    checkMembers true names seen members = .ok () ↔
      (members.map (·.1)).Nodup ∧ ∀ name ∈ members.map (·.1), name ∈ names ∧ name ∉ seen := by
  constructor
  · intro h
    induction members generalizing seen with
    | nil => exact ⟨List.nodup_nil, nofun⟩
    | cons member members ih =>
      obtain ⟨key, value⟩ := member
      rw [checkMembers] at h
      split at h
      · next hknown =>
        split at h
        · cases h
        · next hnew =>
          obtain ⟨hnodup, hmembers⟩ := ih h
          rw [List.map_cons]
          refine ⟨List.nodup_cons.mpr ⟨fun hkey => ?_, hnodup⟩, ?_⟩
          · exact (hmembers key hkey).2 List.mem_cons_self
          · intro name hname
            rcases List.mem_cons.mp hname with rfl | hname
            · exact ⟨by simpa using hknown, by simpa using hnew⟩
            · exact ⟨(hmembers name hname).1, fun hs =>
                (hmembers name hname).2 (List.mem_cons_of_mem _ hs)⟩
      · cases h
  · rintro ⟨hnodup, hmembers⟩
    exact checkMembers_eq_ok (fun m hm => (hmembers _ (List.mem_map_of_mem hm)).1) hnodup
      fun m hm => (hmembers _ (List.mem_map_of_mem hm)).2

/-- **A strict record takes members that it knows, each once.** -/
theorem record_object_eq_ok_iff {members : List (String × Json)} :
    record d true names (.object members) = .ok row ↔
      ((members.map (·.1)).Nodup ∧ ∀ name ∈ members.map (·.1), name ∈ names) ∧
        row = fun name => members.lookup name := by
  have hcheck : checkMembers true names [] members = .ok () ↔
      (members.map (·.1)).Nodup ∧ ∀ name ∈ members.map (·.1), name ∈ names :=
    checkMembers_eq_ok_iff.trans <| and_congr_right fun _ => by simp
  rw [← hcheck, record, Except.bind_eq_ok_iff]
  constructor
  · rintro ⟨_, hmembers, hrow⟩
    exact ⟨hmembers, (Except.ok.inj hrow).symm⟩
  · rintro ⟨hmembers, rfl⟩
    exact ⟨(), hmembers, rfl⟩

/-- The first member that a record does not know is refused by its name. -/
theorem checkMembers_unknown {seen : List String} {front back : List (String × Json)}
    (h : checkMembers true names seen (front ++ back) = .ok ()) (hkey : key ∉ names)
    (value : Json) :
    checkMembers true names seen (front ++ (key, value) :: back) =
      .error (.unknownMember key) := by
  induction front generalizing seen with
  | nil =>
    have hunknown : names.contains key = false := by simpa using hkey
    rw [List.nil_append, checkMembers, hunknown]
    rfl
  | cons member front ih =>
    obtain ⟨name, first⟩ := member
    rw [List.cons_append, checkMembers] at h ⊢
    split at h
    · next hname =>
      split at h
      · cases h
      · next hnew =>
        rw [if_pos hname, if_neg hnew]
        exact ih h
    · cases h

theorem record_unknown (h : record d true names gap.closed = .ok row) (hkey : key ∉ names)
    (value : Json) : record d true names (gap.put key value) = .error (.unknownMember key) := by
  rw [Gap.closed, record] at h
  obtain ⟨_, hcheck, -⟩ := Except.bind_eq_ok_iff.mp h
  rw [Gap.put, record, checkMembers_unknown hcheck hkey]
  rfl

/-! ## 2. Records that differ in one member -/

theorem lookup_put {value : Json} {name : String} (hkey : key ∉ gap.front.map (·.1)) :
    (gap.front ++ (key, value) :: gap.back).lookup name =
      if name = key then some value else (gap.front ++ gap.back).lookup name := by
  rw [List.lookup_append, List.lookup_append, List.lookup_cons]
  by_cases hname : name = key
  · subst hname
    have hfront : gap.front.lookup name = none := List.lookup_eq_none_iff.mpr fun m hm => by
      simpa using fun e : name = m.1 => hkey (e ▸ List.mem_map_of_mem hm)
    rw [hfront, beq_self_eq_true, if_pos rfl, Option.none_or]
  · rw [beq_eq_false_iff_ne.mpr hname, if_neg hname]

/-- Two records have the same members, up to one. -/
def Row.SameBut (key : String) (row changed : Row) : Prop :=
  ∀ name, name ≠ key → changed name = row name

namespace Row.SameBut

variable {α : Type} {name : String} {changed : Row} (h : SameBut key row changed)
include h

theorem optional_eq (hname : name ≠ key) (read : Json → Except Mismatch α) :
    optional changed name read = optional row name read := by
  simp only [optional, h name hname]

theorem required_eq (hname : name ≠ key) (read : Json → Except Mismatch α) :
    required changed name read = required row name read := by
  simp only [required, h name hname]

theorem withDefault_eq (hname : name ≠ key) (read : Json → Except Mismatch α) (value : α) :
    withDefault changed name read value = withDefault row name read value := by
  simp only [withDefault, h name hname]

end Row.SameBut

/-- A record with a null for a member that another one, which is the same otherwise, leaves out. -/
structure Row.NullAt (key : String) (row nulled : Row) : Prop where
  absent : row key = none
  null : nulled key = some .null
  same : row.SameBut key nulled

/-- For an optional member a null is as good as nothing. -/
theorem Row.NullAt.optional_eq {α : Type} {nulled : Row} (h : NullAt key row nulled)
    (name : String) (read : Json → Except Mismatch α) :
    optional nulled name read = optional row name read := by
  by_cases hname : name = key
  · subst hname
    simp only [optional, h.absent, h.null]
  · exact h.same.optional_eq hname read

/-- A null under a name that the record knows and does not have yet. -/
theorem record_null (h : record d true names gap.closed = .ok row) (hkey : key ∈ names)
    (hnew : key ∉ gap.keys) :
    ∃ nulled, record d true names (gap.put key .null) = .ok nulled ∧ row.NullAt key nulled := by
  obtain ⟨⟨hnodup, hknown⟩, rfl⟩ := record_object_eq_ok_iff.mp h
  rw [List.map_append] at hnodup hknown
  have hfront : key ∉ gap.front.map (·.1) := fun hmem => hnew (List.mem_append_left _ hmem)
  refine ⟨_, record_object_eq_ok_iff.mpr ⟨⟨?_, fun name hname => ?_⟩, rfl⟩, ?_, ?_, ?_⟩
  · rw [List.map_append, List.map_cons]
    exact List.perm_middle.nodup_iff.mpr (List.nodup_cons.mpr ⟨hnew, hnodup⟩)
  · rw [List.map_append, List.map_cons] at hname
    rcases List.mem_cons.mp (List.perm_middle.mem_iff.mp hname) with rfl | hname
    · exact hkey
    · exact hknown name hname
  · rw [Gap.keys, ← List.map_append] at hnew
    refine List.lookup_eq_none_iff.mpr fun m hm => ?_
    simpa using fun e : key = m.1 => hnew (e ▸ List.mem_map_of_mem hm)
  · exact (lookup_put hfront).trans (if_pos rfl)
  · exact fun name hname => (lookup_put hfront).trans (if_neg hname)

/-- A member may have any other value, as far as the record itself is concerned. -/
theorem record_put {value : Json} (h : record d true names (gap.put key value) = .ok row)
    (other : Json) :
    ∃ changed, record d true names (gap.put key other) = .ok changed ∧ row.SameBut key changed ∧
      row key = some value ∧ changed key = some other := by
  obtain ⟨⟨hnodup, hknown⟩, rfl⟩ := record_object_eq_ok_iff.mp h
  rw [List.map_append, List.map_cons] at hnodup hknown
  have hfront : key ∉ gap.front.map (·.1) := fun hmem =>
    (List.nodup_cons.mp (List.perm_middle.nodup_iff.mp hnodup)).1 (List.mem_append_left _ hmem)
  have hother : ∀ value name, name ≠ key →
      (gap.front ++ (key, value) :: gap.back).lookup name = (gap.front ++ gap.back).lookup name :=
    fun value name hname => (lookup_put hfront).trans (if_neg hname)
  refine ⟨_, record_object_eq_ok_iff.mpr ⟨⟨?_, ?_⟩, rfl⟩, fun name hname => ?_, ?_, ?_⟩
  · rwa [List.map_append, List.map_cons]
  · rwa [List.map_append, List.map_cons]
  · exact (hother other name hname).trans (hother value name hname).symm
  · exact (lookup_put hfront).trans (if_pos rfl)
  · exact (lookup_put hfront).trans (if_pos rfl)

/-! ## 3. Maps -/

section Maps

variable {α : Type} {read : Json → Except Mismatch α}

theorem readEntries_append (front back : List (String × Json)) :
    readEntries read (front ++ back) =
      readEntries read front >>= fun before => (readEntries read back).map (before ++ ·) := by
  induction front with
  | nil =>
    rw [List.nil_append, readEntries]
    cases readEntries read back <;> rfl
  | cons member front ih =>
    obtain ⟨key, value⟩ := member
    rw [List.cons_append, readEntries, readEntries, ih]
    cases read value with
    | error e => rfl
    | ok a =>
      cases readEntries read front with
      | error e => rfl
      | ok before => cases readEntries read back <;> rfl

/-- A map that was read is read by reading the value under any of its keys, and going on. -/
theorem asKeyed_put (read : Json → Except Mismatch α) {j : Json} {m : Keyed α}
    (h : asKeyed read (gap.put key j) = .ok m) :
    (∃ a, read j = .ok a) ∧
      ∃ more, ∀ other, asKeyed read (gap.put key other) = read other >>= more := by
  have hput : ∀ other, asKeyed read (gap.put key other) =
      (readEntries read (gap.front ++ (key, other) :: gap.back)).map Keyed.ofList := fun _ => rfl
  rw [hput, readEntries_append, readEntries] at h
  cases hfront : readEntries read gap.front with
  | error e =>
    rw [hfront] at h
    cases h
  | ok before =>
    rw [hfront] at h
    constructor
    · cases hj : read j with
      | error e =>
        rw [hj] at h
        cases h
      | ok a => exact ⟨a, rfl⟩
    · refine ⟨fun a => (readEntries read gap.back).map fun behind =>
        Keyed.ofList (before ++ (key, a) :: behind), fun other => ?_⟩
      rw [hput, readEntries_append, hfront, readEntries]
      cases read other with
      | error e => rfl
      | ok a => cases readEntries read gap.back <;> rfl

end Maps

end Json

/-! ## 4. Records of modes -/

namespace Mode

variable {d : Dialect} {gap : Gap} {mode : Mode}

/-- A mode is read member by member. -/
theorem ofJson_eq_ok_iff {j : Json} :
    ofJson d j = .ok mode ↔ ∃ row, record d true memberNames j = .ok row ∧
      required row "prompt" Pattern.ofJson = .ok mode.prompt ∧
      Json.optional row "error" Pattern.ofJson = .ok mode.error ∧
      Json.optional row "fail" asString = .ok mode.fail ∧
      withDefault row "clearPrompt" asBool false = .ok mode.clearPrompt ∧
      Json.optional row "pager" (Pager.ofJson d) = .ok mode.pager ∧
      withDefault row "macros" (asKeyed (Step.ofJson d)) Keyed.empty = .ok mode.macros := by
  rw [ofJson]
  simp only [Except.bind_eq_ok_iff]
  constructor
  · rintro ⟨row, hrow, _, hprompt, _, herror, _, hfail, _, hclear, _, hpager, _, hmacros, ⟨⟩⟩
    exact ⟨row, hrow, hprompt, herror, hfail, hclear, hpager, hmacros⟩
  · rintro ⟨row, hrow, hprompt, herror, hfail, hclear, hpager, hmacros⟩
    exact ⟨row, hrow, _, hprompt, _, herror, _, hfail, _, hclear, _, hpager, _, hmacros, rfl⟩

/-- A mode that was read is read by reading its pager, and going on. -/
theorem ofJson_put_pager {members : List (String × Json)}
    (h : ofJson d (gap.put "pager" (.object members)) = .ok mode) :
    (∃ pager, Pager.ofJson d (.object members) = .ok pager) ∧
      ∃ more, ∀ others, ofJson d (gap.put "pager" (.object others)) =
        Pager.ofJson d (.object others) >>= more := by
  have hpresent {row : Row} {members : List (String × Json)}
      (hself : row "pager" = some (.object members)) :
      Json.optional row "pager" (Pager.ofJson d) = (Pager.ofJson d (.object members)).map some := by
    rw [Json.optional, hself]
  obtain ⟨row, hrow, hprompt, herror, hfail, hclear, hpager, hmacros⟩ := ofJson_eq_ok_iff.mp h
  refine ⟨?_, fun pager => .ok { mode with pager := some pager }, fun others => ?_⟩
  · obtain ⟨-, -, -, hself, -⟩ := record_put hrow .null
    rw [hpresent hself] at hpager
    cases hread : Pager.ofJson d (.object members) with
    | ok read => exact ⟨read, rfl⟩
    | error e =>
      rw [hread] at hpager
      cases hpager
  · obtain ⟨changed, hchanged, hsame, -, hself⟩ := record_put hrow (.object others)
    rw [ofJson, hchanged]
    simp only [bind, Except.bind, hsame.required_eq (show "prompt" ≠ "pager" by decide), hprompt,
      hsame.optional_eq (show "error" ≠ "pager" by decide), herror,
      hsame.optional_eq (show "fail" ≠ "pager" by decide), hfail,
      hsame.withDefault_eq (show "clearPrompt" ≠ "pager" by decide), hclear, hpresent hself,
      hsame.withDefault_eq (show "macros" ≠ "pager" by decide), hmacros]
    cases Pager.ofJson d (.object others) <;> rfl

/-- A mode that was read is read by reading its macros, and going on. -/
theorem ofJson_put_macros {j : Json} (h : ofJson d (gap.put "macros" j) = .ok mode) :
    (∃ macros, asKeyed (Step.ofJson d) j = .ok macros) ∧
      ∃ more, ∀ other, ofJson d (gap.put "macros" other) =
        asKeyed (Step.ofJson d) other >>= more := by
  obtain ⟨row, hrow, hprompt, herror, hfail, hclear, hpager, hmacros⟩ := ofJson_eq_ok_iff.mp h
  refine ⟨?_, fun macros => .ok { mode with macros := macros }, fun other => ?_⟩
  · obtain ⟨-, -, -, hself, -⟩ := record_put hrow .null
    exact ⟨_, (withDefault_of_some hself _ _).symm.trans hmacros⟩
  · obtain ⟨changed, hchanged, hsame, -, hself⟩ := record_put hrow other
    rw [ofJson, hchanged]
    simp only [bind, Except.bind, hsame.required_eq (show "prompt" ≠ "macros" by decide), hprompt,
      hsame.optional_eq (show "error" ≠ "macros" by decide), herror,
      hsame.optional_eq (show "fail" ≠ "macros" by decide), hfail,
      hsame.withDefault_eq (show "clearPrompt" ≠ "macros" by decide), hclear,
      hsame.optional_eq (show "pager" ≠ "macros" by decide), hpager, withDefault_of_some hself]
    rfl

end Mode

/-! ## 5. Nulls in each record -/

section Nulls

variable {d : Dialect} {gap : Gap} {key : String} (hnew : key ∉ gap.keys)
include hnew

namespace Mode

/-- The members of a mode that may be null. -/
def nullableNames : List String := ["error", "fail", "pager"]

theorem ofJson_null {mode : Mode} (h : ofJson d gap.closed = .ok mode)
    (hkey : key ∈ nullableNames) : ofJson d (gap.put key .null) = .ok mode := by
  have hknown : nullableNames ⊆ memberNames := by decide
  have hother {name : String} (hname : name ∉ nullableNames) : name ≠ key := fun e =>
    hname (e ▸ hkey)
  obtain ⟨row, hrow, h⟩ := Except.bind_eq_ok_iff.mp h
  obtain ⟨nulled, hnulled, hnull⟩ := record_null hrow (hknown hkey) hnew
  refine Except.bind_eq_ok_iff.mpr ⟨nulled, hnulled, ?_⟩
  simp only [hnull.optional_eq, hnull.same.required_eq (hother (show "prompt" ∉ _ by decide)),
    hnull.same.withDefault_eq (hother (show "clearPrompt" ∉ _ by decide)),
    hnull.same.withDefault_eq (hother (show "macros" ∉ _ by decide))]
  exact h

end Mode

namespace Pager

/-- The members of a pager that may be null. -/
def nullableNames : List String := ["match", "response"]

theorem ofJson_null {pager : Pager} (h : ofJson d gap.closed = .ok pager)
    (hkey : key ∈ nullableNames) : ofJson d (gap.put key .null) = .ok pager := by
  have hknown : nullableNames ⊆ memberNames := by decide
  have hother {name : String} (hname : name ∉ nullableNames) : name ≠ key := fun e =>
    hname (e ▸ hkey)
  obtain ⟨row, hrow, h⟩ := Except.bind_eq_ok_iff.mp h
  obtain ⟨nulled, hnulled, hnull⟩ := record_null hrow (hknown hkey) hnew
  refine Except.bind_eq_ok_iff.mpr ⟨nulled, hnulled, ?_⟩
  simp only [hnull.optional_eq, hnull.same.withDefault_eq (hother (show "avoid" ∉ _ by decide))]
  exact h

end Pager

namespace Step

/-- The members of a step that may be null. -/
def nullableNames : List String := ["cmd", "waitBefore", "waitAfter", "timeout", "target"]

theorem ofJson_null {step : Step} (h : ofJson d gap.closed = .ok step)
    (hkey : key ∈ nullableNames) : ofJson d (gap.put key .null) = .ok step := by
  have hknown : nullableNames ⊆ memberNames := by decide
  have hother {name : String} (hname : name ∉ nullableNames) : name ≠ key := fun e =>
    hname (e ▸ hkey)
  obtain ⟨row, hrow, h⟩ := Except.bind_eq_ok_iff.mp h
  obtain ⟨nulled, hnulled, hnull⟩ := record_null hrow (hknown hkey) hnew
  refine Except.bind_eq_ok_iff.mpr ⟨nulled, hnulled, ?_⟩
  simp only [hnull.optional_eq, hnull.same.required_eq (hother (show "options" ∉ _ by decide)),
    hnull.same.withDefault_eq (hother (show "noCr" ∉ _ by decide))]
  exact h

end Step

end Nulls

/-! ## 6. Places -/

/-- The way to a record of a document of modes, through all that stands around it. -/
inductive Spot where
  | mode (modes : Gap) (name : String)
  | pager (modes : Gap) (name : String) (parts : Gap)
  | step (modes : Gap) (name : String) (parts macros : Gap) (macroName : String)

namespace Spot

/-- The document with a record at the spot. -/
def fill : Spot → Json → Json
  | mode modes name, j => modes.put name j
  | pager modes name parts, j => modes.put name (parts.put "pager" j)
  | step modes name parts macros macroName, j =>
    modes.put name (parts.put "macros" (macros.put macroName j))

/-- The members that the record at the spot may have. -/
def names : Spot → List String
  | mode .. => Mode.memberNames
  | pager .. => Pager.memberNames
  | step .. => Step.memberNames

/-- Those of them that may be null. -/
def nullableNames : Spot → List String
  | mode .. => Mode.nullableNames
  | pager .. => Pager.nullableNames
  | step .. => Step.nullableNames

/-- What kind of record is at the spot. -/
abbrev Content : Spot → Type
  | mode .. => Mode
  | pager .. => Pager
  | step .. => Step

/-- Reads the record at the spot. -/
def read (d : Dialect) : (spot : Spot) → Json → Except Mismatch spot.Content
  | mode .., j => Mode.ofJson d j
  | pager .., j => Pager.ofJson d j
  | step .., j => Step.ofJson d j

variable {d : Dialect} {spot : Spot} {gap : Gap} {key : String}

/-- **A document of modes is read by reading the record at a spot, and going on.** -/
theorem modesOfJson_fill {members : List (String × Json)} {read : Keyed Mode}
    (h : modesOfJson d (spot.fill (.object members)) = .ok read) :
    (∃ content, spot.read d (.object members) = .ok content) ∧
      ∃ more, ∀ others, modesOfJson d (spot.fill (.object others)) =
        spot.read d (.object others) >>= more := by
  cases spot with
  | mode modes name =>
    obtain ⟨hread, more, hmore⟩ := asKeyed_put (Mode.ofJson d) h
    exact ⟨hread, more, fun others => hmore (.object others)⟩
  | pager modes name parts =>
    obtain ⟨⟨m, hm⟩, more, hmore⟩ := asKeyed_put (Mode.ofJson d) h
    obtain ⟨hread, further, hfurther⟩ := Mode.ofJson_put_pager hm
    refine ⟨hread, fun pager => further pager >>= more, fun others => ?_⟩
    rw [fill, modesOfJson, hmore, hfurther, bind_assoc]
    rfl
  | step modes name parts macros macroName =>
    obtain ⟨⟨m, hm⟩, more, hmore⟩ := asKeyed_put (Mode.ofJson d) h
    obtain ⟨⟨steps, hsteps⟩, further, hfurther⟩ := Mode.ofJson_put_macros hm
    obtain ⟨hread, last, hlast⟩ := asKeyed_put (Step.ofJson d) hsteps
    refine ⟨hread, fun step => last step >>= fun steps => further steps >>= more, fun others => ?_⟩
    rw [fill, modesOfJson, hmore, hfurther, hlast, bind_assoc, bind_assoc]
    rfl

/-- A member that the record at a spot does not know is refused by its name. -/
theorem read_unknown {content : spot.Content} (h : spot.read d gap.closed = .ok content)
    (hkey : key ∉ spot.names) (value : Json) :
    spot.read d (gap.put key value) = .error (.unknownMember key) := by
  cases spot with
  | mode =>
    obtain ⟨row, hrow, -⟩ := Except.bind_eq_ok_iff.mp h
    rw [read, Mode.ofJson, record_unknown hrow hkey]
    rfl
  | pager =>
    obtain ⟨row, hrow, -⟩ := Except.bind_eq_ok_iff.mp h
    rw [read, Pager.ofJson, record_unknown hrow hkey]
    rfl
  | step =>
    obtain ⟨row, hrow, -⟩ := Except.bind_eq_ok_iff.mp h
    rw [read, Step.ofJson, record_unknown hrow hkey]
    rfl

/-- A null that may be left out changes nothing in the record at a spot. -/
theorem read_null {content : spot.Content} (h : spot.read d gap.closed = .ok content)
    (hkey : key ∈ spot.nullableNames) (hnew : key ∉ gap.keys) :
    spot.read d (gap.put key .null) = .ok content := by
  cases spot with
  | mode => exact Mode.ofJson_null hnew h hkey
  | pager => exact Pager.ofJson_null hnew h hkey
  | step => exact Step.ofJson_null hnew h hkey

/-- **Records of modes are strict, and nulls are as good as nothing.** In an accepted document of
    modes, at each position of each mode, pager and step in it:

    * a further member that the record does not know makes the document refused for this member,
      whatever its value is;
    * a null for an optional member that is not there yet leaves the modes as they are.

    Both hold of documents as values and of all texts that say them, in either format. -/
theorem modesOfJson_put (format : Format) (spot : Spot) (gap : Gap) {modes : Keyed Mode}
    (h : modesOfJson format.dialect (spot.fill gap.closed) = .ok modes) :
    (∀ key value, key ∉ spot.names →
      modesOfJson format.dialect (spot.fill (gap.put key value)) = .error (.unknownMember key) ∧
      ∀ text, format.read text = .ok (spot.fill (gap.put key value)) →
        modesIn format text = .error (format.mismatch (.unknownMember key))) ∧
    ∀ key, key ∈ spot.nullableNames → key ∉ gap.keys →
      modesOfJson format.dialect (spot.fill (gap.put key .null)) = .ok modes ∧
      ∀ text, format.read text = .ok (spot.fill (gap.put key .null)) →
        modesIn format text = .ok modes := by
  obtain ⟨⟨content, hcontent⟩, more, hmore⟩ := modesOfJson_fill h
  have hmodes : more content = .ok modes := by
    rw [Gap.closed, hmore, hcontent] at h
    exact h
  have htext {j : Json} {result : Except Mismatch (Keyed Mode)}
      (hj : modesOfJson format.dialect j = result) (text : String)
      (hread : format.read text = .ok j) :
      modesIn format text = result.mapError format.mismatch := by
    rw [modesIn, hread, ← hj]
    rfl
  refine ⟨fun key value hkey => ?_, fun key hkey hnew => ?_⟩
  · have hrefused : modesOfJson format.dialect (spot.fill (gap.put key value)) =
        .error (.unknownMember key) := by
      rw [Gap.put, hmore, ← Gap.put, read_unknown hcontent hkey]
      rfl
    exact ⟨hrefused, htext hrefused⟩
  · have haccepted : modesOfJson format.dialect (spot.fill (gap.put key .null)) = .ok modes := by
      rw [Gap.put, hmore, ← Gap.put, read_null hcontent hkey hnew]
      exact hmodes
    exact ⟨haccepted, htext haccepted⟩

/-- A step with a duration under a name in the spelling of another schema, and with a null for a
    duration in a text. -/
theorem modesOfJson_put_login :
    let spot : Spot := .step ⟨[], []⟩ "login" ⟨[("prompt", .string ">")], []⟩ ⟨[], []⟩ "go"
    let gap : Gap := ⟨[("options", .array [.string "login"])], [("cmd", .string "go")]⟩
    ∃ modes, modesOfJson Format.json.dialect (spot.fill gap.closed) = .ok modes ∧
      modesOfJson Format.json.dialect (spot.fill (gap.put "wait_before" (.int 5))) =
        .error (.unknownMember "wait_before") ∧
      modesIn .json ("\x7b\"login\": \x7b\"prompt\": \">\", \"macros\": \x7b\"go\": \x7b" ++
        "\"options\": [\"login\"], \"waitBefore\": null, \"cmd\": \"go\"\x7d\x7d\x7d\x7d") =
        .ok modes := by
  intro spot gap
  have h : (modesOfJson Format.json.dialect (spot.fill gap.closed)).toOption.isSome = true := by
    decide +kernel
  obtain ⟨modes, hmodes⟩ := Option.isSome_iff_exists.mp h
  replace hmodes := Registry.ok_of_toOption hmodes
  obtain ⟨hunknown, hnull⟩ := modesOfJson_put .json spot gap hmodes
  refine ⟨modes, hmodes, ?_, ?_⟩
  · exact (hunknown "wait_before" (.int 5) (by decide)).1
  · exact (hnull "waitBefore" (by decide) (by decide)).2 _ rfl

end Spot

end DeviceCli
