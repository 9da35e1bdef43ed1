import DeviceCli.Proofs.Json.Document
import DeviceCli.Rule.Basic

/-!
# What the verdict of a rule says

A rule may return any JSON value, or fail. `Returned` lists the values that stand for a verdict, and
`Unusable` all others, each with what is wrong with it. The evaluation of a rule is then known in
every case.

* `Finding.parse_eq_ok_iff`: the names of results that a rule may return;
* `returned_or_unusable`: the two relations leave no value out;
* `Verdict.ofReturned_eq_ok_iff`, `Verdict.ofReturned_eq_error_iff`: what is read from a value, by
  the two relations;
* `Rule.Fails`: why a rule is invalid;
* `Rule.evaluate_eq_iff`: **the verdict of every rule**. That a rule is invalid is said of it, never
  by it.
-/

namespace DeviceCli

/-! ## 1. Names of results -/

namespace Finding

variable {s : String}

/-- A rule may return the name of each result but one. -/
theorem parse_eq_ok_iff {r : Finding} : parse s = .ok r ↔ r ≠ .invalidRule ∧ s = r.name := by
  constructor
  · intro h
    unfold parse at h
    split at h
    · cases h
      exact ⟨by decide, rfl⟩
    · cases h
      exact ⟨by decide, rfl⟩
    · cases h
      exact ⟨by decide, rfl⟩
    · cases h
  · rintro ⟨hr, rfl⟩
    cases r with
    | conforming => rfl
    | nonconforming => rfl
    | notApplicable => rfl
    | invalidRule => exact absurd rfl hr

/-- Any other text is refused, the name of the remaining result included. -/
theorem parse_eq_error_iff {f : Failure} :
    parse s = .error f ↔
      (∀ r : Finding, r ≠ .invalidRule → s ≠ r.name) ∧ f = .argument (.unknownResult s) := by
  have hcause : ∀ {f : Failure}, parse s = .error f → f = .argument (.unknownResult s) := by
    intro f h
    unfold parse at h
    split at h
    · cases h
    · cases h
    · cases h
    · cases h
      rfl
  constructor
  · intro h
    refine ⟨fun r hr hs => ?_, hcause h⟩
    rw [parse_eq_ok_iff.mpr ⟨hr, hs⟩] at h
    cases h
  · rintro ⟨hother, rfl⟩
    cases hs : parse s with
    | ok r =>
      obtain ⟨hr, hname⟩ := parse_eq_ok_iff.mp hs
      exact absurd hname (hother r hr)
    | error f => rw [hcause hs]

end Finding

/-! ## 2. Values that a rule returns -/

/-- **The values that stand for a verdict**: the name of a result, or an object with such a name as
    its result. A comment counts if it is a string. Other members do not matter. -/
inductive Returned : Json → Verdict → Prop
  | name {r : Finding} (hr : r ≠ .invalidRule) : Returned (.string r.name) ⟨r, ""⟩
  | commented {members : List (String × Json)} {r : Finding} {comment : String}
      (hr : r ≠ .invalidRule)
      (hresult : (Json.object members).member? "result" = some (.string r.name))
      (hcomment : (Json.object members).member? "comment" = some (.string comment)) :
      Returned (.object members) ⟨r, comment⟩
  | uncommented {members : List (String × Json)} {r : Finding} (hr : r ≠ .invalidRule)
      (hresult : (Json.object members).member? "result" = some (.string r.name))
      (hcomment : ∀ s, (Json.object members).member? "comment" ≠ some (.string s)) :
      Returned (.object members) ⟨r, ""⟩

/-- **The values that stand for no verdict**, with what is wrong with each. -/
inductive Unusable : Json → InvalidArgument → Prop
  | name {s : String} (h : ∀ r : Finding, r ≠ .invalidRule → s ≠ r.name) :
      Unusable (.string s) (.unknownResult s)
  | result {members : List (String × Json)} {s : String}
      (hresult : (Json.object members).member? "result" = some (.string s))
      (h : ∀ r : Finding, r ≠ .invalidRule → s ≠ r.name) :
      Unusable (.object members) (.unknownResult s)
  | noResult {members : List (String × Json)}
      (h : ∀ s, (Json.object members).member? "result" ≠ some (.string s)) :
      Unusable (.object members) .noResult
  | shape {j : Json} (hstring : ∀ s, j ≠ .string s) (hobject : ∀ members, j ≠ .object members) :
      Unusable j (.unusableResult j.canonical.compact)

/-- A name that a rule returns is that of a result it may return, or of none. -/
theorem name_cases (s : String) :
    (∃ r : Finding, r ≠ .invalidRule ∧ s = r.name) ∨
      ∀ r : Finding, r ≠ .invalidRule → s ≠ r.name := by
  by_cases h : ∃ r : Finding, r ≠ .invalidRule ∧ s = r.name
  · exact .inl h
  · exact .inr fun r hr hs => h ⟨r, hr, hs⟩

/-- **Each value stands for a verdict or is unusable.** -/
theorem returned_or_unusable (j : Json) : (∃ v, Returned j v) ∨ ∃ cause, Unusable j cause := by
  by_cases hstring : ∃ s, j = .string s
  · obtain ⟨s, rfl⟩ := hstring
    rcases name_cases s with ⟨r, hr, rfl⟩ | hother
    · exact .inl ⟨_, .name hr⟩
    · exact .inr ⟨_, .name hother⟩
  by_cases hobject : ∃ members, j = .object members
  · obtain ⟨members, rfl⟩ := hobject
    by_cases hresult : ∃ s, (Json.object members).member? "result" = some (.string s)
    · obtain ⟨s, hresult⟩ := hresult
      rcases name_cases s with ⟨r, hr, rfl⟩ | hother
      · by_cases hcomment : ∃ s, (Json.object members).member? "comment" = some (.string s)
        · obtain ⟨comment, hcomment⟩ := hcomment
          exact .inl ⟨_, .commented hr hresult hcomment⟩
        · exact .inl ⟨_, .uncommented hr hresult fun s hs => hcomment ⟨s, hs⟩⟩
      · exact .inr ⟨_, .result hresult hother⟩
    · exact .inr ⟨_, .noResult fun s hs => hresult ⟨s, hs⟩⟩
  · exact .inr ⟨_, .shape (fun s hs => hstring ⟨s, hs⟩) fun members hm => hobject ⟨members, hm⟩⟩

namespace Verdict

variable {j : Json} {v : Verdict} {cause : InvalidArgument}

/-- What is no string is passed over. -/
theorem bind_asString?_eq_none {o : Option Json} (h : ∀ s, o ≠ some (.string s)) :
    o.bind Json.asString? = none := by
  refine Option.bind_eq_none_iff.mpr fun value hvalue => ?_
  cases value with
  | string s => exact absurd hvalue (h s)
  | _ => rfl

/-- An object with the name of a result has a verdict, whatever its comment is. -/
theorem ofReturned_of_object {members : List (String × Json)} {r : Finding} (hr : r ≠ .invalidRule)
    (hresult : (Json.object members).member? "result" = some (.string r.name)) :
    ofReturned (.object members) =
      .ok ⟨r, (((Json.object members).member? "comment").bind Json.asString?).getD ""⟩ := by
  have hparse : Finding.parse r.name = .ok r := Finding.parse_eq_ok_iff.mpr ⟨hr, rfl⟩
  unfold ofReturned
  dsimp only
  rw [hresult]
  dsimp only
  rw [hparse]
  rfl

theorem ofReturned_of_returned (h : Returned j v) : ofReturned j = .ok v := by
  cases h with
  | name hr =>
    rw [ofReturned, Finding.parse_eq_ok_iff.mpr ⟨hr, rfl⟩]
    rfl
  | commented hr hresult hcomment =>
    rw [ofReturned_of_object hr hresult, hcomment]
    rfl
  | uncommented hr hresult hcomment =>
    rw [ofReturned_of_object hr hresult, bind_asString?_eq_none hcomment]
    rfl

theorem ofReturned_of_unusable (h : Unusable j cause) :
    ofReturned j = .error (.argument cause) := by
  cases h with
  | name h =>
    rw [ofReturned, Finding.parse_eq_error_iff.mpr ⟨h, rfl⟩]
    rfl
  | result hresult h =>
    have hparse := Finding.parse_eq_error_iff.mpr ⟨h, rfl⟩
    unfold ofReturned
    dsimp only
    rw [hresult]
    dsimp only
    rw [hparse]
    rfl
  | @noResult members h =>
    unfold ofReturned
    dsimp only
    split
    · next s hs => exact absurd hs (h s)
    · rfl
  | shape hstring hobject =>
    unfold ofReturned
    split
    · next s => exact absurd rfl (hstring s)
    · next members => exact absurd rfl (hobject members)
    · rfl

/-- **A value is read as a verdict if and only if it stands for one.** -/
theorem ofReturned_eq_ok_iff : ofReturned j = .ok v ↔ Returned j v := by
  constructor
  · intro h
    rcases returned_or_unusable j with ⟨w, hw⟩ | ⟨cause, hcause⟩
    · rw [ofReturned_of_returned hw] at h
      exact Except.ok.inj h ▸ hw
    · rw [ofReturned_of_unusable hcause] at h
      cases h
  · exact ofReturned_of_returned

theorem ofReturned_eq_error_iff {f : Failure} :
    ofReturned j = .error f ↔ ∃ cause, Unusable j cause ∧ f = .argument cause := by
  constructor
  · intro h
    rcases returned_or_unusable j with ⟨w, hw⟩ | ⟨cause, hcause⟩
    · rw [ofReturned_of_returned hw] at h
      cases h
    · rw [ofReturned_of_unusable hcause] at h
      exact ⟨cause, hcause, (Except.error.inj h).symm⟩
  · rintro ⟨cause, hcause, rfl⟩
    exact ofReturned_of_unusable hcause

/-- A verdict that a rule may return is what its document stands for. -/
theorem returned_toJson (hv : v.result ≠ .invalidRule) : Returned v.toJson v :=
  .commented hv rfl rfl

theorem plain_toJson {depth : Nat} (v : Verdict) : Json.Plain (depth + 1) v.toJson := by
  refine .object fun member hmember => ?_
  simp only [List.mem_cons, List.not_mem_nil, or_false] at hmember
  rcases hmember with rfl | rfl
  · exact .string _
  · exact .string _

end Verdict

/-! ## 3. Evaluation -/

namespace Rule

/-- No value stands for the verdict that a rule is invalid. -/
theorem result_of_returned {j : Json} {v : Verdict} (h : Returned j v) :
    v.result ≠ .invalidRule := by
  cases h with
  | name hr => exact hr
  | commented hr _ _ => exact hr
  | uncommented hr _ _ => exact hr

variable (rule : Rule) (p : Provider)

/-- The verdict of a rule that failed, or whose value is of no use. -/
def failed (f : Failure) : Verdict := .invalid ("error while running the rule: " ++ f.message)

/-- **Why a rule is invalid**: it failed, or it returned a value that stands for no verdict. -/
inductive Fails : Failure → Prop
  | ran {f : Failure} (hrule : rule p = .error f) : Fails f
  | returned {j : Json} {cause : InvalidArgument} (hrule : rule p = .ok j)
      (hj : Unusable j cause) : Fails (.argument cause)

variable {rule p}

theorem evaluate_of_ok {j : Json} (hrule : rule p = .ok j) :
    rule.evaluate p = match Verdict.ofReturned j with
      | .ok v => v
      | .error f => failed f := by
  rw [evaluate, hrule]
  rfl

theorem evaluate_of_returned {j : Json} {v : Verdict} (hrule : rule p = .ok j)
    (hj : Returned j v) : rule.evaluate p = v := by
  rw [evaluate_of_ok hrule, Verdict.ofReturned_of_returned hj]

theorem evaluate_of_fails {f : Failure} (h : Fails rule p f) : rule.evaluate p = failed f := by
  cases h with
  | ran hrule =>
    rw [evaluate, hrule]
    rfl
  | returned hrule hj => rw [evaluate_of_ok hrule, Verdict.ofReturned_of_unusable hj]

/-- **A rule returns a value that stands for a verdict, or it fails.** -/
theorem returned_or_fails (rule : Rule) (p : Provider) :
    (∃ j v, rule p = .ok j ∧ Returned j v) ∨ ∃ f, Fails rule p f := by
  cases hrule : rule p with
  | error f => exact .inr ⟨f, .ran hrule⟩
  | ok j =>
    rcases returned_or_unusable j with ⟨v, hv⟩ | ⟨cause, hcause⟩
    · exact .inl ⟨j, v, rfl, hv⟩
    · exact .inr ⟨_, .returned hrule hcause⟩

variable (rule p)

/-- **The verdict of every rule.**

    * A rule comes to a verdict other than that it is invalid if and only if it returned a value that
      stands for this verdict.
    * Otherwise it is invalid, and the comment says why: it failed, or what is wrong with the value.
    * The document of a verdict, returned as it is or read back from its text, stands for the verdict
      again, unless it is that a rule is invalid. -/
theorem evaluate_eq_iff :
    (∀ v : Verdict, rule.evaluate p = v ∧ v.result ≠ .invalidRule ↔
      ∃ j, rule p = .ok j ∧ Returned j v) ∧
    (∀ comment, rule.evaluate p = ⟨.invalidRule, comment⟩ ↔
      ∃ f : Failure, comment = "error while running the rule: " ++ f.message ∧
        (rule p = .error f ∨ ∃ j cause, rule p = .ok j ∧ Unusable j cause ∧ f = .argument cause)) ∧
    ∀ v : Verdict, v.result ≠ .invalidRule →
      Verdict.ofReturned v.toJson = .ok v ∧
        (Json.parse? v.toJson.compact).map Verdict.ofReturned = some (.ok v) := by
  refine ⟨fun v => ⟨?_, ?_⟩, fun comment => ⟨?_, ?_⟩, fun v hv => ?_⟩
  · rintro ⟨hv, hvalid⟩
    rcases returned_or_fails rule p with ⟨j, w, hrule, hj⟩ | ⟨f, hf⟩
    · rw [evaluate_of_returned hrule hj] at hv
      exact ⟨j, hrule, hv ▸ hj⟩
    · rw [evaluate_of_fails hf] at hv
      exact absurd (congrArg Verdict.result hv).symm hvalid
  · rintro ⟨j, hrule, hj⟩
    exact ⟨evaluate_of_returned hrule hj, result_of_returned hj⟩
  · intro h
    rcases returned_or_fails rule p with ⟨j, v, hrule, hj⟩ | ⟨f, hf⟩
    · rw [evaluate_of_returned hrule hj] at h
      exact absurd (congrArg Verdict.result h) (result_of_returned hj)
    · rw [evaluate_of_fails hf] at h
      refine ⟨f, (congrArg Verdict.comment h).symm, ?_⟩
      cases hf with
      | ran hrule => exact .inl hrule
      | returned hrule hj => exact .inr ⟨_, _, hrule, hj, rfl⟩
  · rintro ⟨f, rfl, hrule | ⟨j, cause, hrule, hcause, rfl⟩⟩
    · exact evaluate_of_fails (.ran hrule)
    · exact evaluate_of_fails (.returned hrule hcause)
  · have hread := Verdict.ofReturned_of_returned (Verdict.returned_toJson hv)
    refine ⟨hread, ?_⟩
    rw [Json.parse?_compact v.plain_toJson, Option.map_some, hread]

/-- A rule that tries to say of itself that it is invalid. -/
example (p : Provider) : Rule.evaluate (fun _ => .ok (.string "INVALIDRULE")) p =
    .invalid "error while running the rule: invalid input: invalid rule result 'INVALIDRULE'" := rfl

end Rule

end DeviceCli
