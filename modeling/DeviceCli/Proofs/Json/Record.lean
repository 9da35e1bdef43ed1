import DeviceCli.Json.Record
import DeviceCli.Proofs.Json.Document
import DeviceCli.Proofs.Keyed

/-!
# Records as they are written

Two kinds of facts on the readers of records:

* what was written is read back: `record_object` for the members of a record, then one lemma for
  each way in which a member is read (`optional_of_map`), and for numbers, lists and maps
  (`asNat_ofNat`, `asStrings_ofStrings`, `asKeyed_ofKeyed`);
* `Yields P x`: whatever `x` gives has the property `P`, with a rule for each way of putting
  readers together. Nothing is said about documents that are refused.

A map that is read from its own entries is the same map (`Keyed.ofList_entries`).
-/

namespace DeviceCli

namespace Json

/-! ## 1. Members -/

variable {α β : Type}

theorem checkMembers_eq_ok {strict : Bool} {names : List String}
    {members : List (String × Json)} (hknown : ∀ m ∈ members, m.1 ∈ names)
    (hnodup : (members.map (·.1)).Nodup) {seen : List String} (hseen : ∀ m ∈ members, m.1 ∉ seen) :
    checkMembers strict names seen members = .ok () := by
  induction members generalizing seen with
  | nil => rfl
  | cons member members ih =>
    obtain ⟨key, value⟩ := member
    obtain ⟨hkey, hrest⟩ := List.nodup_cons.mp hnodup
    have hname : names.contains key = true := by simpa using hknown _ List.mem_cons_self
    have hnew : seen.contains key = false := by simpa using hseen _ List.mem_cons_self
    rw [checkMembers]
    simp only [hname, hnew, if_true, Bool.false_eq_true, if_false]
    refine ih (fun m hm => hknown m (List.mem_cons_of_mem _ hm)) hrest fun m hm hmem => ?_
    rcases List.mem_cons.mp hmem with heq | hmem
    · exact hkey (heq ▸ List.mem_map_of_mem (f := (·.1)) hm)
    · exact hseen m (List.mem_cons_of_mem _ hm) hmem

/-- **Members that are named in the order of a record are read as they are.** -/
theorem record_object {d : Dialect} {strict : Bool} {names : List String}
    {members : List (String × Json)} (hnames : names.Nodup)
    (h : (members.map (·.1)).Sublist names) :
    record d strict names (object members) = .ok fun name => members.lookup name := by
  have hknown : ∀ m ∈ members, m.1 ∈ names := fun m hm => h.subset (List.mem_map_of_mem hm)
  rw [record, checkMembers_eq_ok hknown (h.nodup hnames) fun _ _ => List.not_mem_nil]
  rfl

theorem keys_memberIf (name : String) (write : α → Json) (o : Option α) :
    ((memberIf name write o).map (·.1)).Sublist [name] := by
  cases o with
  | none => exact List.nil_sublist _
  | some a => exact List.Sublist.refl _

@[simp] theorem lookup_memberIf (name key : String) (write : α → Json) (o : Option α) :
    (memberIf name write o).lookup key = if key = name then o.map write else none := by
  cases o with
  | none => simp [memberIf]
  | some a =>
    by_cases h : key = name <;> simp [memberIf, List.lookup_cons, h, beq_eq_false_iff_ne.mpr]

theorem optional_of_map {row : Row} {name : String} {read : Json → Except Mismatch α}
    {write : α → Json} {o : Option α} (hrow : row name = o.map write)
    (hnull : ∀ a, write a ≠ null) (hread : ∀ a ∈ o, read (write a) = .ok a) :
    optional row name read = .ok o := by
  rw [optional, hrow]
  cases o with
  | none => rfl
  | some a =>
    rw [Option.map_some]
    split
    · next h => cases h
    · next h => exact absurd (Option.some.inj h) (hnull a)
    · next h =>
      rw [← Option.some.inj h, hread a rfl]
      rfl

theorem required_of_some {row : Row} {name : String} {j : Json} (h : row name = some j)
    (read : Json → Except Mismatch α) : required row name read = read j := by
  rw [required, h]

theorem withDefault_of_some {row : Row} {name : String} {j : Json} (h : row name = some j)
    (read : Json → Except Mismatch α) (value : α) : withDefault row name read value = read j := by
  rw [withDefault, h]

/-- A member that is written only when it differs from what an absent one stands for. -/
theorem withDefault_of_ite {row : Row} {name : String} {j : Json} {p : Prop} [Decidable p]
    {read : Json → Except Mismatch α} {value written : α}
    (hrow : row name = if p then none else some j) (habsent : p → value = written)
    (hread : read j = .ok written) : withDefault row name read value = .ok written := by
  rw [withDefault, hrow]
  split
  · next h =>
    split at h
    · cases h
    · cases h
      exact hread
  · next h =>
    split at h
    · next hp => exact congrArg Except.ok (habsent hp)
    · cases h

/-! ## 2. Values -/

@[simp] theorem asString_string (s : String) : asString (string s) = .ok s := rfl

@[simp] theorem asBool_bool (b : Bool) : asBool (bool b) = .ok b := rfl

theorem asNat_ofNat {n : Nat} (h : fits n = true) : asNat (ofNat n) = .ok n := by
  have hfits : 0 ≤ (n : Int) ∧ (n : Int).toNat < Nat.pow 2 64 :=
    ⟨Int.natCast_nonneg n, of_decide_eq_true h⟩
  rw [ofNat, asNat, if_pos hfits]
  rfl

theorem asStrings_ofStrings (list : List String) : asStrings (ofStrings list) = .ok list := by
  have hread : asString ∘ string = fun s => pure (id s) := rfl
  rw [ofStrings, asStrings, List.mapM_map, hread, List.mapM_pure, List.map_id]
  rfl

theorem readEntries_map {read : Json → Except Mismatch α} {write : α → Json}
    {entries : List (String × α)} (h : ∀ e ∈ entries, read (write e.2) = .ok e.2) :
    readEntries read (entries.map fun e => (e.1, write e.2)) = .ok entries := by
  induction entries with
  | nil => rfl
  | cons e entries ih =>
    rw [List.map_cons, readEntries, h e List.mem_cons_self,
      ih fun e he => h e (List.mem_cons_of_mem _ he)]
    rfl

/-- **A map is read back if its values are.** -/
theorem asKeyed_ofKeyed {read : Json → Except Mismatch α} {write : α → Json} {m : Keyed α}
    (h : ∀ e ∈ m.entries, read (write e.2) = .ok e.2) :
    asKeyed read (ofKeyed write m) = .ok m := by
  rw [ofKeyed, asKeyed, readEntries_map h]
  exact congrArg Except.ok m.ofList_entries

/-! ## 3. Plain records

What is written here has no floating point, and is not nested deeper than its parts ask for. -/

theorem plain_memberIf {depth : Nat} {name : String} {write : α → Json} {o : Option α}
    (h : ∀ a ∈ o, Plain depth (write a)) : ∀ m ∈ memberIf name write o, Plain depth m.2 := by
  cases o with
  | none => exact nofun
  | some a => simpa [memberIf] using h a rfl

theorem plain_ofNat {depth n : Nat} (h : fits n = true) : Plain depth (ofNat n) := by
  have hn := fits_iff.mp h
  exact .int (isWord_iff.mpr (by omega))

theorem plain_ofStrings {depth : Nat} (list : List String) :
    Plain (depth + 1) (ofStrings list) := by
  refine .array fun item hitem => ?_
  obtain ⟨s, -, rfl⟩ := List.mem_map.mp hitem
  exact .string s

theorem plain_ofKeyed {depth : Nat} {write : α → Json} {m : Keyed α}
    (h : ∀ e ∈ m.entries, Plain depth (write e.2)) : Plain (depth + 1) (ofKeyed write m) := by
  refine .object fun member hmember => ?_
  obtain ⟨e, he, rfl⟩ := List.mem_map.mp hmember
  exact h e he

/-! ## 4. What readers give -/

/-- Whatever comes out has the property. -/
def Yields (P : α → Prop) (x : Except Mismatch α) : Prop := ∀ a, x = .ok a → P a

theorem Yields.pure {P : α → Prop} {a : α} (h : P a) : Yields P (Pure.pure a) := by
  rintro _ ⟨⟩
  exact h

theorem Yields.throw {P : α → Prop} (m : Mismatch) : Yields P (MonadExcept.throw m) := nofun

theorem Yields.bind {P : α → Prop} {Q : β → Prop} {x : Except Mismatch α}
    {f : α → Except Mismatch β} (hx : Yields P x) (hf : ∀ a, P a → Yields Q (f a)) :
    Yields Q (x >>= f) := by
  intro b hb
  cases x with
  | error m => cases hb
  | ok a => exact hf a (hx a rfl) b hb

theorem Yields.map {P : α → Prop} {Q : β → Prop} {x : Except Mismatch α} {f : α → β}
    (hx : Yields P x) (hf : ∀ a, P a → Q (f a)) : Yields Q (x.map f) := by
  intro b hb
  cases x with
  | error m => cases hb
  | ok a =>
    cases hb
    exact hf a (hx a rfl)

theorem Yields.trivial (x : Except Mismatch α) : Yields (fun _ => True) x := fun _ _ => True.intro

section Readers

variable {P : α → Prop} {read : Json → Except Mismatch α}

theorem yields_required (h : ∀ j, Yields P (read j)) (row : Row) (name : String) :
    Yields P (required row name read) := by
  rw [required]
  split
  · exact h _
  · exact .throw _

theorem yields_withDefault (h : ∀ j, Yields P (read j)) {value : α} (hvalue : P value) (row : Row)
    (name : String) : Yields P (withDefault row name read value) := by
  rw [withDefault]
  split
  · exact h _
  · exact .pure hvalue

theorem yields_optional (h : ∀ j, Yields P (read j)) (row : Row) (name : String) :
    Yields (fun o => ∀ a ∈ o, P a) (optional row name read) := by
  rw [optional]
  split
  · exact .pure nofun
  · exact .pure nofun
  · exact (h _).map fun a ha b hb => Option.mem_some.mp hb ▸ ha

theorem yields_readEntries (h : ∀ j, Yields P (read j)) (members : List (String × Json)) :
    Yields (fun entries => ∀ e ∈ entries, P e.2) (readEntries read members) := by
  induction members with
  | nil => exact .pure nofun
  | cons member members ih =>
    refine (h member.2).bind fun a ha => ih.bind fun entries hentries => .pure ?_
    rintro e he
    rcases List.mem_cons.mp he with rfl | he
    · exact ha
    · exact hentries e he

theorem yields_asKeyed (h : ∀ j, Yields P (read j)) (j : Json) :
    Yields (fun m => ∀ e ∈ m.entries, P e.2) (asKeyed read j) := by
  cases j with
  | object members =>
    exact (yields_readEntries h members).map fun entries hentries e he =>
      hentries e (Keyed.mem_of_mem_ofList he)
  | _ => exact .throw _

end Readers

theorem yields_asNat (j : Json) : Yields (fun n => fits n = true) (asNat j) := by
  cases j with
  | int n =>
    rw [asNat]
    split
    · next h => exact .pure (decide_eq_true h.2)
    · exact .throw _
  | _ => exact .throw _

end Json

end DeviceCli
