import DeviceCli.Proofs.Json.Token

/-!
# Documents as they are written

`Json.parse?` undoes `Json.compact` on every value without floating point whose integers fit into
64 bits and which is not nested too deep. `Plain depth` says that of a value, by its constructors;
the reader is then followed along them:

* `readItems_write`, `readMembers_write`: a list of items or members is read back if each value in
  it is;
* `readValue_write`: a plain value is read back from what is written for it, up to a delimiter;
* `parse?_compact`: so is a whole document.
-/

namespace DeviceCli.Json

/-- An integer fits into 64 bits, with or without a sign. -/
def IsWord (n : Int) : Prop := -(Nat.pow 2 63 : Nat) ≤ n ∧ n < (Nat.pow 2 64 : Nat)

theorem isWord_iff {n : Int} : IsWord n ↔ -9223372036854775808 ≤ n ∧ n < 18446744073709551616 :=
  Iff.rfl

theorem fits_iff {n : Nat} : fits n = true ↔ n < 18446744073709551616 := decide_eq_true_iff

/-- A value without floating point, whose integers fit into 64 bits with or without a sign, and
    with at most so many arrays and objects within each other. -/
inductive Plain : Nat → Json → Prop
  | null {depth : Nat} : Plain depth null
  | bool {depth : Nat} (b : Bool) : Plain depth (bool b)
  | int {depth : Nat} {n : Int} : IsWord n → Plain depth (int n)
  | string {depth : Nat} (s : String) : Plain depth (string s)
  | array {depth : Nat} {items : List Json} :
      (∀ item ∈ items, Plain depth item) → Plain (depth + 1) (array items)
  | object {depth : Nat} {members : List (String × Json)} :
      (∀ member ∈ members, Plain depth member.2) → Plain (depth + 1) (object members)

/-! ## 1. The first character -/

theorem skipSpace_cons {c : Char} (h : isSpace c = false) (rest : List Char) :
    skipSpace (c :: rest) = c :: rest := by
  simp [skipSpace, h]

theorem ne_of_isDigit {c d : Char} (hc : isDigit c = true) (hd : isDigit d = false) : c ≠ d := by
  rintro rfl
  exact absurd hc (by simp [hd])

theorem isSpace_of_isDigit {c : Char} (h : isDigit c = true) : isSpace c = false := by
  have hne (d : Char) (hd : isDigit d = false) : (c == d) = false :=
    beq_eq_false_iff_ne.mpr (ne_of_isDigit h hd)
  simp [isSpace, hne ' ' (by decide), hne '\n' (by decide), hne '\t' (by decide),
    hne '\r' (by decide)]

/-- A number is written with a digit or a minus sign in front. -/
theorem writeInt_front (n : Int) :
    ∃ c cs, writeInt n = c :: cs ∧ (c = '-' ∨ isDigit c = true) := by
  rw [writeInt]
  split
  · exact ⟨_, _, rfl, .inl rfl⟩
  · cases hdigits : Nat.toDigits 10 n.natAbs with
    | nil => exact absurd hdigits Nat.toDigits_ne_nil
    | cons c cs =>
      exact ⟨c, cs, rfl, .inr (isDigit_of_mem_toDigits (hdigits ▸ List.mem_cons_self))⟩

/-- What is written for a plain value begins with neither white space nor a closing bracket. -/
theorem write_front {depth : Nat} {j : Json} (h : Plain depth j) :
    ∃ c cs, j.write = c :: cs ∧ isSpace c = false ∧ c ≠ ']' := by
  cases h with
  | null => exact ⟨_, _, rfl, by decide, by decide⟩
  | bool b => cases b <;> exact ⟨_, _, rfl, by decide, by decide⟩
  | @int _ n =>
    obtain ⟨c, cs, hwrite, rfl | hdigit⟩ := writeInt_front n
    · exact ⟨_, _, hwrite, by decide, by decide⟩
    · exact ⟨_, _, hwrite, isSpace_of_isDigit hdigit, ne_of_isDigit hdigit (by decide)⟩
  | string s => exact ⟨_, _, rfl, by decide, by decide⟩
  | array => exact ⟨_, _, by rw [write]; rfl, by decide, by decide⟩
  | object => exact ⟨_, _, by rw [write]; rfl, by decide, by decide⟩

/-! ## 2. Values that are no arrays or objects -/

theorem readValue_of_scalar {c : Char} (hspace : isSpace c = false) (harray : c ≠ '[')
    (hobject : c ≠ '\x7b') (depth : Nat) (rest : List Char) :
    readValue depth (c :: rest) = readScalar (c :: rest) := by
  rw [readValue.eq_def]
  simp only [skipSpace_cons hspace]
  split <;> simp_all

theorem readScalar_of_isDigit {c : Char} (h : isDigit c = true) (rest : List Char) :
    readScalar (c :: rest) = readUnsigned false (c :: rest) := by
  have hne {d : Char} (hd : isDigit d = false) : c ≠ d := ne_of_isDigit h hd
  rw [readScalar.eq_def]
  split
  case h_6 => rfl
  all_goals next heq => exact absurd (List.cons.inj heq).1 (hne (by decide))

theorem integerOf_natAbs {n : Int} (h : IsWord n) :
    integerOf (decide (n < 0)) n.natAbs = int n := by
  have hword := isWord_iff.mp h
  rw [integerOf]
  by_cases hn : n < 0
  · have hlimit : n.natAbs ≤ Nat.pow 2 63 := by
      rw [show Nat.pow 2 63 = 9223372036854775808 from rfl]
      omega
    have habs : ¬ (n.natAbs = 0 ∨ n.natAbs > Nat.pow 2 63) := by omega
    simp only [hn, decide_true, Bool.not_true, Bool.false_eq_true, if_false, habs]
    rw [Int.ofNat_natAbs_of_nonpos (by omega), Int.neg_neg]
  · simp only [hn, decide_false, Bool.not_false, if_true]
    rw [Int.natAbs_of_nonneg (by omega)]

theorem readScalar_writeInt {n : Int} (h : IsWord n) {rest : List Char} (hrest : Delimited rest) :
    readScalar (writeInt n ++ rest) = some (int n, rest) := by
  have hfits : fits n.natAbs = true := by
    have hword := isWord_iff.mp h
    exact fits_iff.mpr (by omega)
  have hread := readUnsigned_toDigits hfits (decide (n < 0)) hrest
  rw [integerOf_natAbs h] at hread
  rw [writeInt]
  split
  · next hn =>
    rw [decide_eq_true hn] at hread
    exact hread
  · next hn =>
    rw [decide_eq_false hn] at hread
    obtain ⟨c, digits, hwrite⟩ : ∃ c digits, Nat.toDigits 10 n.natAbs = c :: digits :=
      List.exists_cons_of_ne_nil Nat.toDigits_ne_nil
    have hdigit : isDigit c = true := isDigit_of_mem_toDigits (hwrite ▸ List.mem_cons_self)
    rw [hwrite] at hread ⊢
    rw [List.cons_append, readScalar_of_isDigit hdigit]
    exact hread

/-! ## 3. Lists of values -/

section Lists

variable {value : List Char → Option (Json × List Char)}

theorem writeItems_cons_cons (item next : Json) (items : List Json) :
    writeItems (item :: next :: items) = item.write ++ ',' :: writeItems (next :: items) := by
  rw [writeItems]
  nofun

theorem writeMembers_cons_cons (key : String) (item : Json) (next : String × Json)
    (members : List (String × Json)) :
    writeMembers ((key, item) :: next :: members) =
      writeString key ++ ':' :: item.write ++ ',' :: writeMembers (next :: members) := by
  rw [writeMembers]
  nofun

/-- **Items are read back if each of them is.** -/
theorem readItems_write {items : List Json} {fuel : Nat} (hne : items ≠ [])
    (hfuel : items.length ≤ fuel)
    (hvalue : ∀ item ∈ items, ∀ rest, Delimited rest →
      value (item.write ++ rest) = some (item, rest)) (rest : List Char) :
    readItems value fuel (writeItems items ++ ']' :: rest) = some (items, rest) := by
  induction items generalizing fuel with
  | nil => exact absurd rfl hne
  | cons item items ih =>
    obtain ⟨fuel, rfl⟩ : ∃ n, fuel = n + 1 := ⟨fuel - 1, by simp at hfuel; omega⟩
    have hitem := hvalue item List.mem_cons_self
    have hitems := fun other hother => hvalue other (List.mem_cons_of_mem item hother)
    rw [readItems]
    cases items with
    | nil =>
      rw [writeItems, hitem _ (delimited_cons (by decide) rest)]
      rfl
    | cons next items =>
      have hlist := ih (by simp) (Nat.le_of_succ_le_succ hfuel) hitems
      rw [writeItems_cons_cons, List.append_assoc, List.cons_append,
        hitem _ (delimited_cons (by decide) _)]
      simp only [Option.bind_eq_bind, Option.bind_some]
      rw [skipSpace_cons (by decide)]
      simp only [hlist]
      rfl

/-- What is read behind a member goes on with what is behind its value. -/
theorem readMembers_member {key : String} {item : Json} {rest : List Char}
    (hvalue : value (item.write ++ rest) = some (item, rest)) (fuel : Nat) :
    readMembers value (fuel + 1) (writeString key ++ ':' :: (item.write ++ rest)) =
      match skipSpace rest with
      | ',' :: rest => do
        let (members, rest) ← readMembers value fuel rest
        pure ((key, item) :: members, rest)
      | '\x7d' :: rest => pure ([(key, item)], rest)
      | _ => none := by
  obtain ⟨cs, hwrite, hread⟩ := readString_writeString key
  rw [hwrite, List.cons_append, readMembers, skipSpace_cons (by decide)]
  simp only [hread, Option.bind_eq_bind, Option.bind_some, String.ofList_toList]
  rw [skipSpace_cons (by decide)]
  exact congrArg (Option.bind · _) hvalue

/-- **Members are read back if each of their values is.** -/
theorem readMembers_write {members : List (String × Json)} {fuel : Nat} (hne : members ≠ [])
    (hfuel : members.length ≤ fuel)
    (hvalue : ∀ member ∈ members, ∀ rest, Delimited rest →
      value (member.2.write ++ rest) = some (member.2, rest)) (rest : List Char) :
    readMembers value fuel (writeMembers members ++ '\x7d' :: rest) = some (members, rest) := by
  induction members generalizing fuel with
  | nil => exact absurd rfl hne
  | cons member members ih =>
    obtain ⟨fuel, rfl⟩ : ∃ n, fuel = n + 1 := ⟨fuel - 1, by simp at hfuel; omega⟩
    obtain ⟨key, item⟩ := member
    have hitem := hvalue (key, item) List.mem_cons_self
    have hitems := fun other hother => hvalue other (List.mem_cons_of_mem (key, item) hother)
    cases members with
    | nil =>
      rw [writeMembers, List.append_assoc, List.cons_append,
        readMembers_member (hitem _ (delimited_cons (by decide) rest)), skipSpace_cons (by decide)]
      rfl
    | cons next members =>
      have hlist := ih (by simp) (Nat.le_of_succ_le_succ hfuel) hitems
      rw [writeMembers_cons_cons]
      simp only [List.append_assoc, List.cons_append]
      rw [readMembers_member (hitem _ (delimited_cons (by decide) _)), skipSpace_cons (by decide)]
      simp only [hlist, Option.bind_eq_bind, Option.bind_some]
      rfl

end Lists

/-! ## 4. Whole values -/

theorem length_writeItems (items : List Json) : items.length ≤ (writeItems items).length + 1 := by
  induction items with
  | nil => simp
  | cons item items ih =>
    cases items with
    | nil => simp
    | cons next items =>
      rw [writeItems_cons_cons, List.length_append, List.length_cons]
      simp only [List.length_cons] at ih ⊢
      omega

theorem length_writeMembers (members : List (String × Json)) :
    members.length ≤ (writeMembers members).length + 1 := by
  induction members with
  | nil => simp
  | cons member members ih =>
    cases members with
    | nil => simp
    | cons next members =>
      rw [writeMembers_cons_cons, List.length_append, List.length_cons]
      simp only [List.length_cons] at ih ⊢
      omega

/-- What is written for items begins like the first of them, and is long enough to count them. -/
theorem writeItems_front {depth : Nat} {item : Json} (h : Plain depth item) (items : List Json)
    (rest : List Char) :
    ∃ c cs, writeItems (item :: items) ++ rest = c :: cs ∧ isSpace c = false ∧ c ≠ ']' ∧
      (item :: items).length ≤ cs.length + 2 := by
  obtain ⟨c, cs, hfront, hspace, hclose⟩ := write_front h
  obtain ⟨more, hmore⟩ : ∃ more, writeItems (item :: items) = item.write ++ more := by
    cases items with
    | nil => exact ⟨[], by simp [writeItems]⟩
    | cons next items => exact ⟨_, writeItems_cons_cons item next items⟩
  have hlength := length_writeItems (item :: items)
  rw [hmore, hfront] at hlength ⊢
  refine ⟨c, cs ++ more ++ rest, by simp, hspace, hclose, ?_⟩
  simp only [List.length_append, List.length_cons] at hlength ⊢
  omega

/-- What is written for members begins with a quote, and is long enough to count them. -/
theorem writeMembers_front (member : String × Json) (members : List (String × Json))
    (rest : List Char) :
    ∃ cs, writeMembers (member :: members) ++ rest = '"' :: cs ∧
      (member :: members).length ≤ cs.length + 2 := by
  obtain ⟨key, item⟩ := member
  obtain ⟨more, hmore⟩ : ∃ more, writeMembers ((key, item) :: members) = '"' :: more := by
    cases members with
    | nil => exact ⟨_, by rw [writeMembers, writeString]; rfl⟩
    | cons next members => exact ⟨_, by rw [writeMembers_cons_cons, writeString]; rfl⟩
  have hlength := length_writeMembers ((key, item) :: members)
  rw [hmore] at hlength ⊢
  refine ⟨more ++ rest, rfl, ?_⟩
  simp only [List.length_append, List.length_cons] at hlength ⊢
  omega

/-- An array with an item is read from that item on. -/
theorem readValue_array {c : Char} (hspace : isSpace c = false) (hclose : c ≠ ']') (depth : Nat)
    (cs : List Char) :
    readValue (depth + 1) ('[' :: c :: cs) =
      (readItems (readValue depth) (cs.length + 2) (c :: cs)).map fun (items, rest) =>
        (array items, rest) := by
  rw [readValue.eq_def]
  simp only [skipSpace_cons (c := '[') (by decide), skipSpace_cons hspace]
  split
  · next heq => exact absurd (List.cons.inj heq).1 hclose
  · rfl

/-- An object with a member is read from that member on. -/
theorem readValue_object (depth : Nat) (cs : List Char) :
    readValue (depth + 1) ('\x7b' :: '"' :: cs) =
      (readMembers (readValue depth) (cs.length + 2) ('"' :: cs)).map fun (members, rest) =>
        (object members, rest) := by
  rfl

/-- **A plain value is read back from what is written for it, up to a delimiter.** -/
theorem readValue_write {depth : Nat} {j : Json} (h : Plain depth j) {rest : List Char}
    (hrest : Delimited rest) : readValue depth (j.write ++ rest) = some (j, rest) := by
  induction h generalizing rest with
  | null => exact readValue_of_scalar (by decide) (by decide) (by decide) _ _
  | bool b => cases b <;> exact readValue_of_scalar (by decide) (by decide) (by decide) _ _
  | @int depth n hword =>
    have hscalar := readScalar_writeInt hword hrest
    obtain ⟨c, cs, hwrite, hc⟩ := writeInt_front n
    have hspace : isSpace c = false := by
      rcases hc with rfl | hdigit
      · decide
      · exact isSpace_of_isDigit hdigit
    have hne (d : Char) (hd : isDigit d = false) (hminus : d ≠ '-') : c ≠ d := by
      rcases hc with rfl | hdigit
      · exact hminus.symm
      · exact ne_of_isDigit hdigit hd
    rw [write, hwrite, List.cons_append, readValue_of_scalar hspace (hne _ (by decide) (by decide))
      (hne _ (by decide) (by decide)), ← List.cons_append, ← hwrite, hscalar]
  | string s =>
    obtain ⟨cs, hwrite, hread⟩ := readString_writeString s
    rw [write, hwrite, List.cons_append,
      readValue_of_scalar (by decide) (by decide) (by decide), readScalar, hread]
    simp
  | @array depth items hitems ih =>
    rw [write, List.cons_append, List.cons_append, List.append_assoc, List.singleton_append]
    cases items with
    | nil => rfl
    | cons item items =>
      obtain ⟨c, cs, htext, hspace, hclose, hfuel⟩ :=
        writeItems_front (hitems item List.mem_cons_self) items (']' :: rest)
      rw [htext, readValue_array hspace hclose, ← htext,
        readItems_write (by simp) hfuel fun other hother _ => ih other hother]
      rfl
  | @object depth members hmembers ih =>
    rw [write, List.cons_append, List.cons_append, List.append_assoc, List.singleton_append]
    cases members with
    | nil => rfl
    | cons member members =>
      obtain ⟨cs, htext, hfuel⟩ := writeMembers_front member members ('\x7d' :: rest)
      rw [htext, readValue_object, ← htext,
        readMembers_write (by simp) hfuel fun other hother _ => ih other hother]
      rfl

/-- **A plain value is read back from its document.** -/
theorem parse?_compact {j : Json} (h : Plain nestLimit j) : parse? j.compact = some j := by
  have hread := readValue_write h delimited_nil
  rw [List.append_nil] at hread
  rw [parse?, compact, String.toList_ofList, parseChars?, hread]
  rfl

end DeviceCli.Json
