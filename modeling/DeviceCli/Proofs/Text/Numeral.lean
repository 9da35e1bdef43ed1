import DeviceCli.Proofs.Json.Token
import DeviceCli.Text.Blank
import DeviceCli.Text.Numeral

/-!
# Numbers in decimal, read and written

* `Decimal` says which texts spell a natural number: digits, of which there is at least one, with
  or without a plus sign in front. Zeros in front of the digits are allowed.
* `parseNat_eq_ok_iff`: **exactly the spellings of the numbers up to the limit are read**, as what
  they spell. The digits are checked one by one, so it matters that the number which they make only
  grows (`Json.le_ofDigitChars`): where it passes the limit, it stays beyond.
* `decimal_toDigits` and `trim_of_solid` serve for numbers that the program has written itself.
-/

namespace DeviceCli.Text

/-! ## 1. Spellings -/

/-- A text spells a natural number. -/
inductive Decimal : List Char → Nat → Prop where
  | plain {digits : List Char} (nonempty : digits ≠ []) (numeric : ∀ c ∈ digits, c.isDigit) :
      Decimal digits (Nat.ofDigitChars 10 digits 0)
  | plus {digits : List Char} (nonempty : digits ≠ []) (numeric : ∀ c ∈ digits, c.isDigit) :
      Decimal ('+' :: digits) (Nat.ofDigitChars 10 digits 0)

/-- The digits of a number spell it. -/
theorem decimal_toDigits (n : Nat) : Decimal (Nat.toDigits 10 n) n := by
  have hdigits : ∀ c ∈ Nat.toDigits 10 n, c.isDigit := fun c hc =>
    Nat.isDigit_of_mem_toDigits (by decide) (by decide) hc
  have h := Decimal.plain Nat.toDigits_ne_nil hdigits
  rwa [Nat.ofDigitChars_ten_toDigits] at h

/-! ## 2. Reading -/

theorem isDigit_iff (c : Char) : c.isDigit = true ↔ ¬ (c < '0' ∨ '9' < c) := by
  simp only [Char.isDigit, Bool.and_eq_true, decide_eq_true_eq, Char.lt_def, ge_iff_le, not_or,
    UInt32.not_lt]

/-- Digits are appended to a number if and only if they are digits and the limit is kept. -/
theorem digitsUpTo_eq_ok_iff (limit : Nat) (beyond : NumeralError) (cs : List Char) (m n : Nat)
    (hm : m ≤ limit) :
    digitsUpTo limit beyond m cs = .ok n ↔
      (∀ c ∈ cs, c.isDigit) ∧ Nat.ofDigitChars 10 cs m = n ∧ n ≤ limit := by
  induction cs generalizing m with
  | nil =>
    constructor
    · intro h
      cases h
      exact ⟨nofun, rfl, hm⟩
    · rintro ⟨-, rfl, -⟩
      rfl
  | cons c cs ih =>
    rw [digitsUpTo, List.forall_mem_cons, isDigit_iff, Nat.ofDigitChars_cons]
    by_cases hc : c < '0' ∨ '9' < c
    · simp only [hc, not_true_eq_false, if_true, false_and, reduceCtorEq]
    · simp only [hc, not_false_eq_true, if_false, true_and]
      change (if 10 * m + (c.toNat - '0'.toNat) ≤ limit then _ else _) = _ ↔ _
      by_cases hnext : 10 * m + (c.toNat - '0'.toNat) ≤ limit
      · rw [if_pos hnext]
        exact ih _ hnext
      · -- more digits only make the number larger
        rw [if_neg hnext]
        refine ⟨nofun, fun ⟨_, hvalue, hn⟩ => absurd ?_ hnext⟩
        have hle := Json.le_ofDigitChars cs (10 * m + (c.toNat - '0'.toNat))
        omega

theorem unsigned_eq_ok_iff (limit : Nat) (beyond : NumeralError) (cs : List Char) (n : Nat) :
    unsigned limit beyond cs = .ok n ↔
      cs ≠ [] ∧ (∀ c ∈ cs, c.isDigit) ∧ Nat.ofDigitChars 10 cs 0 = n ∧ n ≤ limit := by
  cases cs with
  | nil => exact ⟨nofun, fun ⟨h, _⟩ => absurd rfl h⟩
  | cons c cs =>
    rw [unsigned, digitsUpTo_eq_ok_iff limit beyond _ _ _ (Nat.zero_le _)]
    · exact (and_iff_right (List.cons_ne_nil c cs)).symm
    · exact nofun

/-- **What is read as a number are the spellings of the numbers up to the limit.** -/
theorem parseNat_eq_ok_iff (limit : Nat) (cs : List Char) (n : Nat) :
    parseNat limit cs = .ok n ↔ Decimal cs n ∧ n ≤ limit := by
  fun_cases parseNat limit cs with
  | case1 =>
    refine ⟨nofun, fun ⟨h, _⟩ => ?_⟩
    cases h with
    | plain hnonempty _ => exact absurd rfl hnonempty
  | case2 rest =>
    rw [unsigned_eq_ok_iff]
    constructor
    · rintro ⟨hnonempty, hnumeric, rfl, hn⟩
      exact ⟨.plus hnonempty hnumeric, hn⟩
    · rintro ⟨h, hn⟩
      cases h with
      -- the sign is no digit
      | plain _ hnumeric => exact absurd (hnumeric '+' (List.mem_cons_self ..)) (by decide)
      | plus hnonempty hnumeric => exact ⟨hnonempty, hnumeric, rfl, hn⟩
  | case3 cs hnil hplus =>
    rw [unsigned_eq_ok_iff]
    constructor
    · rintro ⟨hnonempty, hnumeric, rfl, hn⟩
      exact ⟨.plain hnonempty hnumeric, hn⟩
    · rintro ⟨h, hn⟩
      cases h with
      | plain hnonempty hnumeric => exact ⟨hnonempty, hnumeric, rfl, hn⟩
      | plus _ _ => exact absurd rfl (hplus _)

/-! ## 3. Texts without blanks -/

theorem dropWhile_of_forall_not {p : Char → Bool} {cs : List Char}
    (h : ∀ c ∈ cs, p c = false) : cs.dropWhile p = cs := by
  cases cs with
  | nil => rfl
  | cons c cs => rw [List.dropWhile_cons, h c (List.mem_cons_self ..)]; rfl

/-- A text without blanks has none at its ends. -/
theorem trim_of_solid {s : String} (h : ∀ c ∈ s.toList, isBlank c = false) : trim s = s := by
  have hback : ∀ c ∈ s.toList.reverse, isBlank c = false := fun c hc =>
    h c (List.mem_reverse.mp hc)
  rw [trim, trimBy, dropWhile_of_forall_not h, dropWhile_of_forall_not hback, List.reverse_reverse,
    String.ofList_toList]

theorem isBlank_of_isDigit {c : Char} (h : c.isDigit = true) : isBlank c = false := by
  have hrange : 48 ≤ c.toNat ∧ c.toNat ≤ 57 := by
    simp only [Char.isDigit, Bool.and_eq_true, decide_eq_true_eq] at h
    exact h
  simp only [isBlank, Bool.or_eq_false_iff, Bool.and_eq_false_iff, decide_eq_false_iff_not,
    beq_eq_false_iff_ne]
  omega

/-- A number that has been written is read back, whatever the limit that it keeps. -/
theorem decimal_trim_toString (n : Nat) : Decimal (trim (toString n)).toList n := by
  have htext : (toString n).toList = Nat.toDigits 10 n := Nat.toList_repr
  rw [trim_of_solid, htext]
  · exact decimal_toDigits n
  · intro c hc
    rw [htext] at hc
    exact isBlank_of_isDigit (Nat.isDigit_of_mem_toDigits (by decide) (by decide) hc)

end DeviceCli.Text
