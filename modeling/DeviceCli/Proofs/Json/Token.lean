import DeviceCli.Json.Parser
import DeviceCli.Json.Printer

/-!
# Strings and integers as they are written

What `Json.write` puts down for a string or an integer is read back whole:

* `readString_writeString`: a string, whatever follows its closing quote;
* `readUnsigned_toDigits`: the digits of a number that fits into 64 bits, if what follows them
  cannot be taken for a part of it (`Delimited`).

Control characters are the only ones that are written by their number, so all numbers in escapes
are below the surrogates, and reading one never looks at a second escape behind it.
-/

namespace DeviceCli.Json

open DeviceCli.Text

/-! ## 1. Strings -/

theorem readString_unicode {a b c d : Char} {n : Nat} (h : hexQuad a b c d = some n)
    (hn : n < 0xD800) (rest : List Char) :
    readString ('\\' :: 'u' :: a :: b :: c :: d :: rest) =
      cons (Char.ofNat n) (readString rest) := by
  have hlow : ¬ (0xD800 ≤ n ∧ n < 0xDC00) := by omega
  have hhigh : ¬ (0xDC00 ≤ n ∧ n < 0xE000) := by omega
  have hsurrogate : ¬ (0xD800 ≤ n ∧ n < 0xE000) := by omega
  -- whether another escape follows decides only which equation of `readString` applies
  rw [readString.eq_def]
  split
  case h_1 | h_2 => simp_all
  case h_3 | h_4 => next heq => cases heq; simp only [h, hlow, hhigh, hsurrogate, if_false]
  case h_5 => next hno heq => cases heq; exact (hno _ _ _ _ _ rfl rfl).elim
  case h_6 => next hno heq => cases heq; exact (hno _ _ rfl rfl).elim

theorem readString_short {letter c : Char} (hu : letter ≠ 'u') (h : shortEscape letter = some c)
    (rest : List Char) : readString ('\\' :: letter :: rest) = cons c (readString rest) := by
  rw [readString.eq_def]
  split
  case h_6 => next hno heq => cases heq; exact (hno _ _ rfl rfl).elim
  all_goals simp_all

theorem readString_plain {c : Char} (hq : c ≠ '"') (hb : c ≠ '\\') (hc : ¬ c < ' ')
    (rest : List Char) : readString (c :: rest) = cons c (readString rest) := by
  rw [readString.eq_def]
  split
  case h_6 => next heq => cases heq; rw [if_neg (by simp [hc, hb])]
  all_goals simp_all

/-- The letter of an escape stands for the character that is escaped by it. -/
theorem shortEscape_of_escapeLetter? {c letter : Char} (h : escapeLetter? c = some letter) :
    letter ≠ 'u' ∧ shortEscape letter = some c := by
  unfold escapeLetter? at h
  split at h
  all_goals first
    | cases h; exact ⟨by decide, rfl⟩
    | cases h

theorem ne_of_escapeLetter?_none {c : Char} (h : escapeLetter? c = none) : c ≠ '"' ∧ c ≠ '\\' :=
  ⟨by rintro rfl; exact absurd h (by decide), by rintro rfl; exact absurd h (by decide)⟩

theorem hexQuad_control :
    ∀ n < 32, hexQuad '0' '0' (hexChar (n / 16)) (hexChar (n % 16)) = some n := by
  decide

/-- **However a character is written in a string, it is read back.** -/
theorem readString_escapeChar (c : Char) (rest : List Char) :
    readString (escapeChar c ++ rest) = cons c (readString rest) := by
  rw [escapeChar]
  cases hletter : escapeLetter? c with
  | some letter =>
    obtain ⟨hu, h⟩ := shortEscape_of_escapeLetter? hletter
    exact readString_short hu h rest
  | none =>
    by_cases hcontrol : c.toNat < 32
    · have h := readString_unicode (hexQuad_control c.toNat hcontrol) (by omega) rest
      simpa [hcontrol] using h
    · obtain ⟨hq, hb⟩ := ne_of_escapeLetter?_none hletter
      have hspace : ¬ c < ' ' := hcontrol
      simpa [hcontrol] using readString_plain hq hb hspace rest

theorem readString_flatMap (cs rest : List Char) :
    readString (cs.flatMap escapeChar ++ '"' :: rest) = some (cs, rest) := by
  induction cs with
  | nil => simp [readString]
  | cons c cs ih =>
    rw [List.flatMap_cons, List.append_assoc, readString_escapeChar, ih]
    rfl

/-- **A string is read back from what is written for it.** -/
theorem readString_writeString (s : String) :
    ∃ cs, writeString s = '"' :: cs ∧
      ∀ rest, readString (cs ++ rest) = some (s.toList, rest) := by
  refine ⟨s.toList.flatMap escapeChar ++ ['"'], rfl, fun rest => ?_⟩
  rw [List.append_assoc]
  exact readString_flatMap s.toList rest

/-! ## 2. Integers -/

/-- Behind a value of an array, of an object or of a whole document. -/
def Delimited (rest : List Char) : Prop := ∀ c ∈ rest.head?, c = ',' ∨ c = ']' ∨ c = '\x7d'

theorem delimited_nil : Delimited [] := by simp [Delimited]

theorem delimited_cons {c : Char} (h : c = ',' ∨ c = ']' ∨ c = '\x7d') (rest : List Char) :
    Delimited (c :: rest) := by simpa [Delimited] using h

theorem isDigit_of_mem_toDigits {n : Nat} {c : Char} (h : c ∈ Nat.toDigits 10 n) :
    isDigit c = true := by
  have hc : c.isDigit = true := Nat.isDigit_of_mem_toDigits (by decide) (by decide) h
  simpa [isDigit, Char.isDigit, Char.le_def] using hc

/-- Digits with a delimiter behind them are taken as they are. -/
theorem takeWhile_isDigit {digits rest : List Char} (h : ∀ c ∈ digits, isDigit c = true)
    (hrest : Delimited rest) :
    (digits ++ rest).takeWhile isDigit = digits ∧ (digits ++ rest).dropWhile isDigit = rest := by
  rw [List.takeWhile_append_of_pos h, List.dropWhile_append_of_pos h]
  cases rest with
  | nil => simp
  | cons c cs =>
    have hc : isDigit c = false := by
      rcases hrest c rfl with rfl | rfl | rfl <;> decide
    simp [hc]

theorem toDigits_head_ne_zero {n : Nat} (h : 0 < n) : (Nat.toDigits 10 n).head? ≠ some '0' := by
  induction n using Nat.strongRecOn with
  | ind n ih =>
    by_cases hn : n < 10
    · rw [Nat.toDigits_of_lt_base hn]
      have hdigit : ∀ m < 10, 0 < m → [m.digitChar].head? ≠ some '0' := by decide
      exact hdigit n hn h
    · rw [Nat.toDigits_of_base_le (by decide) (by omega)]
      have hfront := ih (n / 10) (by omega) (by omega)
      cases hdigits : Nat.toDigits 10 (n / 10) with
      | nil => exact absurd hdigits Nat.toDigits_ne_nil
      | cons c digits => simpa [hdigits] using hfront

/-- No number is written with a zero in front. -/
theorem toDigits_ne_padded (n : Nat) (c : Char) (digits : List Char) :
    Nat.toDigits 10 n ≠ '0' :: c :: digits := by
  intro h
  cases Nat.eq_zero_or_pos n with
  | inl hzero => simp [hzero] at h
  | inr hpos => exact toDigits_head_ne_zero hpos (by simp [h])

theorem le_ofDigitChars (digits : List Char) (n : Nat) : n ≤ Nat.ofDigitChars 10 digits n := by
  induction digits generalizing n with
  | nil => exact Nat.le_refl n
  | cons c digits ih =>
    rw [Nat.ofDigitChars_cons]
    exact Nat.le_trans (by omega) (ih _)

theorem fits_of_le {m n : Nat} (hle : m ≤ n) (h : fits n = true) : fits m = true :=
  decide_eq_true (Nat.lt_of_le_of_lt hle (of_decide_eq_true h))

/-- Digits are appended to the last if the number that they make fits. -/
theorem appendDigits_eq (digits : List Char) (n : Nat)
    (h : fits (Nat.ofDigitChars 10 digits n) = true) :
    appendDigits n digits = (Nat.ofDigitChars 10 digits n, digits.length, []) := by
  induction digits generalizing n with
  | nil => rfl
  | cons c digits ih =>
    have hvalue : n * 10 + digitValue c = 10 * n + (c.toNat - '0'.toNat) := by
      rw [Nat.mul_comm]; rfl
    rw [Nat.ofDigitChars_cons] at h ⊢
    have hfits : fits (10 * n + (c.toNat - '0'.toNat)) = true :=
      fits_of_le (le_ofDigitChars digits _) h
    rw [appendDigits, hvalue]
    simp only [hfits, if_true, ih _ h, List.length_cons]

/-- **The digits of a number that fits are read back.** -/
theorem readUnsigned_toDigits {n : Nat} (h : fits n = true) (negative : Bool) {rest : List Char}
    (hrest : Delimited rest) :
    readUnsigned negative (Nat.toDigits 10 n ++ rest) = some (integerOf negative n, rest) := by
  obtain ⟨htake, hdrop⟩ := takeWhile_isDigit (fun _ => isDigit_of_mem_toDigits (n := n)) hrest
  have hvalue : Nat.ofDigitChars 10 (Nat.toDigits 10 n) 0 = n := Nat.ofDigitChars_ten_toDigits
  have happend := appendDigits_eq (Nat.toDigits 10 n) 0 (by rwa [hvalue])
  rw [hvalue] at happend
  rw [readUnsigned]
  simp only [htake, hdrop, happend]
  split
  · next hnil => exact absurd hnil Nat.toDigits_ne_nil
  · next hpadded => exact absurd hpadded (toDigits_ne_padded n _ _)
  · split
    · exact absurd (hrest '.' rfl) (by decide)
    · exact absurd (hrest 'e' rfl) (by decide)
    · exact absurd (hrest 'E' rfl) (by decide)
    · rfl

end DeviceCli.Json
