import DeviceCli.Proofs.Text.Lines

/-!
# Rows that end at newlines

`rows` cuts a text at its newlines. A newline ends the row before it, together with a carriage
return in front of it, and there is no row behind a final newline.

* `CutAtNewlines`: a text is empty, a last row without a newline, or a row, a newline, and the other
  rows behind it;
* `rows_eq_iff`: **the rows of a text are the ones that its newlines end**;
* `exists_rows_append`: at the end of each row a text can be taken apart, and the rows with it;
* `byteCount_flatten_rows`: rows take no more bytes than the text.
-/

namespace DeviceCli.Text

/-- Some rows are those of a text. -/
inductive CutAtNewlines : List Char → List (List Char) → Prop
  | none : CutAtNewlines [] []
  | last {line : List Char} (hline : ∀ c ∈ line, c ≠ '\n') (hne : line ≠ []) :
      CutAtNewlines line [line]
  | more {line rest : List Char} {lines : List (List Char)} (hline : ∀ c ∈ line, c ≠ '\n')
      (hlines : CutAtNewlines rest lines) :
      CutAtNewlines (line ++ '\n' :: rest) (dropEndReturn line :: lines)

/-! ## 1. Rows -/

section Rows

variable {text line : List Char} {lines : List (List Char)}

theorem rows_of_plain (hline : ∀ c ∈ line, c ≠ '\n') (hne : line ≠ []) : rows line = [line] := by
  have hplain : ∀ c ∈ line, (c == '\n') = false := fun c hc => by simpa using hline c hc
  rw [rows, splitBy_of_none hplain, rowsOf, if_neg (by simpa using hne)]

/-- A newline ends a row. -/
theorem rows_newline (hline : ∀ c ∈ line, c ≠ '\n') (rest : List Char) :
    rows (line ++ '\n' :: rest) = dropEndReturn line :: rows rest := by
  have hplain : ∀ c ∈ line, (c == '\n') = false := fun c hc => by simpa using hline c hc
  rw [rows, splitBy_append_cons hplain (by decide), rowsOf, rows]
  exact splitBy_ne_nil _ rest

/-- Each text has rows. -/
theorem exists_cutAtNewlines (text : List Char) : ∃ lines, CutAtNewlines text lines := by
  induction h : text.length using Nat.strongRecOn generalizing text with
  | ind n ih =>
    let line := text.takeWhile (· ≠ '\n')
    have hline : ∀ c ∈ line, c ≠ '\n' := fun c hc => by
      simpa using List.all_eq_true.mp List.all_takeWhile c hc
    have htext : line ++ text.dropWhile (· ≠ '\n') = text := List.takeWhile_append_dropWhile
    cases hbehind : text.dropWhile (· ≠ '\n') with
    | nil =>
      rw [hbehind, List.append_nil] at htext
      by_cases hne : text = []
      · exact ⟨[], hne ▸ .none⟩
      · exact ⟨[text], .last (htext ▸ hline) hne⟩
    | cons c rest =>
      have hc : c = '\n' := by
        have := List.head?_dropWhile_not (· ≠ '\n') text
        rw [hbehind] at this
        simpa using this
      rw [hbehind, hc] at htext
      have hshort : rest.length < n := by
        rw [← h, ← htext, List.length_append, List.length_cons]
        omega
      obtain ⟨lines, hlines⟩ := ih rest.length hshort rest rfl
      exact ⟨dropEndReturn line :: lines, htext ▸ .more hline hlines⟩

theorem rows_of_cutAtNewlines (h : CutAtNewlines text lines) : rows text = lines := by
  induction h with
  | none => rfl
  | last hline hne => exact rows_of_plain hline hne
  | more hline _ ih => rw [rows_newline hline, ih]

/-- **The rows of a text are the ones that its newlines end.** -/
theorem rows_eq_iff : rows text = lines ↔ CutAtNewlines text lines := by
  constructor
  · rintro rfl
    obtain ⟨lines, h⟩ := exists_cutAtNewlines text
    exact rows_of_cutAtNewlines h ▸ h
  · exact rows_of_cutAtNewlines

theorem rows_eq_nil_iff : rows text = [] ↔ text = [] := by
  rw [rows_eq_iff]
  constructor
  · intro h
    cases h
    rfl
  · rintro rfl
    exact .none

/-- **A text can be taken apart between any two of its rows**, and each part has its rows. -/
theorem exists_rows_append {before behind : List (List Char)}
    (h : rows text = before ++ behind) :
    ∃ front back, text = front ++ back ∧ rows front = before ∧ rows back = behind := by
  obtain ⟨lines, hlines⟩ := exists_cutAtNewlines text
  rw [rows_of_cutAtNewlines hlines] at h
  -- along the rows, as many of them as are in front
  induction hlines generalizing before with
  | none =>
    obtain ⟨rfl, rfl⟩ := List.append_eq_nil_iff.mp h.symm
    exact ⟨[], [], rfl, rfl, rfl⟩
  | @last line hline hne =>
    cases before with
    | nil => exact ⟨[], line, rfl, rfl, (rows_of_plain hline hne).trans h⟩
    | cons row before =>
      obtain ⟨rfl, hrest⟩ := List.cons.inj h
      obtain ⟨rfl, rfl⟩ := List.append_eq_nil_iff.mp hrest.symm
      exact ⟨line, [], (List.append_nil line).symm, rows_of_plain hline hne, rfl⟩
  | @more line rest lines hline hlines ih =>
    cases before with
    | nil =>
      refine ⟨[], line ++ '\n' :: rest, rfl, rfl, ?_⟩
      rw [rows_newline hline, rows_of_cutAtNewlines hlines]
      exact h
    | cons row before =>
      obtain ⟨rfl, hrest⟩ := List.cons.inj h
      obtain ⟨front, back, rfl, hfront, hback⟩ := ih hrest
      refine ⟨line ++ '\n' :: front, back, by simp, ?_, hback⟩
      rw [rows_newline hline, hfront]

end Rows

/-! ## 2. Bytes -/

/-- How many bytes a text takes. -/
def byteCount (text : List Char) : Nat := (String.ofList text).utf8ByteSize

@[simp] theorem byteCount_append (a b : List Char) :
    byteCount (a ++ b) = byteCount a + byteCount b := by
  rw [byteCount, String.ofList_append, String.utf8ByteSize_append]
  rfl

theorem byteCount_dropEndReturn (line : List Char) :
    byteCount (dropEndReturn line) ≤ byteCount line := by
  rw [dropEndReturn]
  split
  · next before h =>
    have hline : line = before.reverse ++ ['\r'] := by
      rw [← List.reverse_reverse line, h, List.reverse_cons]
    rw [hline, byteCount_append]
    exact Nat.le_add_right _ _
  · exact Nat.le_refl _

/-- **Rows take no more bytes than the text.** -/
theorem byteCount_flatten_rows (text : List Char) :
    byteCount (rows text).flatten ≤ byteCount text := by
  obtain ⟨lines, h⟩ := exists_cutAtNewlines text
  rw [rows_of_cutAtNewlines h]
  induction h with
  | none => exact Nat.zero_le _
  | last => exact Nat.le_of_eq (congrArg byteCount List.flatten_singleton)
  | @more line rest lines _ _ ih =>
    have hline := byteCount_dropEndReturn line
    have hnewline : byteCount ('\n' :: rest) = byteCount ['\n'] + byteCount rest :=
      byteCount_append ['\n'] rest
    rw [List.flatten_cons, byteCount_append, byteCount_append, hnewline]
    omega

end DeviceCli.Text
