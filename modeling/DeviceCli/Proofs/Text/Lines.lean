import DeviceCli.Text.Line
import Mathlib.Data.List.Basic

/-!
# Lines between runs of breaks

`breakLines` cuts a text at each single carriage return and newline, and drops the empty pieces that
come of it, but for the first and the last one. Here it is shown to cut at maximal runs of them.

* `CutAtRuns`: a text is its first line, a run of breaks, and the other lines behind it;
* `breakLines_run`: the step over one line and the run behind it;
* `breakLines_eq_iff`: **the lines of a text are the ones between its runs of breaks**;
* `breakLines_append`: texts with a run between them have the lines of the one and of the other;
* `breakLines_joinWith`: lines that are put together are found again.
-/

namespace DeviceCli.Text

/-- Some lines are those of a text between its maximal runs of line breaks. An empty first line
    stands before a run at the start, an empty last line behind one at the end. -/
inductive CutAtRuns : List Char → List (List Char) → Prop
  | last {line : List Char} (hline : ∀ c ∈ line, breaksLine c = false) : CutAtRuns line [line]
  | more {line run rest : List Char} {lines : List (List Char)}
      (hline : ∀ c ∈ line, breaksLine c = false)
      (hrun : run ≠ []) (hbreaks : ∀ c ∈ run, breaksLine c = true)
      (hrest : ∀ c ∈ rest.head?, breaksLine c = false)
      (hlines : CutAtRuns rest lines) : CutAtRuns (line ++ run ++ rest) (line :: lines)

/-! ## 1. Pieces -/

section Pieces

variable {p : Char → Bool} {line run rest : List Char} {c : Char}

theorem splitBy_of_none (h : ∀ c ∈ line, p c = false) : splitBy p line = [line] := by
  induction line with
  | nil => rfl
  | cons c line ih =>
    have hc : p c = false := h c List.mem_cons_self
    rw [splitBy, ih fun d hd => h d (List.mem_cons_of_mem _ hd), if_neg (by simp [hc])]

theorem splitBy_ne_nil (p : Char → Bool) (text : List Char) : splitBy p text ≠ [] := by
  cases text with
  | nil => simp [splitBy]
  | cons c text =>
    rw [splitBy]
    split
    · simp
    · split <;> simp

/-- The first piece is what is before the first cut. -/
theorem splitBy_append_cons (h : ∀ c ∈ line, p c = false) (hc : p c = true) :
    splitBy p (line ++ c :: rest) = line :: splitBy p rest := by
  induction line with
  | nil => rw [List.nil_append, splitBy, if_pos hc]
  | cons d line ih =>
    have hd : p d = false := h d List.mem_cons_self
    rw [List.cons_append, splitBy, ih fun b hb => h b (List.mem_cons_of_mem _ hb),
      if_neg (by simp [hd])]

theorem keepLast_nil_cons {pieces : List (List Char)} (h : pieces ≠ []) :
    keepLast ([] :: pieces) = keepLast pieces := by
  cases pieces with
  | nil => exact absurd rfl h
  | cons piece more => rfl

/-- A run of cuts leaves nothing but empty pieces. -/
theorem keepLast_splitBy_run (h : ∀ c ∈ run, p c = true) :
    keepLast (splitBy p (run ++ rest)) = keepLast (splitBy p rest) := by
  induction run with
  | nil => rfl
  | cons c run ih =>
    rw [List.cons_append, splitBy, if_pos (h c List.mem_cons_self),
      keepLast_nil_cons (splitBy_ne_nil p _), ih fun d hd => h d (List.mem_cons_of_mem _ hd)]

/-- Behind a run the next piece is not empty, unless it is the last one, so it is kept. -/
theorem keepLast_splitBy (h : ∀ c ∈ rest.head?, p c = false) :
    keepLast (splitBy p rest) = dropInnerEmpty (splitBy p rest) := by
  cases rest with
  | nil => rfl
  | cons c rest =>
    have hc : p c = false := h c rfl
    rw [splitBy, if_neg (by simp [hc])]
    cases splitBy p rest with
    | nil => rfl
    | cons piece more => cases more <;> rfl

end Pieces

/-! ## 2. Lines -/

section Lines

variable {line run rest : List Char}

theorem breakLines_of_plain (h : ∀ c ∈ line, breaksLine c = false) : breakLines line = [line] := by
  rw [breakLines, splitBy_of_none h]
  rfl

/-- **A line ends at a run of breaks, and the next one begins behind all of it.** -/
theorem breakLines_run (hline : ∀ c ∈ line, breaksLine c = false) (hrun : run ≠ [])
    (hbreaks : ∀ c ∈ run, breaksLine c = true) (hrest : ∀ c ∈ rest.head?, breaksLine c = false) :
    breakLines (line ++ run ++ rest) = line :: breakLines rest := by
  obtain ⟨c, run, rfl⟩ := List.exists_cons_of_ne_nil hrun
  have hc : breaksLine c = true := hbreaks c List.mem_cons_self
  have hrun' : ∀ d ∈ run, breaksLine d = true := fun d hd => hbreaks d (List.mem_cons_of_mem _ hd)
  rw [breakLines, List.append_assoc, List.cons_append, splitBy_append_cons hline hc]
  show line :: keepLast (splitBy breaksLine (run ++ rest)) = line :: breakLines rest
  rw [keepLast_splitBy_run hrun', keepLast_splitBy hrest, breakLines]

/-- A text is its first line, or a line, a run of breaks and what is behind the run. -/
theorem exists_run (text : List Char) :
    (∀ c ∈ text, breaksLine c = false) ∨
    ∃ line run rest, text = line ++ run ++ rest ∧ (∀ c ∈ line, breaksLine c = false) ∧ run ≠ [] ∧
      (∀ c ∈ run, breaksLine c = true) ∧ ∀ c ∈ rest.head?, breaksLine c = false := by
  let line := text.takeWhile (!breaksLine ·)
  let behind := text.dropWhile (!breaksLine ·)
  have htext : line ++ behind = text := List.takeWhile_append_dropWhile
  have hline : ∀ c ∈ line, breaksLine c = false := fun c hc => by
    simpa using List.all_eq_true.mp List.all_takeWhile c hc
  by_cases hb : behind = []
  · left
    rw [← htext, hb, List.append_nil]
    exact hline
  · right
    refine ⟨line, behind.takeWhile breaksLine, behind.dropWhile breaksLine, ?_, hline, ?_, ?_, ?_⟩
    · rw [List.append_assoc, List.takeWhile_append_dropWhile, htext]
    · obtain ⟨c, more, hc⟩ := List.exists_cons_of_ne_nil hb
      have hbreak : breaksLine c = true := by
        have := List.head?_dropWhile_not (!breaksLine ·) text
        rw [show text.dropWhile (!breaksLine ·) = c :: more from hc] at this
        simpa using this
      rw [hc, List.takeWhile_cons_of_pos hbreak]
      exact List.cons_ne_nil _ _
    · exact List.all_eq_true.mp List.all_takeWhile
    · intro c hc
      have := List.head?_dropWhile_not breaksLine behind
      rw [hc] at this
      exact this

/-- Each text has lines. -/
theorem exists_cutAtRuns (text : List Char) : ∃ lines, CutAtRuns text lines := by
  induction h : text.length using Nat.strongRecOn generalizing text with
  | ind n ih =>
    rcases exists_run text with hplain | ⟨line, run, rest, rfl, hline, hrun, hbreaks, hrest⟩
    · exact ⟨[text], .last hplain⟩
    · have hshort : rest.length < n := by
        have := List.length_pos_iff.mpr hrun
        simp only [List.length_append] at h
        omega
      obtain ⟨lines, hlines⟩ := ih rest.length hshort rest rfl
      exact ⟨line :: lines, .more hline hrun hbreaks hrest hlines⟩

theorem breakLines_of_cutAtRuns {text : List Char} {lines : List (List Char)}
    (h : CutAtRuns text lines) : breakLines text = lines := by
  induction h with
  | last hline => exact breakLines_of_plain hline
  | more hline hrun hbreaks hrest _ ih => rw [breakLines_run hline hrun hbreaks hrest, ih]

/-- **The lines of a text are the ones between its maximal runs of breaks.** -/
theorem breakLines_eq_iff {text : List Char} {lines : List (List Char)} :
    breakLines text = lines ↔ CutAtRuns text lines := by
  constructor
  · rintro rfl
    obtain ⟨lines, h⟩ := exists_cutAtRuns text
    exact breakLines_of_cutAtRuns h ▸ h
  · exact breakLines_of_cutAtRuns

example : breakLines "\r\na\n\r\nb".toList = ["".toList, "a".toList, "b".toList] := by decide

end Lines

/-! ## 3. Texts put together -/

section Together

variable {a b run text line rest : List Char} {lines more : List (List Char)} {c : Char}

/-- No line of a text holds a break. -/
theorem breaksLine_of_cutAtRuns (h : CutAtRuns text lines) :
    ∀ l ∈ lines, ∀ c ∈ l, breaksLine c = false := by
  induction h with
  | last hline => exact List.forall_mem_singleton.mpr hline
  | more hline _ _ _ _ ih => exact List.forall_mem_cons.mpr ⟨hline, ih⟩

/-- A text that begins with no break has a first line that begins as it does. -/
theorem exists_breakLines_cons (h : breaksLine c = false) (rest : List Char) :
    ∃ line more, breakLines (c :: rest) = (c :: line) :: more := by
  rw [breakLines, splitBy, if_neg (by simp [h])]
  cases splitBy breaksLine rest with
  | nil => exact ⟨[], [], rfl⟩
  | cons piece pieces => exact ⟨piece, keepLast pieces, rfl⟩

/-- **Texts with a run of breaks between them** have the lines of the one and then those of the
    other, if there are no breaks next to the run. By induction on the lines in front. -/
theorem breakLines_append (ha : ∀ c ∈ a.getLast?, breaksLine c = false) (hrun : run ≠ [])
    (hbreaks : ∀ c ∈ run, breaksLine c = true) (hb : ∀ c ∈ b.head?, breaksLine c = false) :
    breakLines (a ++ run ++ b) = breakLines a ++ breakLines b := by
  obtain ⟨lines, hlines⟩ := exists_cutAtRuns a
  induction hlines with
  | last hline =>
    rw [breakLines_run hline hrun hbreaks hb, breakLines_of_plain hline, List.singleton_append]
  | @more line inner rest lines hline hinner hinnerBreaks hrest _ ih =>
    -- something is behind the last run in front, since nothing ends in a break there
    have hne : rest ≠ [] := by
      intro hnil
      obtain ⟨d, hd⟩ := Option.isSome_iff_exists.mp (List.getLast?_isSome.mpr hinner)
      have hlast : (line ++ inner ++ rest).getLast? = some d := by
        rw [hnil, List.append_nil, List.getLast?_append_of_ne_nil _ hinner, hd]
      have hplain : breaksLine d = false := ha d hlast
      rw [hinnerBreaks d (List.mem_of_getLast? hd)] at hplain
      cases hplain
    have ha' : ∀ c ∈ rest.getLast?, breaksLine c = false := by
      rw [← List.getLast?_append_of_ne_nil (line ++ inner) hne]
      exact ha
    have hhead : ∀ c ∈ (rest ++ run ++ b).head?, breaksLine c = false := by
      rw [List.append_assoc, List.head?_append_of_ne_nil rest hne]
      exact hrest
    have hwhole : line ++ inner ++ rest ++ run ++ b = line ++ inner ++ (rest ++ run ++ b) := by simp
    rw [hwhole, breakLines_run hline hinner hinnerBreaks hhead, ih ha',
      breakLines_run hline hinner hinnerBreaks hrest, List.cons_append]

/-- **Lines that are put together with newlines are found again**, if those behind the first one are
    not empty. -/
theorem breakLines_joinWith (hline : ∀ c ∈ line, breaksLine c = false)
    (hmore : ∀ l ∈ more, l ≠ [] ∧ ∀ c ∈ l, breaksLine c = false) :
    breakLines (joinWith ['\n'] (line :: more)) = line :: more := by
  induction more generalizing line with
  | nil => exact breakLines_of_plain hline
  | cons next more ih =>
    obtain ⟨⟨hne, hnext⟩, hrest⟩ := List.forall_mem_cons.mp hmore
    have hhead : ∀ c ∈ (joinWith ['\n'] (next :: more)).head?, breaksLine c = false := by
      obtain ⟨d, next, rfl⟩ := List.exists_cons_of_ne_nil hne
      have hd : (joinWith ['\n'] ((d :: next) :: more)).head? = some d := by cases more <;> rfl
      rw [hd]
      intro c hc
      cases hc
      exact hnext d List.mem_cons_self
    have hbreaks : ∀ c ∈ ['\n'], breaksLine c = true := by simp [breaksLine]
    show breakLines (line ++ ['\n'] ++ joinWith ['\n'] (next :: more)) = line :: next :: more
    rw [breakLines_run hline (List.cons_ne_nil _ _) hbreaks hhead, ih hnext hrest]

theorem toList_intercalate_newline (lines : List String) :
    ("\n".intercalate lines).toList = joinWith ['\n'] (lines.map String.toList) := by
  rw [String.toList_intercalate]
  induction lines with
  | nil => rfl
  | cons line rest ih =>
    cases rest with
    | nil => simp [joinWith]
    | cons next rest =>
      rw [List.map_cons, List.map_cons, List.intercalate_cons_cons, ← List.map_cons, ih]
      rfl

end Together

end DeviceCli.Text
