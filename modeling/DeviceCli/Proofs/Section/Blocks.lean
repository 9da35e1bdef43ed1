import DeviceCli.Proofs.Text.Lines
import DeviceCli.Section

/-!
# Sections are blocks of lines

`sectionsIn` goes over the lines of a text once, with the section in mind that is still open.
`sectionsOf` takes a header and all the lines of its block at a time, and `Sectioned` says which
blocks these are without searching for them.

* `indent?_eq_some_iff`, `deeperThan_iff`: what the column of a line is;
* `foldl_step`: what the pass finds from some line on, with a section open or none;
* `sectionsOf_eq_iff`: the recursion finds the blocks that there are;
* `sectionsIn_eq_sectionsOf`: **the pass finds what the recursion finds.**
-/

namespace DeviceCli

open DeviceCli.Text

/-! ## 1. Blocks -/

/-- The first character of a line that is not blank stands at a column. -/
def IndentedAt (column : Nat) (line : List Char) : Prop :=
  ∃ front c back, line = front ++ c :: back ∧ front.length = column ∧
    (∀ b ∈ front, isBlank b = true) ∧ isBlank c = false

/-- A line belongs to the block of a header at a column. -/
def Inside (column : Nat) (line : List Char) : Prop := ∃ c, IndentedAt c line ∧ column < c

/-- The sections among some lines. A line that the pattern does not match opens none; a header
    that is blank owns no lines; any other header owns the lines behind it up to the first one
    that is blank or not deeper than the header. -/
inductive Sectioned (pattern : Regex) : List (List Char) → List Section → Prop
  | nil : Sectioned pattern [] []
  | other {line rest found} (hline : pattern.findChars? line = none)
      (hrest : Sectioned pattern rest found) : Sectioned pattern (line :: rest) found
  | blank {line rest m found} (hline : pattern.findChars? line = some m)
      (hblank : ∀ c ∈ line, isBlank c = true) (hrest : Sectioned pattern rest found) :
      Sectioned pattern (line :: rest) (⟨String.ofList line, m.groupTexts, []⟩ :: found)
  | block {line body rest m column found} (hline : pattern.findChars? line = some m)
      (hcolumn : IndentedAt column line) (hbody : ∀ l ∈ body, Inside column l)
      (hend : ∀ l ∈ rest.head?, ¬ Inside column l) (hrest : Sectioned pattern rest found) :
      Sectioned pattern (line :: (body ++ rest))
        (⟨String.ofList line, m.groupTexts, body.map String.ofList⟩ :: found)

/-! ## 2. Columns -/

theorem indent?_eq_none_iff {line : List Char} :
    indent? line = none ↔ ∀ c ∈ line, isBlank c = true := by
  induction line with
  | nil => simp [indent?]
  | cons c line ih =>
    rw [indent?]
    by_cases hc : isBlank c = true
    · simp [hc, ih]
    · simp [hc]

theorem indent?_eq_some_iff {line : List Char} {column : Nat} :
    indent? line = some column ↔ IndentedAt column line := by
  induction line generalizing column with
  | nil => simp [indent?, IndentedAt]
  | cons c line ih =>
    rw [indent?]
    by_cases hc : isBlank c = true
    · rw [if_pos hc, Option.map_eq_some_iff]
      constructor
      · rintro ⟨before, hb, rfl⟩
        obtain ⟨front, d, back, rfl, rfl, hfront, hd⟩ := ih.mp hb
        exact ⟨c :: front, d, back, rfl, rfl, by simpa [hc] using hfront, hd⟩
      · rintro ⟨front, d, back, e, rfl, hfront, hd⟩
        cases front with
        | nil =>
          obtain ⟨rfl, -⟩ := List.cons.inj e
          exact absurd hc (by simp [hd])
        | cons b front =>
          obtain ⟨-, rfl⟩ := List.cons.inj e
          have hfront' : ∀ x ∈ front, isBlank x = true :=
            fun x hx => hfront x (List.mem_cons_of_mem _ hx)
          exact ⟨front.length, ih.mpr ⟨front, d, back, rfl, rfl, hfront', hd⟩, rfl⟩
    · rw [if_neg hc, Option.some_inj]
      constructor
      · rintro rfl
        exact ⟨[], c, line, rfl, rfl, by simp, by simpa using hc⟩
      · rintro ⟨front, d, back, e, rfl, hfront, -⟩
        cases front with
        | nil => rfl
        | cons b front =>
          obtain ⟨rfl, -⟩ := List.cons.inj e
          exact absurd (hfront c List.mem_cons_self) hc

theorem deeperThan_iff {column : Nat} {line : List Char} :
    deeperThan column line = true ↔ Inside column line := by
  unfold deeperThan Inside
  simp only [← indent?_eq_some_iff]
  cases indent? line with
  | none => simp
  | some c => simp

/-! ## 3. The recursion -/

section Recursion

variable {pattern : Regex} {line : List Char} {m : Match}

/-- The section of a header is still without lines. -/
theorem open?_of_match (h : pattern.findChars? line = some m) :
    Section.open? pattern line = some ⟨String.ofList line, m.groupTexts, []⟩ := by
  rw [Section.open?, h]
  rfl

theorem sectionsOf_other {rest : List (List Char)} (h : pattern.findChars? line = none) :
    sectionsOf pattern (line :: rest) = sectionsOf pattern rest := by
  rw [sectionsOf, Section.open?, h]
  rfl

theorem sectionsOf_blank {rest : List (List Char)} (h : pattern.findChars? line = some m)
    (hblank : indent? line = none) :
    sectionsOf pattern (line :: rest) =
      ⟨String.ofList line, m.groupTexts, []⟩ :: sectionsOf pattern rest := by
  rw [sectionsOf, open?_of_match h, hblank]

theorem sectionsOf_block {rest : List (List Char)} {column : Nat}
    (h : pattern.findChars? line = some m) (hcolumn : indent? line = some column) :
    sectionsOf pattern (line :: rest) =
      ⟨String.ofList line, m.groupTexts,
        (rest.takeWhile (deeperThan column)).map String.ofList⟩ ::
      sectionsOf pattern (rest.dropWhile (deeperThan column)) := by
  rw [sectionsOf, open?_of_match h, hcolumn]

/-- The lines of a block are those that lead it, as long as they are deeper. -/
theorem span_of_block {column : Nat} {body rest : List (List Char)}
    (hbody : ∀ l ∈ body, Inside column l) (hend : ∀ l ∈ rest.head?, ¬ Inside column l) :
    (body ++ rest).takeWhile (deeperThan column) = body ∧
      (body ++ rest).dropWhile (deeperThan column) = rest := by
  have hb : ∀ l ∈ body, deeperThan column l = true := fun l hl => deeperThan_iff.mpr (hbody l hl)
  rw [List.takeWhile_append_of_pos hb, List.dropWhile_append_of_pos hb]
  cases rest with
  | nil => simp
  | cons l rest =>
    have hl : ¬ deeperThan column l = true := fun h => hend l rfl (deeperThan_iff.mp h)
    simp [hl]

/-- **The recursion finds the sections that there are, and no others.** -/
theorem sectionsOf_eq_iff {lines : List (List Char)} {found : List Section} :
    sectionsOf pattern lines = found ↔ Sectioned pattern lines found := by
  constructor
  · rintro rfl
    induction lines using sectionsOf.induct pattern with
    | case1 =>
      rw [sectionsOf]
      exact .nil
    | case2 line rest hopen ih =>
      have hline : pattern.findChars? line = none := by simpa [Section.open?] using hopen
      rw [sectionsOf_other hline]
      exact .other hline ih
    | case3 line rest s hopen hblank ih =>
      obtain ⟨m, hline, -⟩ := Option.map_eq_some_iff.mp hopen
      rw [sectionsOf_blank hline hblank]
      exact .blank hline (indent?_eq_none_iff.mp hblank) ih
    | case4 line rest s hopen column hcolumn ih =>
      obtain ⟨m, hline, -⟩ := Option.map_eq_some_iff.mp hopen
      rw [sectionsOf_block hline hcolumn]
      have hbody : ∀ l ∈ rest.takeWhile (deeperThan column), Inside column l := fun l hl =>
        deeperThan_iff.mp (List.all_eq_true.mp List.all_takeWhile l hl)
      have hend : ∀ l ∈ (rest.dropWhile (deeperThan column)).head?, ¬ Inside column l := by
        intro l hl hin
        have hnot := List.head?_dropWhile_not (deeperThan column) rest
        rw [hl] at hnot
        exact Bool.false_ne_true (hnot.symm.trans (deeperThan_iff.mpr hin))
      have hblock := Sectioned.block hline (indent?_eq_some_iff.mp hcolumn) hbody hend ih
      rw [List.takeWhile_append_dropWhile] at hblock
      exact hblock
  · intro h
    induction h with
    | nil => rw [sectionsOf]
    | other hline _ ih => rw [sectionsOf_other hline, ih]
    | blank hline hblank _ ih =>
      rw [sectionsOf_blank hline (indent?_eq_none_iff.mpr hblank), ih]
    | block hline hcolumn hbody hend _ ih =>
      obtain ⟨htake, hdrop⟩ := span_of_block hbody hend
      rw [sectionsOf_block hline (indent?_eq_some_iff.mpr hcolumn), htake, hdrop, ih]

/-! ## 4. The pass -/

/-- A line that is not deeper than the open section is read as if none were open. -/
theorem step_of_not_deeper {found : List Section} {column : Nat}
    (h : ¬ deeperThan column line = true) :
    SectionScan.step pattern ⟨found, some column⟩ line =
      SectionScan.step pattern ⟨found, none⟩ line := by
  simp [SectionScan.step, h]

theorem step_of_deeper {s : Section} {older : List Section} {column : Nat}
    (h : deeperThan column line = true) :
    SectionScan.step pattern ⟨s :: older, some column⟩ line =
      ⟨{ s with lines := s.lines ++ [String.ofList line] } :: older, some column⟩ := by
  simp [SectionScan.step, SectionScan.extend, h]

/-- What the pass has found behind some lines. From where no section is open, it adds the sections
    of the lines; an open one first takes the lines that are deeper. Both at once, by induction on
    the lines, since a line may open a section or close one. -/
theorem foldl_step (pattern : Regex) (lines : List (List Char)) :
    (∀ found, (lines.foldl (SectionScan.step pattern) ⟨found, none⟩).found =
      (sectionsOf pattern lines).reverse ++ found) ∧
    ∀ s older column, (lines.foldl (SectionScan.step pattern) ⟨s :: older, some column⟩).found =
      (sectionsOf pattern (lines.dropWhile (deeperThan column))).reverse ++
        { s with lines :=
            s.lines ++ (lines.takeWhile (deeperThan column)).map String.ofList } :: older := by
  induction lines with
  | nil => simp [sectionsOf]
  | cons line rest ih =>
    obtain ⟨hclosed, hopen⟩ := ih
    have hfirst : ∀ found, ((line :: rest).foldl (SectionScan.step pattern) ⟨found, none⟩).found =
        (sectionsOf pattern (line :: rest)).reverse ++ found := by
      intro found
      rw [List.foldl_cons]
      cases hline : pattern.findChars? line with
      | none =>
        have hstep : SectionScan.step pattern ⟨found, none⟩ line = ⟨found, none⟩ := by
          simp [SectionScan.step, Section.open?, hline]
        rw [hstep, hclosed, sectionsOf_other hline]
      | some m =>
        have hstep : SectionScan.step pattern ⟨found, none⟩ line =
            ⟨⟨String.ofList line, m.groupTexts, []⟩ :: found, indent? line⟩ := by
          simp [SectionScan.step, open?_of_match hline]
        rw [hstep]
        cases hc : indent? line with
        | none => rw [hclosed, sectionsOf_blank hline hc, List.reverse_cons, List.append_assoc]; rfl
        | some column =>
          rw [hopen, sectionsOf_block hline hc, List.reverse_cons, List.append_assoc]
          rfl
    refine ⟨hfirst, fun s older column => ?_⟩
    by_cases hd : deeperThan column line = true
    · rw [List.foldl_cons, step_of_deeper hd, hopen, List.dropWhile_cons_of_pos hd,
        List.takeWhile_cons_of_pos hd]
      simp
    · rw [List.dropWhile_cons_of_neg hd, List.takeWhile_cons_of_neg hd, List.foldl_cons,
        step_of_not_deeper hd, ← List.foldl_cons, hfirst]
      simp

theorem sectionsAmong_eq_sectionsOf (pattern : Regex) (lines : List (List Char)) :
    sectionsAmong pattern lines = sectionsOf pattern lines := by
  rw [sectionsAmong, (foldl_step pattern lines).1, List.append_nil, List.reverse_reverse]

end Recursion

/-! ## 5. Texts -/

/-- The lines of a section with newlines between them. -/
theorem config_eq_joinWith (s : Section) :
    s.config.toList = joinWith ['\n'] (s.lines.map String.toList) :=
  toList_intercalate_newline s.lines

/-- What is found in a text are the sections among its lines. -/
theorem sectioned_sectionsIn (pattern : Regex) (text : String) :
    Sectioned pattern (breakLines text.toList) (sectionsIn pattern text) :=
  sectionsOf_eq_iff.mp (sectionsAmong_eq_sectionsOf pattern _).symm

/-- **One pass over the lines finds the sections that the recursion finds.** The lines are the ones
    between maximal runs of carriage returns and newlines; each section is a header and its block;
    and its configuration is the lines of the block with newlines between them. -/
theorem sectionsIn_eq_sectionsOf (pattern : Regex) (text : String) :
    sectionsIn pattern text = sectionsOf pattern (breakLines text.toList) ∧
    (∀ lines, breakLines text.toList = lines ↔ CutAtRuns text.toList lines) ∧
    (∀ lines found, sectionsOf pattern lines = found ↔ Sectioned pattern lines found) ∧
    ∀ s ∈ sectionsIn pattern text,
      s.config.toList = joinWith ['\n'] (s.lines.map String.toList) :=
  ⟨sectionsAmong_eq_sectionsOf pattern _, fun _ => breakLines_eq_iff, fun _ _ => sectionsOf_eq_iff,
    fun s _ => config_eq_joinWith s⟩

end DeviceCli
