import DeviceCli.Proofs.Pattern.Literal
import DeviceCli.Proofs.Section.Blocks

/-!
# Sections as parts of a text

The lines of a text fall into the blocks of its sections and the lines between them, and each block
is a text of its own.

* `Section.block`, `laidOut`: the lines of a section, and blocks with other lines between them;
* `Sectioned.exists_laidOut`: so are the lines among which sections are found;
* `Sectioned.block_of_mem`: among the lines of a block is its section and no other;
* `sectionsIn_block`: **each section is found again in its own lines, and the lines of a text are
  those of its sections, in order, and lines between them that are no headers.**
-/

namespace DeviceCli

open DeviceCli.Text

/-! ## 1. Blocks in order -/

/-- The lines of a section, its header first. -/
def Section.block (s : Section) : List (List Char) := s.header.toList :: s.lines.map String.toList

/-- Some lines in front, and the block of each section with the lines behind it, up to the next. -/
def laidOut (front : List (List Char)) : List (Section × List (List Char)) → List (List Char)
  | [] => front
  | (s, behind) :: more => front ++ s.block ++ laidOut behind more

section Layout

variable {pattern : Regex} {line : List Char} {lines : List (List Char)} {s : Section}
  {found : List Section}

theorem block_mk (line : List Char) (captures : List (Option String)) (body : List (List Char)) :
    Section.block ⟨String.ofList line, captures, body.map String.ofList⟩ = line :: body := by
  simp [Section.block, Function.comp_def]

theorem laidOut_cons (line : List Char) (front : List (List Char))
    (more : List (Section × List (List Char))) :
    laidOut (line :: front) more = line :: laidOut front more := by
  cases more <;> rfl

theorem laidOut_mk (line : List Char) (captures : List (Option String)) (body : List (List Char))
    (behind : List (List Char)) (more : List (Section × List (List Char))) :
    laidOut [] ((⟨String.ofList line, captures, body.map String.ofList⟩, behind) :: more) =
      line :: (body ++ laidOut behind more) := by
  rw [laidOut, block_mk, List.nil_append, List.cons_append]

/-- **The lines are those of the sections, in order**, with lines between them that the pattern does
    not match. By induction on the sections. -/
theorem Sectioned.exists_laidOut (h : Sectioned pattern lines found) :
    ∃ front more, laidOut front more = lines ∧ more.map Prod.fst = found ∧
      (∀ l ∈ front, pattern.findChars? l = none) ∧
      ∀ next ∈ more, ∀ l ∈ next.2, pattern.findChars? l = none := by
  induction h with
  | nil => exact ⟨[], [], rfl, rfl, by simp, by simp⟩
  | @other line rest found hline _ ih =>
    obtain ⟨front, more, hlaid, hfound, hfront, hmore⟩ := ih
    have hfront' : ∀ l ∈ line :: front, pattern.findChars? l = none :=
      List.forall_mem_cons.mpr ⟨hline, hfront⟩
    exact ⟨line :: front, more, by rw [laidOut_cons, hlaid], hfound, hfront', hmore⟩
  | @blank line rest m found _ _ _ ih =>
    obtain ⟨front, more, hlaid, hfound, hfront, hmore⟩ := ih
    refine ⟨[], (⟨String.ofList line, m.groupTexts, []⟩, front) :: more, ?_,
      by rw [List.map_cons, hfound], by simp, List.forall_mem_cons.mpr ⟨hfront, hmore⟩⟩
    exact (laidOut_mk line m.groupTexts [] front more).trans (by rw [hlaid, List.nil_append])
  | @block line body rest m column found _ _ _ _ _ ih =>
    obtain ⟨front, more, hlaid, hfound, hfront, hmore⟩ := ih
    refine ⟨[], (⟨String.ofList line, m.groupTexts, body.map String.ofList⟩, front) :: more, ?_,
      by rw [List.map_cons, hfound], by simp, List.forall_mem_cons.mpr ⟨hfront, hmore⟩⟩
    exact (laidOut_mk line m.groupTexts body front more).trans (by rw [hlaid])

theorem mem_laidOut {front : List (List Char)} {more : List (Section × List (List Char))}
    (hs : s ∈ more.map Prod.fst) (hline : line ∈ s.block) : line ∈ laidOut front more := by
  induction more generalizing front with
  | nil => cases hs
  | cons next more ih =>
    obtain ⟨t, behind⟩ := next
    rw [laidOut, List.mem_append, List.mem_append]
    rcases List.mem_cons.mp hs with rfl | hs
    · exact .inl (.inr hline)
    · exact .inr (ih hs)

/-! ## 2. A block by itself -/

theorem ne_nil_of_inside {column : Nat} (h : Inside column line) : line ≠ [] := by
  obtain ⟨_, ⟨front, c, back, rfl, -⟩, -⟩ := h
  simp

/-- **Among the lines of a block its section is found, and no other.** No line of it but the header
    is empty. -/
theorem Sectioned.block_of_mem (h : Sectioned pattern lines found) (hs : s ∈ found) :
    Sectioned pattern s.block [s] ∧ ∀ l ∈ s.lines, l.toList ≠ [] := by
  induction h with
  | nil => cases hs
  | other _ _ ih => exact ih hs
  | @blank line rest m found hline hblank _ ih =>
    rcases List.mem_cons.mp hs with rfl | hs
    · exact ⟨block_mk line m.groupTexts [] ▸ .blank hline hblank .nil, by simp⟩
    · exact ih hs
  | @block line body rest m column found hline hcolumn hbody _ _ ih =>
    rcases List.mem_cons.mp hs with rfl | hs
    · have halone : Sectioned pattern (line :: (body ++ []))
          [⟨String.ofList line, m.groupTexts, body.map String.ofList⟩] :=
        .block hline hcolumn hbody (by simp) .nil
      rw [List.append_nil, ← block_mk line m.groupTexts body] at halone
      refine ⟨halone, fun l hl => ?_⟩
      obtain ⟨b, hb, rfl⟩ := List.mem_map.mp hl
      rw [String.toList_ofList]
      exact ne_nil_of_inside (hbody b hb)
    · exact ih hs

end Layout

/-! ## 3. Texts -/

/-- **Each section is found again in its own lines**: they are a text in which the pattern finds that
    section and nothing else, whatever the pattern. **And the lines of a text are those of its
    sections**, block after block in order, so that no line is in two of them; the lines before,
    between and behind them are no headers, so that none is left out. -/
theorem sectionsIn_block (pattern : Regex) (text : String) :
    (∀ s ∈ sectionsIn pattern text,
      sectionsIn pattern ("\n".intercalate (s.header :: s.lines)) = [s]) ∧
    ∃ front more, laidOut front more = breakLines text.toList ∧
      more.map Prod.fst = sectionsIn pattern text ∧
      (∀ l ∈ front, pattern.findChars? l = none) ∧
      ∀ next ∈ more, ∀ l ∈ next.2, pattern.findChars? l = none := by
  have hfound : Sectioned pattern (breakLines text.toList) (sectionsIn pattern text) :=
    sectioned_sectionsIn pattern text
  obtain ⟨front, more, hlaid, hsections, hfront, hmore⟩ := hfound.exists_laidOut
  refine ⟨fun s hs => ?_, front, more, hlaid, hsections, hfront, hmore⟩
  obtain ⟨halone, hbody⟩ := hfound.block_of_mem hs
  -- the lines of the block are lines of the text, so they hold no breaks
  have hplain : ∀ l ∈ s.block, ∀ c ∈ l, breaksLine c = false := by
    intro l hl
    have hmem : l ∈ breakLines text.toList := hlaid ▸ mem_laidOut (hsections ▸ hs) hl
    exact breaksLine_of_cutAtRuns (breakLines_eq_iff.mp rfl) l hmem
  obtain ⟨hheader, hlines⟩ := List.forall_mem_cons.mp hplain
  have hagain : breakLines ("\n".intercalate (s.header :: s.lines)).toList = s.block := by
    rw [toList_intercalate_newline, List.map_cons]
    refine breakLines_joinWith hheader fun l hl => ⟨?_, hlines l hl⟩
    obtain ⟨t, ht, rfl⟩ := List.mem_map.mp hl
    exact hbody t ht
  rw [sectionsIn, hagain, sectionsAmong_eq_sectionsOf]
  exact sectionsOf_eq_iff.mpr halone

/-- A header inside a section, and a blank line that ends it. -/
theorem sectionsIn_block_vlan :
    ∃ pattern : Regex, ∃ s ∈ sectionsIn pattern "end\r\n  vlan 10\n    name vlan\n   \nvlan 20",
      s.header = "  vlan 10" ∧ s.lines = ["    name vlan"] ∧
      sectionsIn pattern "  vlan 10\n    name vlan" = [s] := by
  let vlan : Regex := ⟨(Regex.Node.ofText "vlan".toList).compile⟩
  have hmatch : ∀ line, (vlan.findChars? line).isSome = true ↔ "vlan".toList <:+: line := by
    intro line
    rw [Regex.findChars?, Option.isSome_map]
    exact Regex.isSome_search_iff "vlan".toList line
  obtain ⟨m, hm⟩ : ∃ m, vlan.findChars? "  vlan 10".toList = some m :=
    Option.isSome_iff_exists.mp ((hmatch _).mpr (by decide))
  have hend : vlan.findChars? "end".toList = none := by
    rw [← Option.not_isSome_iff_eq_none, hmatch]
    decide
  let s : Section := ⟨"  vlan 10", m.groupTexts, ["    name vlan"]⟩
  have hs : s ∈ sectionsIn vlan "end\r\n  vlan 10\n    name vlan\n   \nvlan 20" := by
    have hlines : breakLines "end\r\n  vlan 10\n    name vlan\n   \nvlan 20".toList =
        ["end".toList, "  vlan 10".toList, "    name vlan".toList, "   ".toList,
          "vlan 20".toList] := by decide
    have hcolumn : indent? "  vlan 10".toList = some 2 := by decide
    rw [sectionsIn, hlines, sectionsAmong_eq_sectionsOf, sectionsOf_other hend,
      sectionsOf_block hm hcolumn]
    exact List.mem_cons_self
  exact ⟨vlan, s, hs, rfl, rfl, (sectionsIn_block vlan _).1 s hs⟩

end DeviceCli
