import DeviceCli.Proofs.Pattern.Literal
import DeviceCli.Proofs.Section.Blocks

/-!
# Sections of texts that are put together

A section ends in front of a line that is not indented, so a text that begins with such a line has
its sections to itself, whatever is in front of it.

* `not_inside_of_flush`: a line that is not indented belongs to no block;
* `Sectioned.append`: sections among lines in front of such a line and those behind;
* `sectionsIn_append`: **so it is with texts, whichever breaks are between them.**
-/

namespace DeviceCli

open DeviceCli.Text

/-! ## 1. Lines -/

section Join

variable {pattern : Regex} {c : Char} {line : List Char} {front back : List (List Char)}
  {before behind : List Section}

/-- A line that is not indented belongs to no block. -/
theorem not_inside_of_flush (hc : isBlank c = false) (line : List Char) (column : Nat) :
    ¬ Inside column (c :: line) := by
  intro hinside
  obtain ⟨deeper, hdeeper, hlt⟩ := hinside
  have hflush : indent? (c :: line) = some 0 := by simp [indent?, hc]
  have hzero : some deeper = some 0 := (indent?_eq_some_iff.mpr hdeeper).symm.trans hflush
  cases hzero
  exact Nat.not_lt_zero column hlt

/-- **Sections in front of a line that belongs to no block, and those behind it.** By induction on
    the sections in front: the last one of them ends with the lines in front, if not before. -/
theorem Sectioned.append (hfront : Sectioned pattern front before)
    (hback : Sectioned pattern back behind)
    (hhead : ∀ l ∈ back.head?, ∀ column, ¬ Inside column l) :
    Sectioned pattern (front ++ back) (before ++ behind) := by
  induction hfront with
  | nil => exact hback
  | other hline _ ih => exact .other hline ih
  | blank hline hblank _ ih => exact .blank hline hblank ih
  | @block line body rest m column found hline hcolumn hbody hend _ ih =>
    have hend' : ∀ l ∈ (rest ++ back).head?, ¬ Inside column l := by
      cases rest with
      | nil => exact fun l hl => hhead l hl column
      | cons l rest => exact hend
    have hblock := Sectioned.block hline hcolumn hbody hend' ih
    rw [← List.append_assoc] at hblock
    exact hblock

/-! ## 2. Texts -/

/-- A line break is blank. -/
theorem breaksLine_of_not_isBlank (h : isBlank c = false) : breaksLine c = false := by
  refine Bool.eq_false_iff.mpr fun hbreak => ?_
  have hc : c = '\r' ∨ c = '\n' := by simpa [breaksLine] using hbreak
  rcases hc with rfl | rfl <;> cases h

/-- The first line of a text that begins with no blank belongs to no block. -/
theorem not_inside_of_first_line (h : isBlank c = false) (rest : List Char) :
    ∀ l ∈ (breakLines (c :: rest)).head?, ∀ column, ¬ Inside column l := by
  obtain ⟨line, more, hfirst⟩ := exists_breakLines_cons (breaksLine_of_not_isBlank h) rest
  rw [hfirst]
  intro l hl
  cases hl
  exact not_inside_of_flush h line

/-- `breakLines_append` on strings. -/
theorem breakLines_append_toList {a run b : String}
    (ha : ∀ c ∈ a.toList.getLast?, breaksLine c = false) (hrun : run.toList ≠ [])
    (hbreaks : ∀ c ∈ run.toList, breaksLine c = true)
    (hb : ∀ c ∈ b.toList.head?, breaksLine c = false) :
    breakLines (a ++ run ++ b).toList = breakLines a.toList ++ breakLines b.toList := by
  rw [String.toList_append, String.toList_append]
  exact breakLines_append ha hrun hbreaks hb

end Join

/-- **Texts with line breaks between them.** If the second one begins with a character that is not
    blank, the sections of the whole are those of the first and then those of the second: none reaches
    over the breaks, and none is lost at them. And which breaks there are does not matter, however
    the second one begins, as long as they are all of the breaks in that place. -/
theorem sectionsIn_append (pattern : Regex) (a run b : String)
    (ha : ∀ c ∈ a.toList.getLast?, breaksLine c = false) (hrun : run.toList ≠ [])
    (hbreaks : ∀ c ∈ run.toList, breaksLine c = true) :
    ((∃ c ∈ b.toList.head?, isBlank c = false) →
      sectionsIn pattern (a ++ run ++ b) = sectionsIn pattern a ++ sectionsIn pattern b) ∧
    ((∀ c ∈ b.toList.head?, breaksLine c = false) →
      ∀ other : String, other.toList ≠ [] → (∀ c ∈ other.toList, breaksLine c = true) →
        sectionsIn pattern (a ++ other ++ b) = sectionsIn pattern (a ++ run ++ b)) := by
  constructor
  · intro hb
    obtain ⟨c, hc, hblank⟩ := hb
    obtain ⟨rest, hrest⟩ : ∃ rest, b.toList = c :: rest := List.head?_eq_some_iff.mp hc
    have hplain : ∀ d ∈ b.toList.head?, breaksLine d = false := by
      intro d hd
      rw [hc] at hd
      cases hd
      exact breaksLine_of_not_isBlank hblank
    have hhead : ∀ l ∈ (breakLines b.toList).head?, ∀ column, ¬ Inside column l := by
      rw [hrest]
      exact not_inside_of_first_line hblank rest
    have hall := (sectioned_sectionsIn pattern a).append (sectioned_sectionsIn pattern b) hhead
    rw [sectionsIn, sectionsAmong_eq_sectionsOf, breakLines_append_toList ha hrun hbreaks hplain]
    exact sectionsOf_eq_iff.mpr hall
  · intro hb other hother hotherBreaks
    rw [sectionsIn, sectionsIn, breakLines_append_toList ha hother hotherBreaks hb,
      breakLines_append_toList ha hrun hbreaks hb]

/-- A section that is still open in front, and two kinds of breaks. -/
theorem sectionsIn_append_vlan :
    (∀ c ∈ "vlan 10\r\n name users".toList.getLast?, breaksLine c = false) ∧
    "\r\n\r\n".toList ≠ [] ∧ (∀ c ∈ "\r\n\r\n".toList, breaksLine c = true) ∧
    ∃ pattern : Regex,
      sectionsIn pattern ("vlan 10\r\n name users" ++ "\r\n\r\n" ++ "vlan 20") =
        sectionsIn pattern "vlan 10\r\n name users" ++ sectionsIn pattern "vlan 20" ∧
      sectionsIn pattern ("vlan 10\r\n name users" ++ "\n" ++ " mtu 1500") =
        sectionsIn pattern ("vlan 10\r\n name users" ++ "\r\n\r\n" ++ " mtu 1500") := by
  have ha : ∀ c ∈ "vlan 10\r\n name users".toList.getLast?, breaksLine c = false := by
    intro c hc
    cases hc
    rfl
  have hrun : "\r\n\r\n".toList ≠ [] := by decide
  have hbreaks : ∀ c ∈ "\r\n\r\n".toList, breaksLine c = true := by simp [breaksLine]
  have hother : ∀ c ∈ "\n".toList, breaksLine c = true := by simp [breaksLine]
  let vlan : Regex := ⟨(Regex.Node.ofText "vlan".toList).compile⟩
  refine ⟨ha, hrun, hbreaks, vlan, ?_, ?_⟩
  · exact (sectionsIn_append vlan _ _ _ ha hrun hbreaks).1 ⟨'v', rfl, rfl⟩
  · refine (sectionsIn_append vlan _ _ _ ha hrun hbreaks).2 ?_ "\n" (by decide) hother
    intro c hc
    cases hc
    rfl

end DeviceCli
