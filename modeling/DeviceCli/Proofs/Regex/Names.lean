import DeviceCli.Regex.Property

/-!
# Names of properties

No property, and no value of one, has a name with a bracket, a parenthesis or a backslash in it.

* `isInert`: the characters that neither open nor close anything in a pattern, nor escape anything;
* `inert_of_property?` and `inert_of_propertyValue?`: **the names there are, are made of those.**
-/

namespace DeviceCli.Regex

open DeviceCli.Text

/-- Whether a character neither opens nor closes anything in a pattern, nor escapes anything. -/
def isInert (c : Char) : Bool := c != '\\' && c != '[' && c != ']' && c != '(' && c != ')'

/-- A text of such characters. -/
def Inert (s : List Char) : Prop := ∀ c ∈ s, isInert c = true

instance : DecidablePred Inert := fun s =>
  decidable_of_iff (s.all isInert = true) List.all_eq_true

theorem inert_append {a b : List Char} : Inert (a ++ b) ↔ Inert a ∧ Inert b :=
  List.forall_mem_append

theorem inert_cons {c : Char} {s : List Char} : Inert (c :: s) ↔ isInert c = true ∧ Inert s :=
  List.forall_mem_cons

/-- A string of such characters, by its characters. -/
theorem inert_text {s : List Char} (h : Inert s) : Inert (String.ofList s).toList := by
  rwa [String.toList_ofList]

/-! ## 1. Loose names -/

theorem eq_of_not_inert {c : Char} (h : isInert c = false) :
    c = '\\' ∨ c = '[' ∨ c = ']' ∨ c = '(' ∨ c = ')' := by
  simpa only [isInert, Bool.and_eq_false_iff, bne_eq_false_iff_eq, or_assoc] using h

/-- A test that what is not inert fails is passed by what is inert alone. -/
theorem isInert_of_test {test : Char → Bool} {c : Char} (h : test c = true)
    (hfail : ['\\', '[', ']', '(', ')'].any test = false) : isInert c = true := by
  cases hinert : isInert c with
  | true => rfl
  | false =>
    have hmem : c ∈ ['\\', '[', ']', '(', ')'] := by
      simpa only [List.mem_cons, List.not_mem_nil, or_false] using eq_of_not_inert hinert
    exact absurd h (List.any_eq_false.mp hfail c hmem)

/-- A loose name keeps what is not inert. -/
theorem inert_of_looseName {name : List Char} (h : Inert (looseName name)) : Inert name := by
  intro c hc
  cases hinert : isInert c with
  | true => rfl
  | false =>
    have hkept : c ∈ looseName name := by
      refine List.mem_map.mpr ⟨c, List.mem_filter.mpr ⟨hc, ?_⟩, ?_⟩ <;>
        rcases eq_of_not_inert hinert with rfl | rfl | rfl | rfl | rfl <;> rfl
    exact hinert.symm.trans (h c hkept)

theorem isInert_toLower {c : Char} (h : isInert c = true) : isInert c.toLower = true := by
  cases hlower : isInert c.toLower with
  | true => rfl
  | false =>
    have hkept : c.toLower = c := by
      have hcases := eq_of_not_inert hlower
      by_cases hupper : c.val ≥ 'A'.val ∧ c.val ≤ 'Z'.val
      · have hlowered : c.toLower = _ := dif_pos hupper
        rw [hlowered] at hcases
        have hsmall : ∀ {d : Char} (h : (c.val + ('a'.val - 'A'.val)).isValidChar),
            (⟨c.val + ('a'.val - 'A'.val), h⟩ : Char) = d → 97 ≤ d.toNat ∧ d.toNat ≤ 122 := by
          rintro d h rfl
          obtain ⟨hfirst, hlast⟩ := hupper
          simp [UInt32.le_iff_toNat_le] at hfirst hlast ⊢
          omega
        rcases hcases with h | h | h | h | h <;> exact absurd (hsmall _ h) (by decide)
      · exact dif_neg hupper
    rw [hkept, h] at hlower
    exact hlower.symm

theorem inert_looseName {name : List Char} (h : Inert name) : Inert (looseName name) := by
  intro c hc
  obtain ⟨d, hd, rfl⟩ := List.mem_map.mp hc
  exact isInert_toLower (h d (List.mem_filter.mp hd).1)

theorem isInert_of_isLatinLetter {c : Char} (h : isLatinLetter c = true) : isInert c = true :=
  isInert_of_test h rfl

theorem inert_of_propertyName {name : List Char} (h : Inert (propertyName name).toList) :
    Inert name := by
  have hplain : ∀ {name : List Char}, Inert (String.ofList (looseName name)).toList → Inert name :=
    fun h => inert_of_looseName (by rwa [String.toList_ofList] at h)
  have hlead : ∀ {a b : Char} {rest : List Char},
      ((a == 'i' || a == 'I') && (b == 's' || b == 'S')) = true → Inert rest →
        Inert (a :: b :: rest) := by
    intro a b rest his hrest
    simp only [Bool.and_eq_true, Bool.or_eq_true, beq_iff_eq] at his
    refine inert_cons.mpr ⟨?_, inert_cons.mpr ⟨?_, hrest⟩⟩
    · rcases his.1 with rfl | rfl <;> rfl
    · rcases his.2 with rfl | rfl <;> rfl
  fun_cases propertyName name with
  | case1 a b rest his hloose =>
    have hrest : Inert (looseName rest) := by
      rw [hloose]
      decide
    exact hlead his (inert_of_looseName hrest)
  | case2 a b rest his hloose =>
    rw [propertyName, if_pos his] at h
    split at h
    · next hc => exact absurd hc hloose
    · exact hlead his (hplain h)
  | case3 a b rest his =>
    rw [propertyName, if_neg his] at h
    exact hplain h
  | case4 name hshort =>
    rw [propertyName] at h
    · exact hplain h
    · exact hshort

/-! ## 2. Tables -/

/-- A text with something in it that is not inert is none of those that are. -/
theorem eq_false_of_not_inert {loose : String} (h : ¬ Inert loose.toList) {name : String}
    (hname : Inert name.toList) : (loose = name) = False :=
  eq_false fun heq => h (heq ▸ hname)

theorem inert_of_trait? {loose : String} {s : CodeSet} (h : trait? loose = some s) :
    Inert loose.toList := by
  refine Decidable.byContradiction fun hnot => ?_
  unfold trait? trait?.match_1 at h
  simp (disch := exact inert_text (by decide)) only [eq_false_of_not_inert hnot, dite_false] at h
  cases h

theorem inert_of_graphemeBreak? {loose : String} {s : CodeSet}
    (h : graphemeBreak? loose = some s) : Inert loose.toList := by
  unfold graphemeBreak? at h
  split at h
  all_goals first | decide | cases h

theorem inert_of_wordBreak? {loose : String} {s : CodeSet} (h : wordBreak? loose = some s) :
    Inert loose.toList := by
  unfold wordBreak? at h
  split at h
  all_goals first | decide | cases h

theorem inert_of_sentenceBreak? {loose : String} {s : CodeSet}
    (h : sentenceBreak? loose = some s) : Inert loose.toList := by
  unfold sentenceBreak? at h
  split at h
  all_goals first | decide | cases h

/-- What is found under a name in a table of names is in the table, and so is its name. -/
theorem mem_of_find?_contains {α β : Type} [BEq α] [LawfulBEq α] {table : List (List α × β)}
    {name : α} {entry : List α × β} (h : table.find? (·.1.contains name) = some entry) :
    entry ∈ table ∧ name ∈ entry.1 :=
  ⟨List.mem_of_find?_eq_some h,
    List.contains_iff_mem.mp (by simpa using List.find?_some h)⟩

theorem inert_of_generalCategory? {loose : String} {s : CodeSet}
    (h : generalCategory? loose = some s) : Inert loose.toList := by
  have hgroups : ∀ entry ∈ groupNames, ∀ name ∈ entry.1, Inert name.toList := by decide
  have hcategories : ∀ entry ∈ categoryNames, ∀ name ∈ entry.1, Inert name.toList := by decide
  unfold generalCategory? at h
  split at h
  · decide
  · decide
  · decide
  · split at h
    · next hfound =>
      obtain ⟨hentry, hname⟩ := mem_of_find?_contains hfound
      exact hgroups _ hentry loose hname
    · obtain ⟨entry, hfound, -⟩ := Option.map_eq_some_iff.mp h
      obtain ⟨hentry, hname⟩ := mem_of_find?_contains hfound
      exact hcategories _ hentry loose hname

/-- The pieces of a text are made of its characters. -/
theorem inert_of_mem_piecesAt {sep : Char} {cs piece : List Char} (h : Inert cs)
    (hpiece : piece ∈ piecesAt sep cs) : Inert piece := by
  induction cs generalizing piece with
  | nil => exact List.mem_singleton.mp hpiece ▸ h
  | cons c rest ih =>
    obtain ⟨hc, hrest⟩ := inert_cons.mp h
    rw [piecesAt, List.foldr_cons, ← piecesAt] at hpiece
    split at hpiece
    · rcases List.mem_cons.mp hpiece with rfl | hpiece
      · exact nofun
      · exact ih hrest hpiece
    · split at hpiece
      · exact List.mem_singleton.mp hpiece ▸ inert_cons.mpr ⟨hc, nofun⟩
      · next first more hpieces =>
        rcases List.mem_cons.mp hpiece with rfl | hpiece
        · exact inert_cons.mpr ⟨hc, ih hrest (hpieces ▸ List.mem_cons_self)⟩
        · exact ih hrest (hpieces ▸ List.mem_cons_of_mem _ hpiece)

theorem inert_of_named? {loose : List Char} {s : Script} (h : Script.named? loose = some s) :
    Inert loose := by
  have htable : ∀ line ∈ scriptNameText, Inert line.toList := by
    rw [scriptNameText]
    repeat refine List.forall_mem_cons.mpr ⟨inert_text (by decide), ?_⟩
    exact nofun
  obtain ⟨entry, hfound, -⟩ := Option.map_eq_some_iff.mp h
  have hloose : loose ∈ entry.2 :=
    List.contains_iff_mem.mp (by simpa using List.find?_some hfound)
  obtain ⟨word, hword, rfl⟩ := List.mem_map.mp (List.mem_of_find?_eq_some hfound)
  obtain ⟨line, hline, hword⟩ := List.mem_flatMap.mp hword
  obtain ⟨piece, hpiece, rfl⟩ := List.mem_map.mp hloose
  exact inert_looseName (inert_of_mem_piecesAt
    (inert_of_mem_piecesAt (htable line hline) (List.mem_filter.mp hword).1) hpiece)

theorem exists_of_tablesUpTo? {p : String → Bool} {table : List (String × List String)}
    {rows : List String} (h : tablesUpTo? p table = some rows) : ∃ entry ∈ table, p entry.1 = true := by
  induction table generalizing rows with
  | nil => cases h
  | cons entry rest ih =>
    obtain ⟨version, lines⟩ := entry
    rw [tablesUpTo?] at h
    split at h
    · next hp => exact ⟨_, List.mem_cons_self, hp⟩
    · obtain ⟨more, hmore, -⟩ := Option.map_eq_some_iff.mp h
      obtain ⟨entry, hentry, hp⟩ := ih hmore
      exact ⟨entry, List.mem_cons_of_mem _ hentry, hp⟩

theorem inert_of_age? {loose : String} {s : CodeSet} (h : age? loose = some s) :
    Inert loose.toList := by
  have hversions : ∀ version ∈ ageText.map (·.1), Inert version.toList := by decide +kernel
  rw [age?] at h
  split at h
  · cases h
  · obtain ⟨rows, hrows, -⟩ := Option.map_eq_some_iff.mp h
    obtain ⟨entry, hentry, hnames⟩ := exists_of_tablesUpTo? hrows
    have hversion := hversions entry.1 (List.mem_map_of_mem hentry)
    rw [namesVersion, Bool.or_eq_true, beq_iff_eq, beq_iff_eq] at hnames
    rcases hnames with heq | heq
    · rw [heq]
      exact hversion
    · rw [heq]
      exact inert_cons.mpr ⟨rfl, fun c hc => hversion c (List.mem_filter.mp hc).1⟩

/-! ## 3. Properties -/

theorem inert_of_property? {name : List Char} {s : CodeSet} (h : property? name = some s) :
    Inert name := by
  refine inert_of_propertyName ?_
  rw [property?] at h
  split at h
  · next htrait => exact inert_of_trait? htrait
  · split at h
    · next hcategory => exact inert_of_generalCategory? hcategory
    · obtain ⟨script, hscript, -⟩ := Option.map_eq_some_iff.mp h
      exact inert_of_named? hscript

theorem inert_of_propertyValue? {name value : List Char} {s : CodeSet}
    (h : propertyValue? name value = some s) : Inert name ∧ Inert value := by
  have hname : ∀ {known : String}, propertyName name = known → Inert known.toList → Inert name :=
    fun heq hknown => inert_of_propertyName (heq ▸ hknown)
  unfold propertyValue? at h
  split at h
  case h_1 heq | h_2 heq =>
    exact ⟨hname heq (by decide), inert_of_propertyName (inert_of_generalCategory? h)⟩
  case h_3 heq | h_4 heq | h_5 heq | h_6 heq =>
    obtain ⟨script, hscript, -⟩ := Option.map_eq_some_iff.mp h
    exact ⟨hname heq (by decide), inert_of_propertyName (inert_of_named? hscript)⟩
  case h_7 heq => exact ⟨hname heq (by decide), inert_of_propertyName (inert_of_age? h)⟩
  case h_8 heq | h_9 heq =>
    exact ⟨hname heq (by decide), inert_of_propertyName (inert_of_graphemeBreak? h)⟩
  case h_10 heq | h_11 heq =>
    exact ⟨hname heq (by decide), inert_of_propertyName (inert_of_wordBreak? h)⟩
  case h_12 heq | h_13 heq =>
    exact ⟨hname heq (by decide), inert_of_propertyName (inert_of_sentenceBreak? h)⟩
  case h_14 => cases h

end DeviceCli.Regex
