import DeviceCli.Screen.Editor

/-!
# Cleaning in place is cleaning by rewriting

A text is cleaned on a screen of linked slots, with two cursors that never look back. Here it is
shown to come out as by `settle`, which searches the whole text anew for every edit.

* `ErasesLeftmost` and `OverwritesLeftmost` say what one edit is, by where it stands in the text;
  `eraseFirst_eq_some_iff` and `overwriteFirst_eq_some_iff` say that the searches find it.
* `Editor.text_erase` and `Editor.text_overwrite`: an edit of the screen is that edit of its text.
* `normalize_eq_settle`: so are all edits together.
-/

namespace DeviceCli.Screen

/-! ## 1. Texts without a pair -/

section Pair

variable {test : Char → Char → Bool}

theorem noPair_iff {s : List Char} :
    NoPair test s ↔ ∀ front c d back, s = front ++ c :: d :: back → test c d = false := by
  constructor
  · rintro h front c d back rfl
    exact ((noPair_append_cons ..).mp h).2.1
  · intro h
    induction s with
    | nil => trivial
    | cons c s ih =>
      cases s with
      | nil => trivial
      | cons d s =>
        refine ⟨h [] c d s rfl, ih fun front x y back e => h (c :: front) x y back ?_⟩
        rw [e, List.cons_append]

/-- A place without a pair before it is the leftmost: no pair begins earlier. -/
theorem leftmost_iff {front : List Char} {c : Char} (back : List Char) :
    NoPair test (front ++ [c]) ↔
      ∀ front' x y back', front ++ c :: back = front' ++ x :: y :: back' → test x y = true →
        front.length ≤ front'.length := by
  rw [noPair_iff]
  constructor
  · intro h front' x y back' e ht
    refine Nat.le_of_not_lt fun hlt => ?_
    -- the earlier pair lies within the part that has none
    have hxy : front' ++ [x, y] <+: front ++ c :: back := ⟨back', by rw [e, List.append_assoc]; rfl⟩
    have hc : front ++ [c] <+: front ++ c :: back := ⟨back, by rw [List.append_assoc]; rfl⟩
    obtain ⟨more, hm⟩ := List.prefix_of_prefix_length_le hxy hc (by simp; omega)
    have := h front' x y more (by rw [← hm, List.append_assoc]; rfl)
    exact absurd ht (by simp [this])
  · intro h front' x y more e
    refine Bool.eq_false_iff.mpr fun ht => ?_
    have hl := congrArg List.length e
    have := h front' x y (more ++ back)
      (by rw [← List.singleton_append, ← List.append_assoc, e]; simp) ht
    simp only [List.length_append, List.length_cons, List.length_nil] at hl
    omega

/-- A text without a pair, or the first pair of a text. -/
theorem noPair_or_first (test : Char → Char → Bool) (s : List Char) :
    NoPair test s ∨ ∃ front c d back, s = front ++ c :: d :: back ∧ test c d = true ∧
      NoPair test (front ++ [c]) := by
  induction s with
  | nil => exact .inl trivial
  | cons c s ih =>
    cases s with
    | nil => exact .inl trivial
    | cons d s =>
      by_cases hcd : test c d = true
      · exact .inr ⟨[], c, d, s, rfl, hcd, trivial⟩
      · have hcd : test c d = false := Bool.eq_false_iff.mpr hcd
        rcases ih with hn | ⟨front, x, y, back, e, ht, hn⟩
        · exact .inl ⟨hcd, hn⟩
        · refine .inr ⟨c :: front, x, y, back, by rw [e]; rfl, ht, ?_⟩
          cases front with
          | nil =>
            obtain ⟨rfl, -⟩ := List.cons.inj e
            exact ⟨hcd, trivial⟩
          | cons b front =>
            obtain ⟨rfl, -⟩ := List.cons.inj e
            exact ⟨hcd, hn⟩

end Pair

theorem erases_eq_true_iff {c d : Char} : erases c d = true ↔ c ≠ backspace ∧ d = backspace := by
  simp [erases]

theorem overwrites_eq_true_iff {c d : Char} :
    overwrites c d = true ↔ c = '\r' ∧ endsLine d = false := by
  simp [overwrites]

/-! ## 2. Erasing -/

/-- `t` is `s` without the leftmost pair of a character other than backspace and a backspace. -/
def ErasesLeftmost (s t : List Char) : Prop :=
  ∃ front c back, s = front ++ c :: backspace :: back ∧ c ≠ backspace ∧ t = front ++ back ∧
    ∀ front' c' back', s = front' ++ c' :: backspace :: back' → c' ≠ backspace →
      front.length ≤ front'.length

theorem eraseFirst_eq_none_iff {s : List Char} : eraseFirst s = none ↔ NoPair erases s := by
  fun_induction eraseFirst s with
  | case1 => simp [NoPair]
  | case2 => simp [NoPair]
  | case3 c d rest hc =>
    have : erases c d = true := erases_eq_true_iff.mpr hc
    simp [NoPair, this]
  | case4 c d rest hc ih =>
    have : erases c d = false := Bool.eq_false_iff.mpr fun h => hc (erases_eq_true_iff.mp h)
    simp [NoPair, this, ih]

theorem eraseFirst_append {front : List Char} {c d : Char} (back : List Char)
    (hn : NoPair erases (front ++ [c])) (h : erases c d = true) :
    eraseFirst (front ++ c :: d :: back) = some (front ++ back) := by
  induction front with
  | nil => simp [eraseFirst, erases_eq_true_iff.mp h]
  | cons b front ih =>
    -- the next character, whichever it is, is not a backspace behind `b`
    obtain ⟨x, rest, hx, hne, hn'⟩ : ∃ x rest, front ++ c :: d :: back = x :: rest ∧
        ¬ (b ≠ backspace ∧ x = backspace) ∧ NoPair erases (front ++ [c]) := by
      cases front with
      | nil => exact ⟨c, _, rfl, fun e => absurd (erases_eq_true_iff.mpr e) (by simp [hn.1]), hn.2⟩
      | cons x front =>
        exact ⟨x, _, rfl, fun e => absurd (erases_eq_true_iff.mpr e) (by simp [hn.1]), hn.2⟩
    rw [List.cons_append, hx, eraseFirst, if_neg hne, ← hx, ih hn']
    rfl

/-- **One erasure is the leftmost.** -/
theorem eraseFirst_eq_some_iff {s t : List Char} : eraseFirst s = some t ↔ ErasesLeftmost s t := by
  constructor
  · intro h
    rcases noPair_or_first erases s with hn | ⟨front, c, d, back, rfl, hcd, hn⟩
    · rw [eraseFirst_eq_none_iff.mpr hn] at h
      cases h
    · obtain ⟨hc, rfl⟩ := erases_eq_true_iff.mp hcd
      rw [eraseFirst_append back hn hcd] at h
      refine ⟨front, c, back, rfl, hc, (Option.some.inj h).symm, fun front' c' back' e hc' => ?_⟩
      exact (leftmost_iff _).mp hn front' c' _ back' e (erases_eq_true_iff.mpr ⟨hc', rfl⟩)
  · rintro ⟨front, c, back, rfl, hc, rfl, hmin⟩
    have hleft : NoPair erases (front ++ [c]) :=
      (leftmost_iff (backspace :: back)).mpr fun front' x y back' e ht => by
        obtain ⟨hx, rfl⟩ := erases_eq_true_iff.mp ht
        exact hmin front' x back' e hx
    exact eraseFirst_append back hleft (erases_eq_true_iff.mpr ⟨hc, rfl⟩)

/-! ## 3. Overwriting -/

/-- `t` is `s` without the leftmost line prefix that ends in a carriage return with a character
    other than a line end behind it. The prefix reaches back to the line end before it, or to the
    start of the text. -/
def OverwritesLeftmost (s t : List Char) : Prop :=
  ∃ front line d back, s = front ++ (line ++ '\r' :: d :: back) ∧ endsLine d = false ∧
    LineBehind front ∧ (∀ c ∈ line, endsLine c = false) ∧ t = front ++ d :: back ∧
    ∀ front' d' back', s = front' ++ '\r' :: d' :: back' → endsLine d' = false →
      (front ++ line).length ≤ front'.length

theorem overwriteFrom_eq_none_iff {line s : List Char} :
    overwriteFrom line s = none ↔ NoPair overwrites s := by
  fun_induction overwriteFrom line s with
  | case1 => simp [NoPair]
  | case2 => simp [NoPair]
  | case3 line c d rest hc =>
    have : overwrites c d = true := overwrites_eq_true_iff.mpr hc
    simp [NoPair, this]
  | case4 line c d rest hc hl ih =>
    have : overwrites c d = false := Bool.eq_false_iff.mpr fun h => hc (overwrites_eq_true_iff.mp h)
    simp [NoPair, this, ih]
  | case5 line c d rest hc hl ih =>
    have : overwrites c d = false := Bool.eq_false_iff.mpr fun h => hc (overwrites_eq_true_iff.mp h)
    simp [NoPair, this, ih]

/-- On its own line an overwritten prefix is dropped whole. -/
theorem overwriteFrom_line {line : List Char} {d : Char} (back : List Char)
    (hn : ∀ c ∈ line, endsLine c = false) (hd : endsLine d = false) (passed : List Char) :
    overwriteFrom passed (line ++ '\r' :: d :: back) = some (d :: back) := by
  induction line generalizing passed with
  | nil => simp [overwriteFrom, hd]
  | cons c line ih =>
    have hc : endsLine c = false := hn c List.mem_cons_self
    have hcr : c ≠ '\r' := by
      rintro rfl
      exact absurd hc (by decide)
    obtain ⟨x, rest, hx⟩ : ∃ x rest, line ++ '\r' :: d :: back = x :: rest := by
      cases line <;> exact ⟨_, _, rfl⟩
    rw [List.cons_append, hx, overwriteFrom, if_neg fun e => hcr e.1, if_neg (by simp [hc]), ← hx]
    exact ih (fun b hb => hn b (List.mem_cons_of_mem _ hb)) _

/-- What is in front of the line stays. -/
theorem overwriteFrom_append {front : List Char} {e c : Char} {rest : List Char}
    (he : endsLine e = true) (hn : NoPair overwrites (front ++ [e, c])) (passed : List Char) :
    overwriteFrom passed (front ++ e :: c :: rest) =
      (overwriteFrom [] (c :: rest)).map (passed.reverse ++ (front ++ [e]) ++ ·) := by
  induction front generalizing passed with
  | nil =>
    have hec : ¬ (e = '\r' ∧ endsLine c = false) := fun h =>
      absurd (overwrites_eq_true_iff.mpr h) (by simp [hn.1])
    rw [List.nil_append, overwriteFrom, if_neg hec, if_pos he]
    simp
  | cons b front ih =>
    obtain ⟨x, more, hx, hbx, hn'⟩ : ∃ x more, front ++ e :: c :: rest = x :: more ∧
        ¬ (b = '\r' ∧ endsLine x = false) ∧ NoPair overwrites (front ++ [e, c]) := by
      cases front with
      | nil =>
        exact ⟨e, _, rfl, fun h => absurd (overwrites_eq_true_iff.mpr h) (by simp [hn.1]), hn.2⟩
      | cons x front =>
        exact ⟨x, _, rfl, fun h => absurd (overwrites_eq_true_iff.mpr h) (by simp [hn.1]), hn.2⟩
    rw [List.cons_append, hx, overwriteFrom, if_neg hbx, ← hx]
    split
    · rw [ih hn', Option.map_map]
      congr 1
      funext u
      simp
    · rw [ih hn']
      congr 1
      funext u
      simp

theorem overwriteFirst_append {front line : List Char} {d : Char} (back : List Char)
    (hb : LineBehind front) (hl : ∀ c ∈ line, endsLine c = false) (hd : endsLine d = false)
    (hn : NoPair overwrites (front ++ line ++ ['\r'])) :
    overwriteFirst (front ++ (line ++ '\r' :: d :: back)) = some (front ++ d :: back) := by
  rcases List.eq_nil_or_concat front with rfl | ⟨init, e, rfl⟩
  · exact overwriteFrom_line back hl hd []
  · rw [List.concat_eq_append] at hb hn ⊢
    have he : endsLine e = true := hb e (by simp)
    obtain ⟨c, rest, hc⟩ : ∃ c rest, line ++ '\r' :: d :: back = c :: rest := by
      cases line <;> exact ⟨_, _, rfl⟩
    have hn' : NoPair overwrites (init ++ [e, c]) := by
      refine noPair_of_append (line ++ ['\r']).tail ?_
      have : c :: (line ++ ['\r']).tail = line ++ ['\r'] := by
        cases line with
        | nil => exact congrArg (· :: _) (List.cons.inj hc).1.symm
        | cons b line => exact congrArg (· :: _) (List.cons.inj hc).1.symm
      rw [List.append_assoc, List.cons_append, List.singleton_append, this]
      simpa using hn
    rw [overwriteFirst, List.append_assoc, List.singleton_append, hc,
      overwriteFrom_append he hn' [], ← hc, overwriteFrom_line back hl hd []]
    simp

/-- **One overwrite is the leftmost.** -/
theorem overwriteFirst_eq_some_iff {s t : List Char} :
    overwriteFirst s = some t ↔ OverwritesLeftmost s t := by
  constructor
  · intro h
    rcases noPair_or_first overwrites s with hn | ⟨init, c, d, back, rfl, hcd, hn⟩
    · rw [overwriteFirst, overwriteFrom_eq_none_iff.mpr hn] at h
      cases h
    · obtain ⟨rfl, hd⟩ := overwrites_eq_true_iff.mp hcd
      obtain ⟨front, line, rfl, hb, hl⟩ := exists_line init
      have e : front ++ line ++ '\r' :: d :: back = front ++ (line ++ '\r' :: d :: back) :=
        List.append_assoc ..
      rw [e, overwriteFirst_append back hb hl hd hn] at h
      refine ⟨front, line, d, back, e, hd, hb, hl, (Option.some.inj h).symm, ?_⟩
      intro front' d' back' e' hd'
      exact (leftmost_iff _).mp hn front' _ d' back' e' (overwrites_eq_true_iff.mpr ⟨rfl, hd'⟩)
  · rintro ⟨front, line, d, back, rfl, hd, hb, hl, rfl, hmin⟩
    refine overwriteFirst_append back hb hl hd ((leftmost_iff (d :: back)).mpr ?_)
    intro front' x y back' e ht
    obtain ⟨rfl, hy⟩ := overwrites_eq_true_iff.mp ht
    exact hmin front' y back' (by rw [← List.append_assoc, e]) hy

/-! ## 4. Edits of a screen -/

/-- One round of rewriting, and then the others if it changed the text. -/
theorem settle_eq (s : List Char) :
    settle s =
      let erased := eraseFirst s
      let overwritten := overwriteFirst (erased.getD s)
      if erased.isSome || overwritten.isSome then settle (overwritten.getD (erased.getD s))
      else s := by
  rw [settle]
  split
  · next erased h =>
    simp only [h, Option.getD_some, Option.isSome_some, Bool.true_or, if_true]
    split
    · next both h' => simp [h']
    · next h' => simp [h']
  · next h =>
    simp only [h, Option.getD_none, Option.isSome_none, Bool.false_or]
    split
    · next both h' => simp [h']
    · next h' => simp [h']

namespace Editor

/-- **An erasure of the screen is one of its text.** -/
theorem text_erase (e : Editor) :
    e.erase.1 = (eraseFirst e.text).isSome ∧ e.erase.2.text = (eraseFirst e.text).getD e.text := by
  obtain ⟨s, eraseAt, overwriteAt, slots, hs, hce, hco⟩ := e
  rcases erase_cases hs hce with
    ⟨last, h, _, hn⟩ | ⟨front, x, y, back, seam, t, rfl, h, hcut, hxy, hn⟩
  · have : eraseFirst s.toChars = none := by
      rw [toChars_of_linked hs]
      exact eraseFirst_eq_none_iff.mpr hn
    simp [erase, text, h, this]
  · have : eraseFirst s.toChars = some t.toChars := by
      rw [toChars_of_linked hs, toChars_of_linked hcut.new, hcut.char_eq]
      rw [List.map_append] at hn
      simpa using eraseFirst_append (back.map s.char) hn hxy
    simp [erase, text, h, this]

/-- **An overwrite of the screen is one of its text.** -/
theorem text_overwrite (e : Editor) :
    e.overwrite.1 = (overwriteFirst e.text).isSome ∧
      e.overwrite.2.text = (overwriteFirst e.text).getD e.text := by
  obtain ⟨s, eraseAt, overwriteAt, slots, hs, hce, hco⟩ := e
  rcases overwrite_cases hs hco with
    ⟨last, h, _, hn⟩ | ⟨front, line, x, y, back, seam, t, rfl, h, hcut, hb, hl, hxy, hn⟩
  · have : overwriteFirst s.toChars = none := by
      rw [toChars_of_linked hs]
      exact overwriteFrom_eq_none_iff.mpr hn
    simp [overwrite, text, h, this]
  · have : overwriteFirst s.toChars = some t.toChars := by
      rw [toChars_of_linked hs, toChars_of_linked hcut.new, hcut.char_eq]
      obtain ⟨hx, hy⟩ := overwrites_eq_true_iff.mp hxy
      simp only [List.map_append, List.map_cons, List.map_nil, hx] at hn ⊢
      have hl' : ∀ c ∈ line.map s.char, endsLine c = false := by simpa using hl
      simpa using overwriteFirst_append (back.map s.char) hb hl' hy hn
    simp [overwrite, text, h, this]

/-- **Rounds on the screen are rounds on its text.** -/
theorem text_run (e : Editor) : e.run.text = settle e.text := by
  fun_induction run e with
  | case1 e erased e₁ h₁ overwritten e₂ h₂ hgo ih =>
    obtain ⟨he, ht⟩ := e.text_erase
    obtain ⟨he', ht'⟩ := e₁.text_overwrite
    simp only [h₁] at he ht
    simp only [h₂] at he' ht'
    rw [ih, settle_eq e.text]
    simp only [← ht, ← he, ← he', ← ht', hgo, if_true]
  | case2 e erased e₁ h₁ overwritten e₂ h₂ hstop =>
    obtain ⟨he, ht⟩ := e.text_erase
    obtain ⟨he', ht'⟩ := e₁.text_overwrite
    simp only [h₁] at he ht
    simp only [h₂] at he' ht'
    rw [settle_eq e.text]
    simp only [← ht, ← he, ← he', if_neg hstop]
    -- nothing was found, so neither edit has changed the text
    obtain ⟨rfl, rfl⟩ : erased = false ∧ overwritten = false := by simpa using hstop
    have hn : eraseFirst e.text = none := by simpa using he.symm
    have hn' : overwriteFirst e₁.text = none := by simpa using he'.symm
    rw [ht', hn', Option.getD_none, ht, hn, Option.getD_none]

end Editor

/-! ## 5. Texts -/

theorem text_ofChars (text : List Char) : (Editor.ofChars text).text = text := toChars_ofChars text

theorem eraseOnceChars_eq (text : List Char) :
    eraseOnceChars text = (eraseFirst text).getD text := by
  obtain ⟨h, ht⟩ := (Editor.ofChars text).text_erase
  rw [text_ofChars] at h ht
  rw [eraseOnceChars]
  split
  · next e he => rw [← ht, he]
  · next he =>
    have hn : eraseFirst text = none := by simpa [he] using h.symm
    rw [hn, Option.getD_none]

theorem overwriteOnceChars_eq (text : List Char) :
    overwriteOnceChars text = (overwriteFirst text).getD text := by
  obtain ⟨h, ht⟩ := (Editor.ofChars text).text_overwrite
  rw [text_ofChars] at h ht
  rw [overwriteOnceChars]
  split
  · next e he => rw [← ht, he]
  · next he =>
    have hn : overwriteFirst text = none := by simpa [he] using h.symm
    rw [hn, Option.getD_none]

/-- Without a backspace nothing is erased. -/
theorem eraseFirst_of_notMem {s : List Char} (h : backspace ∉ s) : eraseFirst s = none := by
  refine eraseFirst_eq_none_iff.mpr (noPair_iff.mpr fun front c d back hs => ?_)
  have hd : d ≠ backspace := by
    intro hd
    exact h (by simp [hs, hd])
  simp [erases, hd]

/-- Without a carriage return nothing is written over. -/
theorem overwriteFirst_of_notMem {s : List Char} (h : '\r' ∉ s) : overwriteFirst s = none := by
  refine overwriteFrom_eq_none_iff.mpr (noPair_iff.mpr fun front c d back hs => ?_)
  have hc : c ≠ '\r' := by
    intro hc
    exact h (by simp [hs, hc])
  simp [overwrites, hc]

theorem settle_of_stable {s : List Char} (he : eraseFirst s = none) (ho : overwriteFirst s = none) :
    settle s = s := by
  rw [settle_eq]
  simp [he, ho]

/-- Without backspaces and carriage returns there is nothing to clean. -/
theorem settle_of_plain {text : List Char}
    (h : (text.any fun c => c == backspace || c == '\r') = false) : settle text = text := by
  have hc : ∀ c ∈ text, c ≠ backspace ∧ c ≠ '\r' := by simpa using h
  have hback : backspace ∉ text := fun hmem => (hc _ hmem).1 rfl
  have hreturn : '\r' ∉ text := fun hmem => (hc _ hmem).2 rfl
  exact settle_of_stable (eraseFirst_of_notMem hback) (overwriteFirst_of_notMem hreturn)

theorem normalizeChars_eq_settle (text : List Char) : normalizeChars text = settle text := by
  rw [normalizeChars]
  split
  · rw [Editor.text_run, text_ofChars]
  · next h => exact (settle_of_plain (Bool.eq_false_iff.mpr h)).symm

theorem toList_normalize (text : String) : (normalize text).toList = settle text.toList := by
  rw [normalize, String.toList_ofList, normalizeChars_eq_settle]

/-- **Cleaning a text in place is rewriting it** until neither edit applies, and a single edit in
    place is a single rewrite, that of the leftmost place. -/
theorem normalize_eq_settle (text : String) :
    normalize text = String.ofList (settle text.toList) ∧
    eraseOnce text = String.ofList ((eraseFirst text.toList).getD text.toList) ∧
    overwriteOnce text = String.ofList ((overwriteFirst text.toList).getD text.toList) ∧
    (∀ t, eraseFirst text.toList = some t ↔ ErasesLeftmost text.toList t) ∧
    ∀ t, overwriteFirst text.toList = some t ↔ OverwritesLeftmost text.toList t := by
  refine ⟨?_, ?_, ?_, fun _ => eraseFirst_eq_some_iff, fun _ => overwriteFirst_eq_some_iff⟩
  · rw [normalize, normalizeChars_eq_settle]
  · rw [eraseOnce, eraseOnceChars_eq]
  · rw [overwriteOnce, overwriteOnceChars_eq]

example : normalize "a\x08\r\x08" = "\x08" := by decide +kernel

end DeviceCli.Screen
