import DeviceCli.Pattern
import DeviceCli.Proofs.Except
import DeviceCli.Proofs.Regex.Names

/-!
# What tokens are read from

Each token of a pattern is read from the front of a text, and little of what is behind it matters:
nothing behind a bracket or a parenthesis does (`Agree`).

* `Reads`: what a reader takes from a text, and that it would take the same if what is behind
  agreed;
* `reads_lexEscape` and `lexCount_eq_ok`: escapes and counts.
-/

namespace DeviceCli.Regex

open DeviceCli.Text

/-! ## 1. Reading -/

/-- Two texts agree up to a bracket, a parenthesis or a backslash. -/
def Agree (s s' : List Char) : Prop :=
  ∃ v c r r', isInert c = false ∧ s = v ++ c :: r ∧ s' = v ++ c :: r'

theorem Agree.append {s s' : List Char} (h : Agree s s') (u : List Char) :
    Agree (u ++ s) (u ++ s') := by
  obtain ⟨v, c, r, r', hc, rfl, rfl⟩ := h
  exact ⟨u ++ v, c, r, r', hc, (List.append_assoc _ _ _).symm, (List.append_assoc _ _ _).symm⟩

/-- Texts that agree begin with one character, and agree behind it if it is inert. -/
theorem Agree.cases {s s' : List Char} (h : Agree s s') :
    ∃ c r r', s = c :: r ∧ s' = c :: r' ∧ (isInert c = true → Agree r r') := by
  obtain ⟨v, c, r, r', hc, rfl, rfl⟩ := h
  cases v with
  | nil => exact ⟨c, r, r', rfl, rfl, fun hinert => by rw [hc] at hinert; cases hinert⟩
  | cons d v => exact ⟨d, v ++ c :: r, v ++ c :: r', rfl, rfl, fun _ => ⟨v, c, r, r', hc, rfl, rfl⟩⟩

/-- Texts of which the first begins with an inert character agree behind it. -/
theorem Agree.of_cons {c : Char} {r s' : List Char} (h : Agree (c :: r) s')
    (hc : isInert c = true) : ∃ r', s' = c :: r' ∧ Agree r r' := by
  obtain ⟨d, r₁, r', heq, rfl, hbehind⟩ := h.cases
  obtain ⟨rfl, rfl⟩ := List.cons.inj heq
  exact ⟨r', rfl, hbehind hc⟩

theorem Agree.head?_eq {s s' : List Char} (h : Agree s s') : s'.head? = s.head? := by
  obtain ⟨c, r, r', rfl, rfl, -⟩ := h.cases
  rfl

theorem head?_append_congr {a b : List Char} (h : a.head? = b.head?) (u : List Char) :
    (u ++ a).head? = (u ++ b).head? := by
  rw [List.head?_append, List.head?_append, h]

/-- **A reader that takes the front of a text**: it takes what `P` says of its result, and would take
    the same in front of a text that agrees with what is behind. -/
def Reads {α : Type} (read : List Char → Except Problem (α × List Char))
    (P : α → List Char → Prop) : Prop :=
  ∀ s a rest, read s = .ok (a, rest) → ∃ taken, s = taken ++ rest ∧ P a taken ∧
    ∀ rest', Agree rest rest' → read (taken ++ rest') = .ok (a, rest')

@[simp] theorem skip_false (s : List Char) : skip false s = s := rfl

/-! ## 2. Runs -/

/-- A run of characters ends in front of any text that begins as what is behind it. -/
theorem span_of_head? (p : Char → Bool) (s : List Char) {rest' : List Char}
    (h : rest'.head? = (s.dropWhile p).head?) :
    (s.takeWhile p ++ rest').takeWhile p = s.takeWhile p ∧
      (s.takeWhile p ++ rest').dropWhile p = rest' := by
  have hall : ∀ c ∈ s.takeWhile p, p c = true := fun c hc =>
    List.all_eq_true.mp List.all_takeWhile c hc
  rw [List.takeWhile_append_of_pos hall, List.dropWhile_append_of_pos hall]
  cases rest' with
  | nil => simp
  | cons c r' =>
    have hc : p c = false := by
      have hnot := List.head?_dropWhile_not p s
      rw [← h] at hnot
      simpa using hnot
    simp [hc]

theorem inert_takeWhile {p : Char → Bool} (hp : ∀ c, p c = true → isInert c = true)
    (s : List Char) : Inert (s.takeWhile p) := fun c hc =>
  hp c (List.all_eq_true.mp List.all_takeWhile c hc)

theorem digitRun_eq {fuel : Nat} {s : List Char} (h : s.length ≤ fuel) :
    digitRun false fuel s = (s.takeWhile isDigit, s.dropWhile isDigit) := by
  induction fuel generalizing s with
  | zero =>
    obtain rfl := List.length_eq_zero_iff.mp (Nat.le_zero.mp h)
    rfl
  | succ fuel ih =>
    cases s with
    | nil => rfl
    | cons c rest =>
      rw [digitRun, skip_false, ih (Nat.le_of_succ_le_succ h)]
      by_cases hc : isDigit c = true
      · simp [hc]
      · simp [hc]

theorem boundaryName_eq {fuel : Nat} {s : List Char} (h : s.length ≤ fuel) :
    boundaryName false fuel s = (s.takeWhile isBoundaryChar, s.dropWhile isBoundaryChar) := by
  induction fuel generalizing s with
  | zero =>
    obtain rfl := List.length_eq_zero_iff.mp (Nat.le_zero.mp h)
    rfl
  | succ fuel ih =>
    cases s with
    | nil => rfl
    | cons c rest =>
      rw [boundaryName, skip_false, ih (Nat.le_of_succ_le_succ h)]
      by_cases hc : isBoundaryChar c = true
      · simp [hc]
      · simp [hc]

theorem isInert_of_isDigit {c : Char} (h : isDigit c = true) : isInert c = true :=
  isInert_of_test h rfl

theorem isInert_of_isBlank {c : Char} (h : isBlank c = true) : isInert c = true :=
  isInert_of_test h rfl

theorem isInert_of_hexDigit? {c : Char} (h : (hexDigit? c).isSome = true) : isInert c = true :=
  @isInert_of_test (fun c => (hexDigit? c).isSome) c h rfl

/-! ## 3. Counts -/

/-- A count is a run of blanks, one of digits and one of blanks. -/
theorem lexDecimal_eq (s : List Char) :
    lexDecimal false s =
      let digits := (s.dropWhile isBlank).takeWhile isDigit
      let rest := ((s.dropWhile isBlank).dropWhile isDigit).dropWhile isBlank
      (if digits.isEmpty || decimalNat digits > maxCount then .error .invalidCount
        else .ok (decimalNat digits), rest) := by
  have hfuel : (s.dropWhile isBlank).length ≤ s.length := (List.dropWhile_sublist _).length_le
  rw [lexDecimal, digitRun_eq hfuel]
  simp only [Bool.false_eq_true, if_false]
  split <;> rfl

theorem reads_lexDecimal {s rest : List Char} {n : Except Problem Nat}
    (h : lexDecimal false s = (n, rest)) : ∃ taken, s = taken ++ rest ∧ Inert taken ∧
      ∀ rest', rest'.head? = rest.head? → lexDecimal false (taken ++ rest') = (n, rest') := by
  rw [lexDecimal_eq] at h
  obtain ⟨rfl, rfl⟩ := Prod.mk.inj h
  refine ⟨s.takeWhile isBlank ++ ((s.dropWhile isBlank).takeWhile isDigit ++
    ((s.dropWhile isBlank).dropWhile isDigit).takeWhile isBlank), ?_, ?_, fun rest' hrest' => ?_⟩
  · simp only [List.append_assoc, List.takeWhile_append_dropWhile]
  · exact inert_append.mpr ⟨inert_takeWhile (fun c => isInert_of_isBlank) _,
      inert_append.mpr ⟨inert_takeWhile (fun c => isInert_of_isDigit) _,
        inert_takeWhile (fun c => isInert_of_isBlank) _⟩⟩
  · -- Each run ends where it did, since what follows it begins as it did.
    have hlast := span_of_head? isBlank ((s.dropWhile isBlank).dropWhile isDigit) hrest'
    have hdigits := span_of_head? isDigit (s.dropWhile isBlank)
      ((head?_append_congr hrest' _).trans (congrArg List.head? List.takeWhile_append_dropWhile))
    have hblanks := span_of_head? isBlank s
      ((head?_append_congr ((head?_append_congr hrest' _).trans
        (congrArg List.head? List.takeWhile_append_dropWhile)) _).trans
          (congrArg List.head? List.takeWhile_append_dropWhile))
    rw [lexDecimal_eq]
    simp only [List.append_assoc]
    rw [hblanks.2, hdigits.1, hdigits.2, hlast.2]

theorem lexBounds_eq_ok {s after : List Char} {count : Count}
    (h : lexBounds false s = .ok (count, '\x7d' :: after)) :
    ∃ inside, s = inside ++ '\x7d' :: after ∧ Inert inside ∧
      ∀ after', lexBounds false (inside ++ '\x7d' :: after') = .ok (count, '\x7d' :: after') := by
  rcases hleast : lexDecimal false s with ⟨least, rest⟩
  cases hempty : s.isEmpty with
  | true =>
    rw [lexBounds, skip_false, if_pos hempty] at h
    cases h
  | false =>
  simp only [lexBounds, skip_false, hempty, hleast, Bool.false_eq_true, if_false] at h
  obtain ⟨first, rfl, hfirst, hagain⟩ := reads_lexDecimal hleast
  split at h
  · split at h
    · cases h
    · -- The first bound and a comma.
      obtain ⟨n, rfl, hpair⟩ := Except.bind_eq_ok_iff.mp h
      cases hpair
      refine ⟨first ++ [','], by simp, inert_append.mpr ⟨hfirst, by decide⟩, fun after' => ?_⟩
      have hread := hagain (',' :: '\x7d' :: after') rfl
      rw [List.append_assoc, lexBounds]
      simp only [skip_false, List.singleton_append, hread]
      exact if_neg (by simp)
    · -- Both bounds.
      next more _ hnone hnot =>
      obtain ⟨n, rfl, hsecond⟩ := Except.bind_eq_ok_iff.mp h
      obtain ⟨m, hm, hpair⟩ := Except.bind_eq_ok_iff.mp hsecond
      rcases hmost : lexDecimal false more with ⟨most, rest⟩
      rw [hmost] at hm hpair
      cases hm
      cases hpair
      obtain ⟨second, rfl, hinert, hagain'⟩ := reads_lexDecimal hmost
      refine ⟨first ++ ',' :: second, by simp, ?_, fun after' => ?_⟩
      · exact inert_append.mpr ⟨hfirst, inert_cons.mpr ⟨rfl, hinert⟩⟩
      · have hread := hagain (',' :: (second ++ '\x7d' :: after')) rfl
        have hread' := hagain' ('\x7d' :: after') rfl
        rw [List.append_assoc, List.cons_append, lexBounds]
        simp only [skip_false, hread]
        split
        · next heq => simp at heq
        · split
          · next heq => simp at heq
          · next heq =>
            cases second with
            | nil => exact (hnot _ rfl).elim
            | cons c second =>
              cases heq
              exact (hnot _ rfl).elim
          · rw [hread']
            rfl
  · -- One number.
    obtain ⟨n, rfl, hpair⟩ := Except.bind_eq_ok_iff.mp h
    cases hpair
    refine ⟨first, rfl, hfirst, fun after' => ?_⟩
    have hread := hagain ('\x7d' :: after') rfl
    rw [lexBounds]
    simp only [skip_false, hread]
    exact if_neg (by simp)

/-- What a counted repetition is read from ends with its brace. -/
theorem lexCount_eq_ok {s after : List Char} {count : Count}
    (h : lexCount false s = .ok (count, after)) :
    ∃ inside, s = inside ++ '\x7d' :: after ∧ Inert inside ∧
      ∀ after', lexCount false (inside ++ '\x7d' :: after') = .ok (count, after') := by
  obtain ⟨⟨⟨least, most⟩, rest⟩, hbounds, hclose⟩ := Except.bind_eq_ok_iff.mp h
  have hshape : ∃ after₀, rest = '\x7d' :: after₀ := by
    split at hclose
    · next heq => exact ⟨_, (Prod.mk.inj heq).2⟩
    · next heq => exact ⟨_, (Prod.mk.inj heq).2⟩
    · cases hclose
  obtain ⟨after₀, rfl⟩ := hshape
  obtain ⟨inside, rfl, hinert, hagain⟩ := lexBounds_eq_ok hbounds
  -- The check of the bounds is the same whatever is behind the brace.
  cases most with
  | none =>
    cases hclose
    exact ⟨inside, rfl, hinert, fun after' => Except.bind_eq_ok_iff.mpr ⟨_, hagain after', rfl⟩⟩
  | some most =>
    have hchecked : (if least ≤ most then .ok (⟨least, some most⟩, after₀)
        else .error Problem.invalidCount) = Except.ok (count, after) := hclose
    split at hchecked
    · next hle =>
      cases hchecked
      refine ⟨inside, rfl, hinert, fun after' => Except.bind_eq_ok_iff.mpr ⟨_, hagain after', ?_⟩⟩
      exact if_pos hle
    · cases hchecked

/-! ## 4. Escapes -/

theorem length_lt_append (a b : List Char) : a.length < (a ++ b).length + 1 := by
  rw [List.length_append]
  omega

theorem untilBrace_eq_ok {fuel : Nat} {s text rest : List Char}
    (h : untilBrace false fuel s = .ok (text, rest)) : s = text ++ '\x7d' :: rest ∧
      ∀ fuel' rest', text.length < fuel' →
        untilBrace false fuel' (text ++ '\x7d' :: rest') = .ok (text, rest') := by
  induction fuel generalizing s text with
  | zero => cases h
  | succ fuel ih =>
    rw [untilBrace, skip_false] at h
    split at h
    · cases h
    · cases h
      refine ⟨rfl, fun fuel' rest' hfuel => ?_⟩
      obtain ⟨fuel', rfl⟩ := Nat.exists_eq_add_of_lt hfuel
      rfl
    · next c more hc =>
      obtain ⟨⟨text, rest⟩, hmore, hpair⟩ := Except.bind_eq_ok_iff.mp h
      cases hpair
      obtain ⟨rfl, hagain⟩ := ih hmore
      refine ⟨rfl, fun fuel' rest' hfuel => ?_⟩
      cases fuel' with
      | zero => cases hfuel
      | succ fuel' =>
        rw [List.cons_append, untilBrace, skip_false]
        split
        · next heq => cases heq
        · next heq =>
          cases heq
          exact (hc rfl).elim
        · next heq =>
          cases heq
          rw [hagain fuel' rest' (Nat.lt_of_succ_lt_succ hfuel)]
          rfl

theorem hexDigits_eq_ok {n : Nat} {s digits rest : List Char}
    (h : hexDigits false n s = .ok (digits, rest)) :
    s = digits ++ rest ∧ (∀ c ∈ digits, (hexDigit? c).isSome = true) ∧
      ∀ rest', hexDigits false n (digits ++ rest') = .ok (digits, rest') := by
  induction n generalizing s digits with
  | zero =>
    cases h
    exact ⟨rfl, nofun, fun rest' => rfl⟩
  | succ n ih =>
    cases s with
    | nil => cases h
    | cons c more =>
      rw [hexDigits, skip_false] at h
      cases hc : hexDigit? c with
      | none =>
        rw [hc] at h
        cases h
      | some d =>
        rw [hc] at h
        obtain ⟨⟨digits, rest⟩, hmore, hpair⟩ := Except.bind_eq_ok_iff.mp h
        cases hpair
        obtain ⟨rfl, hdigits, hagain⟩ := ih hmore
        refine ⟨rfl, List.forall_mem_cons.mpr ⟨by rw [hc]; rfl, hdigits⟩, fun rest' => ?_⟩
        rw [List.cons_append, hexDigits, skip_false, hc, hagain rest']
        rfl

theorem ne_nil_of_hexChar {digits : List Char} {e : Escape} (h : hexChar digits = .ok e) :
    digits ≠ [] := by
  rintro rfl
  cases h

theorem inert_of_hexDigits {digits : List Char}
    (h : ∀ c ∈ digits, (hexDigit? c).isSome = true) : Inert digits := fun c hc =>
  isInert_of_hexDigit? (h c hc)

/-- A number in hexadecimal digits is read to its end, whatever is behind it. -/
theorem reads_lexHex (width : Nat) : Reads (lexHex false width) fun _ taken => Inert taken := by
  intro s e rest h
  rw [lexHex, skip_false] at h
  split at h
  · cases h
  · next more =>
    obtain ⟨⟨digits, after⟩, hdigits, hbody⟩ := Except.bind_eq_ok_iff.mp h
    obtain ⟨rfl, hagain⟩ := untilBrace_eq_ok hdigits
    dsimp only at hbody
    cases hany : digits.any fun c => (hexDigit? c).isNone with
    | true =>
      rw [hany] at hbody
      cases hbody
    | false =>
      rw [hany] at hbody
      obtain ⟨_, hchar, hpair⟩ := Except.bind_eq_ok_iff.mp hbody
      cases hpair
      have hhex : ∀ c ∈ digits, (hexDigit? c).isSome = true := fun c hc => by
        exact Option.isSome_iff_ne_none.mpr (by simpa using List.any_eq_false.mp hany c hc)
      refine ⟨'\x7b' :: (digits ++ ['\x7d']), by simp, ?_, fun rest' _ => ?_⟩
      · exact inert_cons.mpr ⟨rfl, inert_append.mpr ⟨inert_of_hexDigits hhex, by decide⟩⟩
      · rw [List.cons_append, List.append_assoc, lexHex]
        refine Except.bind_eq_ok_iff.mpr ⟨_, hagain _ rest' (length_lt_append _ _), ?_⟩
        dsimp only
        rw [hany]
        exact Except.bind_eq_ok_iff.mpr ⟨_, hchar, rfl⟩
  · next hnil hbrace =>
    obtain ⟨⟨digits, after⟩, hdigits, hbody⟩ := Except.bind_eq_ok_iff.mp h
    obtain ⟨rfl, hhex, hagain⟩ := hexDigits_eq_ok hdigits
    obtain ⟨e', hchar, hpair⟩ := Except.bind_eq_ok_iff.mp hbody
    have hrest : after = rest := by
      split at hpair <;> cases hpair <;> rfl
    subst hrest
    refine ⟨digits, rfl, inert_of_hexDigits hhex, fun rest' _ => ?_⟩
    rw [lexHex, skip_false]
    split
    · next heq => exact absurd (List.append_eq_nil_iff.mp heq).1 (ne_nil_of_hexChar hchar)
    · next heq =>
      obtain ⟨d, digits, rfl⟩ := List.exists_cons_of_ne_nil (ne_nil_of_hexChar hchar)
      cases heq
      exact absurd (hhex _ List.mem_cons_self) (by decide)
    · refine Except.bind_eq_ok_iff.mpr ⟨_, hagain rest', Except.bind_eq_ok_iff.mpr ⟨_, hchar, ?_⟩⟩
      split at hpair
      · cases hpair
        rfl
      · cases hpair
        rfl

/-- A text is cut in two around what it is cut at. -/
theorem eq_of_cutAt {pat s a b : List Char} (h : cutAt pat s = some (a, b)) :
    s = a ++ pat ++ b := by
  induction s generalizing a with
  | nil => cases h
  | cons c rest ih =>
    rw [cutAt] at h
    split at h
    · next hprefix =>
      cases h
      obtain ⟨behind, heq⟩ := List.isPrefixOf_iff_prefix.mp hprefix
      rw [← heq, List.nil_append, List.drop_left]
    · obtain ⟨⟨a, b⟩, hcut, heq⟩ := Option.map_eq_some_iff.mp h
      cases heq
      rw [ih hcut, List.cons_append, List.cons_append]

theorem inert_of_propertyClass {text : List Char} {c : Bool × CodeSet}
    (h : propertyClass text = some c) : Inert text := by
  have hvalue : ∀ {pat name value : List Char} {outside : Bool}, Inert pat →
      cutAt pat text = some (name, value) →
      (propertyValue? name value).map ((outside, ·)) = some c → Inert text := by
    intro pat name value outside hpat hcut hmap
    obtain ⟨members, hmembers, -⟩ := Option.map_eq_some_iff.mp hmap
    obtain ⟨hname, hvalue⟩ := inert_of_propertyValue? hmembers
    rw [eq_of_cutAt hcut]
    exact inert_append.mpr ⟨inert_append.mpr ⟨hname, hpat⟩, hvalue⟩
  rw [propertyClass] at h
  split at h
  · next hcut => exact hvalue (by decide) hcut h
  · split at h
    · next hcut => exact hvalue (by decide) hcut h
    · split at h
      · next hcut => exact hvalue (by decide) hcut h
      · obtain ⟨members, hmembers, -⟩ := Option.map_eq_some_iff.mp h
        exact inert_of_property? hmembers

/-- The name of a property is read to its end, whatever is behind it. -/
theorem reads_lexProperty (negated : Bool) :
    Reads (lexProperty false negated) fun _ taken => Inert taken := by
  intro s e rest h
  rw [lexProperty, skip_false] at h
  split at h
  · cases h
  · cases h
  · next more =>
    obtain ⟨⟨text, after⟩, htext, hbody⟩ := Except.bind_eq_ok_iff.mp h
    obtain ⟨rfl, hagain⟩ := untilBrace_eq_ok htext
    cases hclass : propertyClass text with
    | none =>
      simp only [hclass] at hbody
      cases hbody
    | some c =>
      simp only [hclass] at hbody
      cases hbody
      refine ⟨'\x7b' :: (text ++ ['\x7d']), by simp, ?_, fun rest' _ => ?_⟩
      · exact inert_cons.mpr
          ⟨rfl, inert_append.mpr ⟨inert_of_propertyClass hclass, by decide⟩⟩
      · rw [List.cons_append, List.append_assoc, lexProperty]
        refine Except.bind_eq_ok_iff.mpr ⟨_, hagain _ rest' (length_lt_append _ _), ?_⟩
        simp only [hclass]
        rfl
  · next c more hslash hbrace =>
    cases hmembers : property? [c] with
    | none =>
      rw [hmembers] at h
      cases h
    | some members =>
      rw [hmembers] at h
      cases h
      refine ⟨[c], rfl, inert_of_property? hmembers, fun rest' _ => ?_⟩
      rw [List.singleton_append, lexProperty, skip_false]
      split
      · next heq => cases heq
      · next heq =>
        cases heq
        exact (hslash rfl).elim
      · next heq =>
        cases heq
        exact (hbrace rfl).elim
      · next heq =>
        cases heq
        rw [hmembers]
        rfl

theorem isInert_of_isBoundaryChar {c : Char} (h : isBoundaryChar c = true) :
    isInert c = true := by
  rcases Bool.or_eq_true_iff.mp h with h | h
  · exact isInert_of_isLatinLetter h
  · rw [eq_of_beq h]
    rfl

/-- Behind the letter of a boundary, what is read depends on at most two characters more. -/
theorem reads_lexBoundary : Reads (lexBoundary false) fun _ taken => Inert taken := by
  intro s e rest h
  -- Without a name nothing is taken.
  have hnone : ∀ {s rest : List Char} {e : Escape},
      (∀ s', Agree s s' → lexBoundary false s' = .ok (.anchor .boundary, s')) →
      pure (.anchor .boundary, s) = Except.ok (ε := Problem) (e, rest) →
      ∃ taken, s = taken ++ rest ∧ Inert taken ∧
        ∀ rest', Agree rest rest' → lexBoundary false (taken ++ rest') = .ok (e, rest') := by
    intro s rest e hagain h
    cases h
    exact ⟨[], rfl, nofun, hagain⟩
  unfold lexBoundary at h
  split at h
  · next inside =>
    simp only [skip_false] at h
    split at h
    · cases h
    · next c behind =>
      split at h
      · next hc =>
        refine hnone (fun s' hs' => ?_) h
        obtain ⟨r', rfl, hr'⟩ := hs'.of_cons rfl
        obtain ⟨d, _, r'', heq, rfl, -⟩ := hr'.cases
        cases heq
        rw [lexBoundary]
        exact if_pos hc
      · next hc =>
        rw [boundaryName_eq (Nat.le_refl _)] at h
        dsimp only at h
        split at h
        · next after anchor hafter hanchor =>
          cases h
          have hname := List.takeWhile_append_dropWhile (p := isBoundaryChar) (l := c :: behind)
          rw [hafter] at hname
          refine ⟨'\x7b' :: ((c :: behind).takeWhile isBoundaryChar ++ ['\x7d']), ?_, ?_,
            fun rest' _ => ?_⟩
          · simpa using hname.symm
          · exact inert_cons.mpr ⟨rfl, inert_append.mpr
              ⟨inert_takeWhile (fun c => isInert_of_isBoundaryChar) _, by decide⟩⟩
          · have hhead : ('\x7d' :: rest').head? =
                ((c :: behind).dropWhile isBoundaryChar).head? := by
              rw [hafter]
              rfl
            obtain ⟨htake, hdrop⟩ := span_of_head? isBoundaryChar (c :: behind) hhead
            have hcons : (c :: behind).takeWhile isBoundaryChar =
                c :: behind.takeWhile isBoundaryChar :=
              List.takeWhile_cons_of_pos (by simpa using hc)
            rw [List.cons_append, List.append_assoc, List.singleton_append, lexBoundary]
            simp only [skip_false, boundaryName_eq (Nat.le_refl _), htake, hdrop, hanchor]
            rw [hcons]
            exact if_neg hc
        · cases h
  · next hbrace =>
    refine hnone (fun s' hs' => ?_) h
    unfold lexBoundary
    split
    · next inside =>
      obtain ⟨c, r, r', rfl, heq, -⟩ := hs'.cases
      cases heq
      exact (hbrace r rfl).elim
    · rfl

/-- What is read of an escape is any one character and inert ones behind it. -/
theorem reads_lexEscape :
    Reads (lexEscape false) fun _ taken => ∃ c more, taken = c :: more ∧ Inert more := by
  intro s e rest h
  cases s with
  | nil => cases h
  | cons c s =>
    -- What stands for itself or for something else takes nothing more.
    have hshort : ∀ {e' : Escape}, (∀ rest', lexEscape false (c :: rest') = .ok (e', rest')) →
        pure (e', s) = Except.ok (ε := Problem) (e, rest) →
        ∃ taken, c :: s = taken ++ rest ∧ (∃ d more, taken = d :: more ∧ Inert more) ∧
          ∀ rest', Agree rest rest' → lexEscape false (taken ++ rest') = .ok (e, rest') := by
      intro e' hagain h
      cases h
      exact ⟨[c], rfl, ⟨c, [], rfl, nofun⟩, fun rest' _ => hagain rest'⟩
    have hlong : ∀ {read : List Char → Except Problem (Escape × List Char)},
        Reads read (fun _ taken => Inert taken) → (∀ s, lexEscape false (c :: s) = read s) →
        ∃ taken, c :: s = taken ++ rest ∧ (∃ d more, taken = d :: more ∧ Inert more) ∧
          ∀ rest', Agree rest rest' → lexEscape false (taken ++ rest') = .ok (e, rest') := by
      intro read hreads hread
      obtain ⟨taken, rfl, hinert, hagain⟩ := hreads _ _ _ ((hread _).symm.trans h)
      exact ⟨c :: taken, rfl, ⟨c, taken, rfl, hinert⟩, fun rest' hrest' =>
        (hread _).trans (hagain rest' hrest')⟩
    have hresult := h
    unfold lexEscape at hresult
    dsimp only at hresult
    split at hresult
    · cases hresult
    · next hdigit =>
      split at hresult
      · next hescapable =>
        refine hshort (fun rest' => ?_) hresult
        unfold lexEscape
        dsimp only
        rw [if_neg hdigit, if_pos hescapable]
        rfl
      · split at hresult
        case h_1 => exact hlong (reads_lexHex 2) fun _ => rfl
        case h_2 => exact hlong (reads_lexHex 4) fun _ => rfl
        case h_3 => exact hlong (reads_lexHex 8) fun _ => rfl
        case h_4 => exact hlong (reads_lexProperty false) fun _ => rfl
        case h_5 => exact hlong (reads_lexProperty true) fun _ => rfl
        case h_20 => exact hlong reads_lexBoundary fun _ => rfl
        all_goals first | exact hshort (fun _ => rfl) hresult | cases hresult

end DeviceCli.Regex
