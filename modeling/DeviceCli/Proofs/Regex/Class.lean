import DeviceCli.Proofs.Regex.Lexer

/-!
# What classes are read from

A class within which there is none is read from a bracket to the first bracket that can close it,
and that is also as far as the scan for a capture takes it to reach.

* `PinGuard.pass`: where the scan stands behind a text with no parenthesis that counts;
* `SetSyntax.isPlain`: a class within which there is none;
* `lexBracket_eq_ok`: **what a plain class is read from.**
-/

namespace DeviceCli.Pattern

open DeviceCli.Regex

/-! ## 1. The scan -/

/-- Where the scan stands behind a text, if no parenthesis in it counts. -/
def PinGuard.pass : PinGuard → List Char → Option PinGuard
  | g, [] => some g
  | g, c :: rest => if g = .free ∧ (c = '(' ∨ c = ')') then none else (g.step c).pass rest

theorem PinGuard.pass_append (g : PinGuard) (s s' : List Char) :
    g.pass (s ++ s') = (g.pass s).bind (·.pass s') := by
  induction s generalizing g with
  | nil => rfl
  | cons c s ih =>
    rw [List.cons_append, pass, pass]
    split
    · rfl
    · exact ih _

/-- Only in front of everything a parenthesis counts. -/
theorem PinGuard.pass_cons {g : PinGuard} (h : g ≠ .free) (c : Char) (s : List Char) :
    g.pass (c :: s) = (g.step c).pass s := if_neg fun hfree => h hfree.1

theorem PinGuard.step_inClass {c : Char} (hslash : c ≠ '\\') (hclose : c ≠ ']') :
    inClass.step c = inClass := (if_neg hslash).trans (if_neg hclose)

theorem ne_of_isInert {c d : Char} (hc : isInert c = true) (hd : isInert d = false) : c ≠ d := by
  rintro rfl
  rw [hc] at hd
  cases hd

theorem PinGuard.pass_inClass {s : List Char} (h : Inert s) : inClass.pass s = some inClass := by
  induction s with
  | nil => rfl
  | cons c s ih =>
    obtain ⟨hc, hs⟩ := inert_cons.mp h
    rw [pass_cons (by decide), step_inClass (ne_of_isInert hc rfl) (ne_of_isInert hc rfl), ih hs]

/-- Outside classes only a bracket that opens one, a parenthesis and a backslash count. -/
theorem PinGuard.pass_free_of_ne {s : List Char}
    (h : ∀ c ∈ s, c ≠ '\\' ∧ c ≠ '[' ∧ c ≠ '(' ∧ c ≠ ')') : free.pass s = some free := by
  induction s with
  | nil => rfl
  | cons c s ih =>
    obtain ⟨⟨hslash, hclass, hopen, hclose⟩, hs⟩ := List.forall_mem_cons.mp h
    have hstep : free.step c = free := (if_neg hslash).trans (if_neg hclass)
    rw [pass, if_neg fun hc => hc.2.elim hopen hclose, hstep, ih hs]

theorem PinGuard.pass_free {s : List Char} (h : Inert s) : free.pass s = some free :=
  pass_free_of_ne fun c hc => ⟨ne_of_isInert (h c hc) rfl, ne_of_isInert (h c hc) rfl,
    ne_of_isInert (h c hc) rfl, ne_of_isInert (h c hc) rfl⟩

end DeviceCli.Pattern

namespace DeviceCli.Regex

open DeviceCli.Text DeviceCli.Pattern

/-! ## 2. Members -/

/-- A text in a class that neither ends it nor begins with what would. -/
def MemberText (s : List Char) : Prop :=
  s ≠ [] ∧ (s.head? ≠ some ']' → PinGuard.inClass.pass s = some .inClass)

theorem reads_lexMember : Reads (lexMember false) fun _ => MemberText := by
  intro s e rest h
  unfold lexMember at h
  split at h
  · cases h
  · obtain ⟨taken, rfl, ⟨c, more, rfl, hinert⟩, hagain⟩ := reads_lexEscape _ _ _ h
    refine ⟨'\\' :: c :: more, rfl, ⟨List.cons_ne_nil _ _, fun _ => ?_⟩, hagain⟩
    rw [PinGuard.pass_cons (by decide), PinGuard.pass_cons (by decide)]
    exact PinGuard.pass_inClass hinert
  · next c more hslash =>
    cases h
    refine ⟨[c], rfl, ⟨List.cons_ne_nil _ _, fun hclose => ?_⟩, fun rest' _ => ?_⟩
    · rw [PinGuard.pass_cons (by decide),
        PinGuard.step_inClass hslash fun hc => hclose (congrArg some hc)]
      rfl
    · rw [List.singleton_append, lexMember]
      · rfl
      · exact hslash

theorem MemberText.append {s s' : List Char} (h : MemberText s)
    (h' : PinGuard.inClass.pass s' = some .inClass) : MemberText (s ++ s') := by
  obtain ⟨c, r, rfl⟩ := List.exists_cons_of_ne_nil h.1
  refine ⟨List.cons_ne_nil _ _, fun hclose => ?_⟩
  rw [PinGuard.pass_append, h.2 hclose]
  exact h'

/-- What is ahead behind a hyphen, in a text that agrees. -/
theorem peekBehind_of_agree {s s' : List Char} (h : Agree s s') :
    peekBehind false s' = peekBehind false s := h.head?_eq

theorem reads_lexRange : Reads (lexRange false) fun _ => MemberText := by
  intro s e rest h
  obtain ⟨⟨first, behind⟩, hfirst, hbody⟩ := Except.bind_eq_ok_iff.mp h
  obtain ⟨taken, rfl, htaken, hagain⟩ := reads_lexMember _ _ _ hfirst
  simp only [skip_false] at hbody
  split at hbody
  · cases hbody
  · next more =>
    split at hbody
    · next hahead =>
      -- A hyphen that ends the class or begins an operator is none of a range.
      obtain ⟨item, hitem, hpair⟩ := Except.bind_eq_ok_iff.mp hbody
      cases hpair
      refine ⟨taken, rfl, htaken, fun rest' hrest' => ?_⟩
      obtain ⟨more', rfl, hmore'⟩ := hrest'.of_cons rfl
      refine Except.bind_eq_ok_iff.mpr ⟨_, hagain _ hrest', ?_⟩
      simp only [skip_false, peekBehind_of_agree hmore', if_pos hahead]
      exact Except.bind_eq_ok_iff.mpr ⟨_, hitem, rfl⟩
    · next hahead =>
      obtain ⟨⟨last, after⟩, hlast, hpair⟩ := Except.bind_eq_ok_iff.mp hbody
      obtain ⟨taken', rfl, htaken', hagain'⟩ := reads_lexMember _ _ _ hlast
      dsimp only at hpair
      split at hpair
      case h_2 => cases hpair
      next a b ha hb =>
      split at hpair
      case isFalse => cases hpair
      next hle =>
      cases hpair
      have hclose : taken'.head? ≠ some ']' := by
        obtain ⟨c, r, rfl⟩ := List.exists_cons_of_ne_nil htaken'.1
        intro hc
        refine hahead ?_
        rw [show peekBehind false (c :: r ++ rest) = some ']' from hc]
        rfl
      have hsecond : PinGuard.inClass.pass ('-' :: taken') = some .inClass :=
        htaken'.2 hclose
      refine ⟨taken ++ '-' :: taken', by simp, htaken.append hsecond, fun rest' hrest' => ?_⟩
      rw [List.append_assoc]
      refine Except.bind_eq_ok_iff.mpr ⟨_, hagain _ (hrest'.append ('-' :: taken')), ?_⟩
      simp only [skip_false, List.cons_append, peekBehind_of_agree (hrest'.append taken'),
        if_neg hahead]
      refine Except.bind_eq_ok_iff.mpr ⟨_, hagain' _ hrest', ?_⟩
      simp only [ha, hb, if_pos hle]
      rfl
  · next hnil hhyphen =>
    obtain ⟨item, hitem, hpair⟩ := Except.bind_eq_ok_iff.mp hbody
    cases hpair
    refine ⟨taken, rfl, htaken, fun rest' hrest' => ?_⟩
    refine Except.bind_eq_ok_iff.mpr ⟨_, hagain _ hrest', ?_⟩
    obtain ⟨c, r, r', rfl, rfl, -⟩ := hrest'.cases
    simp only [skip_false]
    split
    · next heq => cases heq
    · next heq =>
      cases heq
      exact (hhyphen _ rfl).elim
    · exact Except.bind_eq_ok_iff.mpr ⟨_, hitem, rfl⟩

/-! ## 3. The front of a class -/

theorem push_ne_empty (a : SetSyntax) {b : SetSyntax} (hb : b ≠ .empty) : a.push b ≠ .empty := by
  unfold SetSyntax.push
  split
  · exact hb
  · exact nofun

theorem leadingHyphens_eq {fuel : Nat} {members members' : SetSyntax} {s rest : List Char}
    (hfuel : s.length ≤ fuel) (h : leadingHyphens false fuel members s = (members', rest)) :
    ∃ hyphens, s = hyphens ++ rest ∧ Inert hyphens ∧ hyphens.head? ≠ some '^' ∧
      (if hyphens = [] then members' = members else members' ≠ .empty) ∧
      ∀ fuel' rest', hyphens.length ≤ fuel' → rest'.head? = rest.head? →
        leadingHyphens false fuel' members (hyphens ++ rest') = (members', rest') := by
  induction fuel generalizing members s with
  | zero =>
    obtain rfl := List.length_eq_zero_iff.mp (Nat.le_zero.mp hfuel)
    cases h
    refine ⟨[], rfl, nofun, nofun, rfl, fun fuel' rest' _ hrest' => ?_⟩
    obtain rfl := List.head?_eq_none_iff.mp hrest'
    cases fuel' <;> rfl
  | succ fuel ih =>
    unfold leadingHyphens at h
    split at h
    · next _ _ _ more heq =>
      cases heq
      rw [skip_false] at h
      obtain ⟨hyphens, rfl, hinert, -, hmembers, hagain⟩ := ih (Nat.le_of_succ_le_succ hfuel) h
      refine ⟨'-' :: hyphens, rfl, inert_cons.mpr ⟨rfl, hinert⟩, nofun, ?_,
        fun fuel' rest' hfuel' hrest' => ?_⟩
      · rw [if_neg (List.cons_ne_nil _ _)]
        split at hmembers
        · rw [hmembers]
          exact push_ne_empty _ nofun
        · exact hmembers
      · cases fuel' with
        | zero => cases hfuel'
        | succ fuel' => exact hagain fuel' rest' (Nat.le_of_succ_le_succ hfuel') hrest'
    · next hother =>
      cases h
      refine ⟨[], rfl, nofun, nofun, rfl, fun fuel' rest' _ hrest' => ?_⟩
      cases fuel' with
      | zero => rfl
      | succ fuel' =>
        unfold leadingHyphens
        split
        · next heq =>
          rw [List.nil_append] at heq
          rw [heq] at hrest'
          obtain ⟨r, rfl⟩ := List.head?_eq_some_iff.mp hrest'.symm
          exact (hother fuel r rfl rfl).elim
        · rfl

/-- At the front of a class the scan goes on as in it, but for what only the front can have. -/
theorem pass_front {g : PinGuard} {c : Char} (hg : g = .classCaret ∨ g = .classFront ∧ c ≠ '^')
    (hc : c ≠ ']') (u : List Char) : g.pass (c :: u) = PinGuard.inClass.pass (c :: u) := by
  rcases hg with rfl | ⟨rfl, hcaret⟩
  · rw [PinGuard.pass_cons (by decide), PinGuard.pass_cons (by decide)]
    simp only [PinGuard.step, if_neg hc]
  · rw [PinGuard.pass_cons (by decide), PinGuard.pass_cons (by decide)]
    simp only [PinGuard.step, if_neg hcaret, if_neg hc]

/-- What only the front of a class can have is read to its end, and the scan takes it for members
    too. -/
theorem lexFront_eq_ok {s after : List Char} {members : SetSyntax}
    (h : lexFront false s = .ok (members, after)) :
    ∃ front, s = front ++ after ∧ after ≠ [] ∧
      (∀ g, g = PinGuard.classCaret ∨ g = .classFront ∧ s.head? ≠ some '^' → ∀ u,
        u.head? = after.head? → g.pass (front ++ u) = PinGuard.inClass.pass u) ∧
      ∀ rest', rest'.head? = after.head? → lexFront false (front ++ rest') = .ok (members, rest') := by
  rw [lexFront] at h
  rcases hhyphens : leadingHyphens false s.length .empty s with ⟨members', rest⟩
  rw [hhyphens] at h
  obtain ⟨hyphens, rfl, hinert, hcaret, hmembers, hagain⟩ :=
    leadingHyphens_eq (Nat.le_refl _) hhyphens
  have hlength : ∀ rest', hyphens.length ≤ (hyphens ++ rest').length := fun rest' => by
    rw [List.length_append]
    exact Nat.le_add_right _ _
  have hwithout : members' = .empty → hyphens = [] := fun hempty =>
    Decidable.byContradiction fun hne => by
      rw [if_neg hne] at hmembers
      exact hmembers hempty
  split at h
  · cases h
  · -- A closing bracket at the front is a member.
    next more heq =>
    cases heq
    obtain rfl := hwithout rfl
    split at h
    · cases h
    · next hne =>
      cases h
      refine ⟨[']'], rfl, fun hnil => hne (List.isEmpty_iff.mpr hnil), ?_, fun rest' hrest' => ?_⟩
      · rintro g (rfl | ⟨rfl, -⟩) u - <;> exact PinGuard.pass_cons (by decide) _ _
      · rw [lexFront, List.singleton_append, ← List.nil_append (']' :: rest'),
          hagain _ (']' :: rest') (hlength _) rfl]
        refine if_neg fun hempty => hne (List.isEmpty_iff.mpr (List.head?_eq_none_iff.mp ?_))
        exact hrest'.symm.trans (List.head?_eq_none_iff.mpr (List.isEmpty_iff.mp hempty))
  · next hnil hclose heq =>
    cases h
    cases heq
    refine ⟨hyphens, rfl, hnil, fun g hg u hu => ?_, fun rest' hrest' => ?_⟩
    · cases hyphens with
      | nil =>
        obtain ⟨d, r, rfl⟩ := List.exists_cons_of_ne_nil hnil
        obtain ⟨u, rfl⟩ := List.head?_eq_some_iff.mp hu
        rw [if_pos rfl] at hmembers
        have hd : d ≠ ']' := fun hd => hclose r hmembers (by rw [hd])
        exact pass_front (hg.imp_right fun hg => ⟨hg.1, fun hc => hg.2 (congrArg some hc)⟩) hd u
      | cons c hyphens =>
        have hc : c ≠ ']' := ne_of_isInert (inert_cons.mp hinert).1 rfl
        rw [List.cons_append,
          pass_front (hg.imp_right fun hg => ⟨hg.1, fun hc => hcaret (congrArg some hc)⟩) hc,
          ← List.cons_append, PinGuard.pass_append, PinGuard.pass_inClass hinert]
        rfl
    · rw [lexFront, hagain _ rest' (hlength rest') hrest']
      split
      · next heq =>
        obtain ⟨-, rfl⟩ := Prod.mk.inj heq
        exact absurd (List.head?_eq_none_iff.mp hrest'.symm) hnil
      · next heq =>
        obtain ⟨rfl, rfl⟩ := Prod.mk.inj heq
        obtain ⟨r, rfl⟩ := List.head?_eq_some_iff.mp hrest'.symm
        exact (hclose r rfl rfl).elim
      · next heq =>
        cases heq
        rfl

theorem lexNegation_eq {s rest : List Char} {negated : Bool}
    (h : lexNegation false s = (negated, rest)) :
    (negated = true ∧ s = '^' :: rest) ∨ (negated = false ∧ s = rest ∧ s.head? ≠ some '^') := by
  unfold lexNegation at h
  split at h
  · cases h
    exact .inl ⟨rfl, rfl⟩
  · next hcaret =>
    cases h
    refine .inr ⟨rfl, rfl, fun hhead => ?_⟩
    obtain ⟨r, rfl⟩ := List.head?_eq_some_iff.mp hhead
    exact hcaret r rfl

theorem openClass_eq_ok {s after : List Char} {negated : Bool} {members : SetSyntax}
    (h : openClass false s = .ok (negated, members, after)) :
    ∃ front, s = front ++ after ∧
      (∀ u, u.head? = after.head? →
        PinGuard.classFront.pass (front ++ u) = PinGuard.inClass.pass u) ∧
      ∀ rest', rest'.head? = after.head? →
        openClass false (front ++ rest') = .ok (negated, members, rest') := by
  rcases hnegation : lexNegation false s with ⟨negated', behind⟩
  have hopen : ∀ {s' behind'}, lexNegation false s' = (negated', behind') →
      openClass false s' = (lexFront false behind').bind fun r =>
        .ok (negated', r.1, r.2) := by
    intro s' behind' heq
    rw [openClass, skip_false, heq]
    rfl
  rw [hopen hnegation] at h
  obtain ⟨⟨members', after'⟩, hfront, hpair⟩ := Except.bind_eq_ok_iff.mp h
  cases hpair
  obtain ⟨front, rfl, hafter, hpass, hagain⟩ := lexFront_eq_ok hfront
  rcases lexNegation_eq hnegation with ⟨rfl, rfl⟩ | ⟨rfl, rfl, hcaret⟩
  · refine ⟨'^' :: front, rfl, fun u hu => ?_, fun rest' hrest' => ?_⟩
    · rw [List.cons_append, PinGuard.pass_cons (by decide)]
      exact hpass _ (.inl rfl) u hu
    · have hcaret : lexNegation false ('^' :: (front ++ rest')) = (true, front ++ rest') := rfl
      rw [List.cons_append, hopen hcaret, hagain rest' hrest']
      rfl
  · refine ⟨front, rfl, fun u hu => hpass _ (.inr ⟨rfl, hcaret⟩) u hu, fun rest' hrest' => ?_⟩
    have hsame : lexNegation false (front ++ rest') = (false, front ++ rest') := by
      unfold lexNegation
      split
      · next heq =>
        refine absurd ?_ hcaret
        rw [← head?_append_congr hrest' front, heq]
        rfl
      · rfl
    rw [hopen hsame, hagain rest' hrest']
    rfl

/-! ## 4. Classes without classes -/

/-- Members among which there is no class. -/
def SetSyntax.isFlat : SetSyntax → Bool
  | .ascii _ _ => false
  | .bracket _ _ => false
  | .union a b => a.isFlat && b.isFlat
  | .binary _ a b => a.isFlat && b.isFlat
  | _ => true

/-- A class within which there is none. -/
def SetSyntax.isPlain : SetSyntax → Bool
  | .bracket _ inner => inner.isFlat
  | s => s.isFlat

theorem isFlat_push (a b : SetSyntax) : (a.push b).isFlat = (a.isFlat && b.isFlat) := by
  unfold SetSyntax.push
  split
  · exact (Bool.true_and _).symm
  · rfl

/-- What is open in a class that is not within one: its bracket, and perhaps an operator behind
    members among which there is no class. -/
def Single : List ClassFrame → Prop
  | [.bracket _ _] => True
  | [.operator _ left, .bracket _ _] => left.isFlat = true
  | _ => False

theorem single_of_closeOperator {members whole before : SetSyntax} {negated : Bool}
    {frames : List ClassFrame}
    (h : closeOperator members frames = (whole, [.bracket before negated]))
    (hwhole : whole.isFlat = true) : members.isFlat = true ∧ Single frames := by
  unfold closeOperator at h
  split at h
  · cases h
    obtain ⟨hleft, hmembers⟩ := Bool.and_eq_true_iff.mp hwhole
    exact ⟨hmembers, hleft⟩
  · cases h
    exact ⟨hwhole, trivial⟩

/-- If a class is plain in the end, there is no class in it so far. -/
theorem flat_of_lexClass {fuel : Nat} {frames : List ClassFrame} {members set : SetSyntax}
    {s rest : List Char} (hframes : frames ≠ []) (hset : set.isPlain = true)
    (h : lexClass false fuel frames members s = .ok (set, rest)) :
    members.isFlat = true ∧ Single frames := by
  have hpush : ∀ {a b : SetSyntax}, (a.push b).isFlat = true → a.isFlat = true := fun hab => by
    rw [isFlat_push, Bool.and_eq_true] at hab
    exact hab.1
  have hoperator : ∀ {op : SetOp} {members left : SetSyntax} {frames outer : List ClassFrame},
      closeOperator members frames = (left, outer) → Single (.operator op left :: outer) →
      members.isFlat = true ∧ Single frames := by
    intro op members left frames outer hclosed hsingle
    match outer, hsingle with
    | [.bracket before negated], hleft => exact single_of_closeOperator hclosed hleft
  induction fuel generalizing frames members s with
  | zero => cases h
  | succ fuel ih =>
    rw [lexClass, skip_false] at h
    split at h
    · cases h
    · split at h
      · obtain ⟨hmembers, hsingle⟩ := ih hframes h
        exact ⟨hpush hmembers, hsingle⟩
      · obtain ⟨⟨negated, inner, after⟩, -, h⟩ := Except.bind_eq_ok_iff.mp h
        obtain ⟨-, hsingle⟩ := ih (List.cons_ne_nil _ _) h
        match frames, hframes, hsingle with
        | [], hframes, _ => exact absurd rfl hframes
    · split at h
      · next whole before negated outer hclosed =>
        split at h
        · next houter =>
          cases h
          rw [List.isEmpty_iff.mp houter] at hclosed
          exact single_of_closeOperator hclosed hset
        · next houter =>
          obtain ⟨hmembers, -⟩ := ih (fun hnil => houter (List.isEmpty_iff.mpr hnil)) h
          rw [isFlat_push] at hmembers
          exact absurd (Bool.and_eq_true_iff.mp hmembers).2 Bool.false_ne_true
      · cases h
    · exact hoperator rfl (ih (List.cons_ne_nil _ _) h).2
    · exact hoperator rfl (ih (List.cons_ne_nil _ _) h).2
    · exact hoperator rfl (ih (List.cons_ne_nil _ _) h).2
    · obtain ⟨⟨item, after⟩, -, h⟩ := Except.bind_eq_ok_iff.mp h
      obtain ⟨hmembers, hsingle⟩ := ih hframes h
      exact ⟨hpush hmembers, hsingle⟩

theorem isFlat_of_lexAscii? {s after : List Char} {item : SetSyntax}
    (h : lexAscii? s = some (item, after)) : item.isFlat = false := by
  unfold lexAscii? at h
  split at h
  · dsimp only at h
    split at h
    · obtain ⟨members, -, heq⟩ := Option.map_eq_some_iff.mp h
      cases heq
      rfl
    · cases h
  · cases h

/-- A text in a class that begins with a member: with no bracket, and with no operator. -/
def AtMember (s : List Char) : Prop :=
  s ≠ [] ∧ ∀ c r, s = c :: r →
    c ≠ '[' ∧ c ≠ ']' ∧ (c = '&' ∨ c = '-' ∨ c = '~' → r.head? ≠ some c)

theorem Agree.atMember {s s' : List Char} (h : Agree s s') (hs : AtMember s) : AtMember s' := by
  obtain ⟨c, r, r', rfl, rfl, hbehind⟩ := h.cases
  obtain ⟨hopen, hclose, htwice⟩ := hs.2 c r rfl
  refine ⟨List.cons_ne_nil _ _, ?_⟩
  rintro d r'' ⟨⟩
  refine ⟨hopen, hclose, fun hc => ?_⟩
  -- What may be an operator is inert, so that the texts agree on a second character, too.
  have hinert : isInert c = true := by rcases hc with rfl | rfl | rfl <;> rfl
  exact (hbehind hinert).head?_eq ▸ htwice hc

/-- In front of a member a class goes on with it. -/
theorem lexClass_of_atMember {s : List Char} (h : AtMember s) (fuel : Nat)
    (frames : List ClassFrame) (members : SetSyntax) :
    lexClass false (fuel + 1) frames members s = (lexRange false s).bind fun r =>
      lexClass false fuel frames (members.push r.1) r.2 := by
  rw [lexClass, skip_false]
  split
  case h_1 => exact absurd rfl h.1
  case h_2 => exact absurd rfl (h.2 _ _ rfl).1
  case h_3 => exact absurd rfl (h.2 _ _ rfl).2.1
  case h_4 => exact absurd rfl ((h.2 _ _ rfl).2.2 (.inl rfl))
  case h_5 => exact absurd rfl ((h.2 _ _ rfl).2.2 (.inr (.inl rfl)))
  case h_6 => exact absurd rfl ((h.2 _ _ rfl).2.2 (.inr (.inr rfl)))
  case h_7 => rfl

/-- The rest of a plain class is read to the bracket that closes it, whatever is behind. -/
theorem lexClass_eq_ok {fuel : Nat} {frames : List ClassFrame} {members set : SetSyntax}
    {s rest : List Char} (hframes : frames ≠ []) (hset : set.isPlain = true)
    (h : lexClass false fuel frames members s = .ok (set, rest)) :
    ∃ inside, s = inside ++ ']' :: rest ∧ PinGuard.inClass.pass inside = some .inClass ∧
      ∀ fuel' rest', inside.length < fuel' →
        lexClass false fuel' frames members (inside ++ ']' :: rest') = .ok (set, rest') := by
  induction fuel generalizing frames members s with
  | zero => cases h
  | succ fuel ih =>
    rw [lexClass, skip_false] at h
    split at h
    · cases h
    · -- There is no class in a plain one.
      split at h
      · next hascii =>
        have hflat := (flat_of_lexClass hframes hset h).1
        rw [isFlat_push, isFlat_of_lexAscii? hascii, Bool.and_false] at hflat
        cases hflat
      · obtain ⟨⟨negated, inner, after⟩, -, h⟩ := Except.bind_eq_ok_iff.mp h
        have hsingle := (flat_of_lexClass (List.cons_ne_nil _ _) hset h).2
        match frames, hframes, hsingle with
        | [], hframes, _ => exact absurd rfl hframes
    · split at h
      · next whole before negated outer hclosed =>
        split at h
        · next houter =>
          cases h
          refine ⟨[], rfl, rfl, fun fuel' rest' hfuel => ?_⟩
          obtain ⟨fuel', rfl⟩ := Nat.exists_eq_add_of_lt hfuel
          rw [lexClass]
          simp only [skip_false, List.nil_append, hclosed, if_pos houter]
          rfl
        · next houter =>
          have hflat :=
            (flat_of_lexClass (fun hnil => houter (List.isEmpty_iff.mpr hnil)) hset h).1
          rw [isFlat_push] at hflat
          exact absurd (Bool.and_eq_true_iff.mp hflat).2 Bool.false_ne_true
      · cases h
    case h_4 | h_5 | h_6 =>
      obtain ⟨inside, rfl, hpass, hagain⟩ := ih (List.cons_ne_nil _ _) h
      refine ⟨_ :: _ :: inside, rfl, hpass, fun fuel' rest' hfuel => ?_⟩
      cases fuel' with
      | zero => cases hfuel
      | succ fuel' =>
        exact hagain fuel' rest' (Nat.lt_of_succ_lt (Nat.lt_of_succ_lt_succ hfuel))
    · next hnil hopen hclose hand hminus htilde =>
      obtain ⟨⟨item, after⟩, hitem, hmore⟩ := Except.bind_eq_ok_iff.mp h
      obtain ⟨taken, rfl, htaken, hagain⟩ := reads_lexRange _ _ _ hitem
      obtain ⟨inside, rfl, hpass, hagain'⟩ := ih hframes hmore
      have hmember : AtMember (taken ++ (inside ++ ']' :: rest)) := by
        refine ⟨hnil, fun c r heq => ⟨?_, ?_, ?_⟩⟩
        · rintro rfl
          exact hopen r heq
        · rintro rfl
          exact hclose r heq
        · intro hc hhead
          obtain ⟨r', rfl⟩ := List.head?_eq_some_iff.mp hhead
          rcases hc with rfl | rfl | rfl
          · exact hand r' heq
          · exact hminus r' heq
          · exact htilde r' heq
      have hhead : taken.head? ≠ some ']' := by
        intro hc
        obtain ⟨r, rfl⟩ := List.head?_eq_some_iff.mp hc
        exact (hmember.2 _ _ rfl).2.1 rfl
      refine ⟨taken ++ inside, (List.append_assoc _ _ _).symm, ?_, fun fuel' rest' hfuel => ?_⟩
      · rw [PinGuard.pass_append, htaken.2 hhead]
        exact hpass
      · have hagree : Agree (inside ++ ']' :: rest) (inside ++ ']' :: rest') :=
          ⟨inside, ']', rest, rest', rfl, rfl, rfl⟩
        cases fuel' with
        | zero => cases hfuel
        | succ fuel' =>
          rw [List.append_assoc, lexClass_of_atMember ((hagree.append taken).atMember hmember)]
          refine Except.bind_eq_ok_iff.mpr ⟨_, hagain _ hagree, hagain' fuel' rest' ?_⟩
          rw [List.length_append] at hfuel
          have := List.length_pos_iff.mpr htaken.1
          omega

/-- **A plain class** is read from its bracket to the one that closes it, whatever is behind, and
    that is what the scan takes for a class. -/
theorem lexBracket_eq_ok {s rest : List Char} {set : SetSyntax} (hset : set.isPlain = true)
    (h : lexBracket false s = .ok (set, rest)) :
    ∃ taken, s = taken ++ rest ∧ PinGuard.classFront.pass taken = some .free ∧
      ∀ rest', lexBracket false (taken ++ rest') = .ok (set, rest') := by
  obtain ⟨⟨negated, inner, after⟩, hopen, hclass⟩ := Except.bind_eq_ok_iff.mp h
  obtain ⟨front, rfl, hpass, hagain⟩ := openClass_eq_ok hopen
  obtain ⟨inside, rfl, hinside, hagain'⟩ := lexClass_eq_ok (List.cons_ne_nil _ _) hset hclass
  have hhead : ∀ u, (inside ++ ']' :: u).head? = (inside ++ ']' :: rest).head? := fun u =>
    head?_append_congr (a := ']' :: u) (b := ']' :: rest) rfl inside
  refine ⟨front ++ (inside ++ [']']), by simp, ?_, fun rest' => ?_⟩
  · rw [hpass _ (hhead []), PinGuard.pass_append, hinside]
    rfl
  · rw [List.append_assoc, List.append_assoc, List.singleton_append]
    refine Except.bind_eq_ok_iff.mpr ⟨_, hagain _ (hhead rest'), hagain' _ rest' ?_⟩
    rw [List.length_append]
    omega

end DeviceCli.Regex
