import Mathlib.Data.List.Forall2
import DeviceCli.Proofs.Except
import DeviceCli.Regex.Resolve

/-!
# Expressions alike

Two expressions are alike if they differ in the numbers of captures only, and in that a capture of
the first may be one of a literal text in the second (`Expr.Like`). What is alike is as good: it is
put together from the same tokens, no deeper by more than one, and resolved wherever the first is.

* `like_assemble`: **the same tokens make alike of what is alike**;
* `Expr.Like.nesting_le`: the depth of what is alike;
* `Expr.Like.resolve`: **what is alike can be resolved**, with line ends or without.
-/

namespace DeviceCli.Regex

open DeviceCli.Text

/-! ## 1. Likeness -/

/-- The characters of a text in a row. -/
def literalExpr (text : List Char) : Expr := seqOf (text.map Expr.char).reverse

/-- Whether an expression has no parts. -/
def Expr.isAtom : Expr → Bool
  | .repeats _ _ _ => false
  | .capture _ _ => false
  | .group _ _ => false
  | .seq _ _ => false
  | .alt _ _ => false
  | _ => true

/-- An expression like another, but for numbers of captures and what literal texts stand for. -/
inductive Expr.Like : Expr → Expr → Prop
  | atom {e : Expr} : e.isAtom = true → Like e e
  | literal {i j : Nat} {body : Expr} (text : List Char) :
      Like (.capture i body) (.capture j (literalExpr text))
  | capture {i j : Nat} {a a' : Expr} : Like a a' → Like (.capture i a) (.capture j a')
  | repeats {count : Count} {greedy : Bool} {a a' : Expr} : Like a a' →
      Like (.repeats count greedy a) (.repeats count greedy a')
  | group {flags : List FlagItem} {a a' : Expr} : Like a a' → Like (.group flags a) (.group flags a')
  | seq {a a' b b' : Expr} : Like a a' → Like b b' → Like (.seq a b) (.seq a' b')
  | alt {a a' b b' : Expr} : Like a a' → Like b b' → Like (.alt a b) (.alt a' b')

theorem Expr.Like.refl (e : Expr) : e.Like e := by
  induction e with
  | repeats count greedy body ih => exact .repeats ih
  | capture index body ih => exact .capture ih
  | group flags body ih => exact .group ih
  | seq a b ha hb => exact .seq ha hb
  | alt a b ha hb => exact .alt ha hb
  | empty | flags | char | byte | dot | anchor | set => exact .atom rfl

theorem Expr.Like.isRepeatable {e e' : Expr} (h : e.Like e') :
    e'.isRepeatable = e.isRepeatable := by
  cases h <;> rfl

theorem like_seqOnto {tail tail' : Expr} {items items' : List Expr} (htail : tail.Like tail')
    (hitems : List.Forall₂ Expr.Like items items') :
    (seqOnto tail items).Like (seqOnto tail' items') := by
  induction hitems generalizing tail tail' with
  | nil => exact htail
  | cons he _ ih => exact ih (.seq he htail)

theorem like_seqOf {items items' : List Expr} (h : List.Forall₂ Expr.Like items items') :
    (seqOf items).Like (seqOf items') := by
  cases h with
  | nil => exact .refl _
  | cons he hitems => exact like_seqOnto he hitems

theorem like_altOnto {tail tail' : Expr} {branches branches' : List Expr}
    (htail : tail.Like tail') (h : List.Forall₂ Expr.Like branches branches') :
    (altOnto tail branches).Like (altOnto tail' branches') := by
  induction h generalizing tail tail' with
  | nil => exact htail
  | cons he _ ih => exact ih (.alt he htail)

/-! ## 2. Putting together -/

/-- An open group like another: it closes around what is alike to what is alike. -/
structure OpenGroup.Like (g g' : OpenGroup) : Prop where
  close : ∀ {body body' : Expr}, body.Like body' → (g.head.close body).Like (g'.head.close body')
  branches : List.Forall₂ Expr.Like g.branches g'.branches
  items : List.Forall₂ Expr.Like g.items g'.items

theorem forall₂_like_refl (l : List Expr) : List.Forall₂ Expr.Like l l :=
  List.forall₂_same.mpr fun e _ => .refl e

theorem OpenGroup.Like.refl (g : OpenGroup) : g.Like g where
  close h := by
    cases hhead : g.head with
    | capture index => exact .capture h
    | plain flags => exact .group h
  branches := forall₂_like_refl _
  items := forall₂_like_refl _

theorem forall₂_groups_refl (l : List OpenGroup) : List.Forall₂ OpenGroup.Like l l :=
  List.forall₂_same.mpr fun g _ => .refl g

/-- **The same tokens make alike of what is alike.** -/
theorem like_assemble {tokens : List Token} {n n' : Nat} {outer outer' : List OpenGroup}
    {branches branches' items items' : List Expr} {e : Expr}
    (houter : List.Forall₂ OpenGroup.Like outer outer')
    (hbranches : List.Forall₂ Expr.Like branches branches')
    (hitems : List.Forall₂ Expr.Like items items')
    (h : assemble tokens n outer branches items = .ok e) :
    ∃ e', assemble tokens n' outer' branches' items' = .ok e' ∧ e.Like e' := by
  induction tokens generalizing n n' outer outer' branches branches' items items' with
  | nil =>
    cases houter with
    | nil =>
      cases h
      exact ⟨_, rfl, like_altOnto (like_seqOf hitems) hbranches⟩
    | cons => cases h
  | cons token rest ih =>
    have hitem : ∀ item : Expr, assemble rest n outer branches (item :: items) = .ok e →
        ∃ e', assemble rest n' outer' branches' (item :: items') = .ok e' ∧ e.Like e' :=
      fun item => ih houter hbranches (hitems.cons (.refl item))
    cases token with
    | close =>
      cases houter with
      | nil => cases h
      | cons hg houter =>
        exact ih houter hg.branches
          (hg.items.cons (hg.close (like_altOnto (like_seqOf hitems) hbranches))) h
    | openGroup kind =>
      cases kind with
      | capture name =>
        have hg : OpenGroup.Like ⟨.capture n, branches, items⟩ ⟨.capture n', branches', items'⟩ :=
          ⟨fun h => .capture h, hbranches, hitems⟩
        exact ih (houter.cons hg) .nil .nil h
      | plain flags =>
        have hg : OpenGroup.Like ⟨.plain flags, branches, items⟩ ⟨.plain flags, branches', items'⟩ :=
          ⟨fun h => .group h, hbranches, hitems⟩
        exact ih (houter.cons hg) .nil .nil h
    | bar => exact ih houter (hbranches.cons (like_seqOf hitems)) .nil h
    | repeats count greedy =>
      cases hitems with
      | nil => cases h
      | cons he hbefore =>
        rw [assemble] at h ⊢
        rw [he.isRepeatable]
        split at h
        · next hrepeatable =>
          rw [if_pos hrepeatable]
          exact ih houter hbranches (hbefore.cons (.repeats he)) h
        · cases h
    | flags f => exact hitem (.flags f) h
    | char c => exact hitem (.char c) h
    | byte c => exact hitem (.byte c) h
    | dot => exact hitem .dot h
    | anchor a => exact hitem (.anchor a) h
    | set s => exact hitem (.set s) h

/-- The characters of a text are put together one by one. -/
theorem assemble_literal (text : List Char) (tokens : List Token) (n : Nat)
    (outer : List OpenGroup) (branches items : List Expr) :
    assemble (text.map Token.char ++ tokens) n outer branches items =
      assemble tokens n outer branches ((text.map Expr.char).reverse ++ items) := by
  induction text generalizing items with
  | nil => rfl
  | cons c text ih =>
    rw [List.map_cons, List.cons_append, assemble, ih, List.map_cons, List.reverse_cons,
      List.append_assoc]
    rfl

/-- How a token changes the groups that are open: the head of a group opens one, its end closes the
    innermost, and all others leave them as they are. -/
def Token.Moves : Token → List OpenGroup → List OpenGroup → Prop
  | .openGroup _, outer, outer' => ∃ g, outer' = g :: outer
  | .close, outer, outer' => ∃ g, outer = g :: outer'
  | _, outer, outer' => outer' = outer

/-- What one token does, whatever follows it. -/
theorem assemble_next {t : Token} {tokens : List Token} {n : Nat} {outer : List OpenGroup}
    {branches items : List Expr} {e : Expr}
    (h : assemble (t :: tokens) n outer branches items = .ok e) :
    ∃ n' outer' branches' items', (∀ more, assemble (t :: more) n outer branches items =
        assemble more n' outer' branches' items') ∧ t.Moves outer outer' := by
  cases t with
  | close =>
    cases outer with
    | nil => cases h
    | cons g outer => exact ⟨_, _, _, _, fun _ => rfl, g, rfl⟩
  | openGroup kind =>
    cases kind with
    | capture name => exact ⟨_, _, _, _, fun _ => rfl, _, rfl⟩
    | plain flags => exact ⟨_, _, _, _, fun _ => rfl, _, rfl⟩
  | repeats count greedy =>
    cases items with
    | nil => cases h
    | cons e before =>
      rw [assemble] at h
      split at h
      · next hrepeatable => exact ⟨_, _, _, _, fun _ => if_pos hrepeatable, rfl⟩
      · cases h
  | char | byte | dot | anchor | set | flags | bar => exact ⟨_, _, _, _, fun _ => rfl, rfl⟩

/-! ## 3. Depth -/

theorem nesting_seqOnto {tail : Expr} {items : List Expr}
    (hitems : ∀ e ∈ items, e.nesting .none = 0)
    (htail : tail.nesting .none ≤ 1 ∧ tail.nesting .seq = 0) :
    (seqOnto tail items).nesting .none ≤ 1 := by
  induction items generalizing tail with
  | nil => exact htail.1
  | cons e before ih =>
    obtain ⟨he, hbefore⟩ := List.forall_mem_cons.mp hitems
    refine ih hbefore ⟨?_, ?_⟩
    · rw [Expr.nesting, he, htail.2, if_neg (by decide)]
      decide
    · rw [Expr.nesting, he, htail.2, if_pos rfl]
      decide

/-- A row of characters is a row of items, or less. -/
theorem nesting_literalExpr (text : List Char) : (literalExpr text).nesting .none ≤ 1 := by
  have hchars : ∀ e ∈ (text.map Expr.char).reverse, ∃ c, e = .char c := fun e he => by
    obtain ⟨c, -, rfl⟩ := List.mem_map.mp (List.mem_reverse.mp he)
    exact ⟨c, rfl⟩
  rw [literalExpr]
  generalize (text.map Expr.char).reverse = items at hchars
  cases items with
  | nil => exact Nat.zero_le _
  | cons e before =>
    obtain ⟨⟨c, rfl⟩, hbefore⟩ := List.forall_mem_cons.mp hchars
    refine nesting_seqOnto (fun e he => ?_) ⟨Nat.zero_le _, rfl⟩
    obtain ⟨d, rfl⟩ := hbefore e he
    rfl

/-- What is alike is deeper by one at the most. -/
theorem Expr.Like.nesting_le {e e' : Expr} (h : e.Like e') (joint : Joint) :
    e'.nesting joint ≤ e.nesting joint + 1 := by
  induction h generalizing joint with
  | atom _ => exact Nat.le_succ _
  | literal text =>
    have := nesting_literalExpr text
    simp only [Expr.nesting]
    omega
  | capture _ ih | repeats _ ih | group _ ih =>
    have := ih .none
    simp only [Expr.nesting]
    omega
  | seq _ _ ha hb =>
    have := ha .none
    have := hb .seq
    simp only [Expr.nesting]
    omega
  | alt _ _ ha hb =>
    have := ha .none
    have := hb .alt
    simp only [Expr.nesting]
    omega

/-! ## 4. Flags applied -/

/-- The flags with line ends as asked for. -/
def Flags.withLines (f : Flags) (lines : Bool) : Flags := { f with multiLine := lines }

theorem resolve_withLines (s : SetSyntax) (f : Flags) (lines : Bool) :
    s.resolve (f.withLines lines) = s.resolve f := by
  induction s with
  | empty | range | short | ascii | property => rfl
  | union a b ha hb => rw [SetSyntax.resolve, SetSyntax.resolve, ha, hb]
  | bracket negated inner ih =>
    rw [SetSyntax.resolve, SetSyntax.resolve, ih]
    rfl
  | binary op a b ha hb =>
    rw [SetSyntax.resolve, SetSyntax.resolve, ha, hb]
    rfl

theorem applyAll_withLines (items : List FlagItem) (f : Flags) (lines : Bool) :
    ∃ lines', (f.withLines lines).applyAll items = (f.applyAll items).withLines lines' := by
  induction items generalizing f lines with
  | nil => exact ⟨lines, rfl⟩
  | cons item items ih =>
    have hone : ∃ lines', (f.withLines lines).apply item = (f.apply item).withLines lines' := by
      unfold Flags.apply
      split
      · exact ⟨lines, rfl⟩
      · exact ⟨item.on, rfl⟩
      all_goals exact ⟨lines, rfl⟩
    obtain ⟨lines', hone⟩ := hone
    rw [Flags.applyAll, List.foldl_cons, hone]
    exact ih _ _

theorem resolveBranches_seqOnto {tail : Expr} {items : List Expr} {f : Flags}
    (hitems : ∀ e ∈ items, ∃ nodes, e.resolveBranches f = .ok (nodes, f))
    (htail : ∃ nodes, tail.resolveBranches f = .ok (nodes, f)) :
    ∃ nodes, (seqOnto tail items).resolveBranches f = .ok (nodes, f) := by
  induction items generalizing tail with
  | nil => exact htail
  | cons e before ih =>
    obtain ⟨⟨first, hfirst⟩, hbefore⟩ := List.forall_mem_cons.mp hitems
    obtain ⟨second, hsecond⟩ := htail
    exact ih hbefore ⟨_, Except.bind_eq_ok_iff.mpr
      ⟨_, hfirst, Except.bind_eq_ok_iff.mpr ⟨_, hsecond, rfl⟩⟩⟩

/-- A row of characters is resolved under any flags, and leaves them as they are. -/
theorem resolveBranches_literalExpr (text : List Char) (f : Flags) :
    ∃ nodes, (literalExpr text).resolveBranches f = .ok (nodes, f) := by
  have hchars : ∀ e ∈ (text.map Expr.char).reverse,
      ∃ nodes, e.resolveBranches f = .ok (nodes, f) := fun e he => by
    obtain ⟨c, -, rfl⟩ := List.mem_map.mp (List.mem_reverse.mp he)
    exact ⟨_, rfl⟩
  rw [literalExpr]
  generalize (text.map Expr.char).reverse = items at hchars
  cases items with
  | nil => exact ⟨_, rfl⟩
  | cons e before =>
    obtain ⟨he, hbefore⟩ := List.forall_mem_cons.mp hchars
    exact resolveBranches_seqOnto hbefore he

/-- What has no parts is resolved whatever line ends are to matter. -/
theorem resolveBranches_atom {e : Expr} (he : e.isAtom = true) {f after : Flags}
    {nodes : List Node} (lines : Bool) (h : e.resolveBranches f = .ok (nodes, after)) :
    ∃ nodes' lines', e.resolveBranches (f.withLines lines) =
      .ok (nodes', after.withLines lines') := by
  cases e with
  | flags items =>
    cases h
    obtain ⟨lines', heq⟩ := applyAll_withLines items f lines
    refine ⟨[.empty], lines', ?_⟩
    rw [Expr.resolveBranches, heq]
    rfl
  | byte c =>
    rw [Expr.resolveBranches] at h
    split at h
    · next hunicode =>
      cases h
      exact ⟨_, lines, if_pos hunicode⟩
    · cases h
  | dot =>
    obtain ⟨set, hset, hpair⟩ := Except.bind_eq_ok_iff.mp h
    cases hpair
    exact ⟨_, lines, Except.bind_eq_ok_iff.mpr ⟨set, hset, rfl⟩⟩
  | set s =>
    obtain ⟨set, hset, hpair⟩ := Except.bind_eq_ok_iff.mp h
    cases hpair
    exact ⟨_, lines, Except.bind_eq_ok_iff.mpr ⟨set, (resolve_withLines s f lines).trans hset, rfl⟩⟩
  | empty | char | anchor =>
    cases h
    exact ⟨_, lines, rfl⟩
  | repeats | capture | group | seq | alt => cases he

/-- **What is alike can be resolved**, whatever line ends are to matter. -/
theorem Expr.Like.resolveBranches {e e' : Expr} (h : e.Like e') {f after : Flags}
    {nodes : List Node} (lines : Bool) (hresolve : e.resolveBranches f = .ok (nodes, after)) :
    ∃ nodes' lines', e'.resolveBranches (f.withLines lines) =
      .ok (nodes', after.withLines lines') := by
  induction h generalizing f after nodes lines with
  | atom he => exact resolveBranches_atom he lines hresolve
  | literal text =>
    obtain ⟨_, -, hpair⟩ := Except.bind_eq_ok_iff.mp hresolve
    cases hpair
    obtain ⟨nodes', hnodes⟩ := resolveBranches_literalExpr text (f.withLines lines)
    exact ⟨_, lines, Except.bind_eq_ok_iff.mpr ⟨_, hnodes, rfl⟩⟩
  | capture _ ih =>
    obtain ⟨⟨inner, _⟩, hinner, hpair⟩ := Except.bind_eq_ok_iff.mp hresolve
    cases hpair
    obtain ⟨inner', _, hinner'⟩ := ih lines hinner
    exact ⟨_, lines, Except.bind_eq_ok_iff.mpr ⟨_, hinner', rfl⟩⟩
  | repeats _ ih =>
    obtain ⟨⟨inner, _⟩, hinner, hpair⟩ := Except.bind_eq_ok_iff.mp hresolve
    cases hpair
    obtain ⟨inner', lines', hinner'⟩ := ih lines hinner
    exact ⟨_, lines', Except.bind_eq_ok_iff.mpr ⟨_, hinner', rfl⟩⟩
  | @group flags _ _ _ ih =>
    obtain ⟨⟨inner, _⟩, hinner, hpair⟩ := Except.bind_eq_ok_iff.mp hresolve
    cases hpair
    obtain ⟨within, heq⟩ := applyAll_withLines flags f lines
    obtain ⟨inner', _, hinner'⟩ := ih within hinner
    exact ⟨_, lines, Except.bind_eq_ok_iff.mpr ⟨_, heq ▸ hinner', rfl⟩⟩
  | seq _ _ ha hb | alt _ _ ha hb =>
    obtain ⟨⟨first, _⟩, hfirst, hrest⟩ := Except.bind_eq_ok_iff.mp hresolve
    obtain ⟨⟨second, _⟩, hsecond, hpair⟩ := Except.bind_eq_ok_iff.mp hrest
    cases hpair
    obtain ⟨first', between, hfirst'⟩ := ha lines hfirst
    obtain ⟨second', lines', hsecond'⟩ := hb between hsecond
    exact ⟨_, lines', Except.bind_eq_ok_iff.mpr
      ⟨_, hfirst', Except.bind_eq_ok_iff.mpr ⟨_, hsecond', rfl⟩⟩⟩

theorem Expr.Like.resolve {e e' : Expr} (h : e.Like e') {f : Flags} {node : Node} (lines : Bool)
    (hresolve : e.resolve f = .ok node) : ∃ node', e'.resolve (f.withLines lines) = .ok node' := by
  obtain ⟨⟨nodes, after⟩, hbranches, -⟩ := Except.bind_eq_ok_iff.mp hresolve
  obtain ⟨nodes', lines', hbranches'⟩ := h.resolveBranches lines hbranches
  exact ⟨_, Except.bind_eq_ok_iff.mpr ⟨_, hbranches', rfl⟩⟩

end DeviceCli.Regex
