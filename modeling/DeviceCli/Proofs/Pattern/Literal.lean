import DeviceCli.Proofs.Pattern.Pinned
import DeviceCli.Proofs.Regex.Search

/-!
# Literal patterns

An escaped text is a pattern again, the one of its characters in a row, and its program takes them
one after the other. So a literal pattern has no group but the whole match, and matches where its
text occurs.

* `parse_escapeChars`, `resolve_literalExpr`: what an escaped text is read as;
* `Program.Spells.matches_iff`: where its program matches, from what each step of a run does;
* `tooLarge_ofText`: how much space it takes;
* `literal_iff_occurs`: **a literal pattern matches the texts in which its text occurs.**
-/

namespace DeviceCli.Regex

/-! ## 1. Reading -/

/-- The characters of a text in a row, without flags to apply. -/
def Node.ofText : List Char → Node
  | [] => .empty
  | text => .literal text

/-- An escaped text is read as its characters. -/
theorem parse_escapeChars (text : List Char) :
    parse (escapeChars text) = .ok (literalExpr text) := by
  have hrow : Row 0 (escapeChars text) (text.map .char) := by
    simpa using Row.done.literal text
  refine parse_eq_ok_iff.mpr ⟨_, hrow.lexAll (Nat.lt_succ_self _), ?_, ?_, ?_⟩
  · rw [Pattern.captureNames_literal]
    rfl
  · rw [← List.append_nil (text.map Token.char), assemble_literal, List.append_nil]
    rfl
  · exact Nat.le_trans (nesting_literalExpr text) (by decide)

/-- Where no flag changes their case, characters in front of a literal go into it. -/
theorem resolveBranches_seqOnto_char {tail : Expr} {more : List Char} {f : Flags}
    (hcase : f.anyCase = false) (htail : tail.resolveBranches f = .ok ([.literal more], f))
    (chars : List Char) :
    (seqOnto tail (chars.map Expr.char)).resolveBranches f =
      .ok ([.literal (chars.reverse ++ more)], f) := by
  induction chars generalizing tail more with
  | nil => exact htail
  | cons c chars ih =>
    have hnext : (Expr.seq (.char c) tail).resolveBranches f = .ok ([.literal (c :: more)], f) := by
      rw [Expr.resolveBranches, Expr.resolveBranches, charNode, if_neg (by simp [hcase])]
      show (tail.resolveBranches f >>= _) = _
      rw [htail]
      rfl
    rw [List.map_cons, seqOnto, ih hnext, List.reverse_cons, List.append_assoc]
    rfl

/-- The characters of a text, resolved. -/
theorem resolve_literalExpr (text : List Char) {f : Flags} (hcase : f.anyCase = false) :
    (literalExpr text).resolve f = .ok (.ofText text) := by
  have hbranches : (literalExpr text).resolveBranches f = .ok ([.ofText text], f) := by
    rw [literalExpr, ← List.map_reverse]
    cases hreverse : text.reverse with
    | nil =>
      obtain rfl := List.reverse_eq_nil_iff.mp hreverse
      rfl
    | cons c before =>
      obtain rfl : text = before.reverse ++ [c] := by
        rw [← List.reverse_reverse text, hreverse, List.reverse_cons]
      have hlast : (Expr.char c).resolveBranches f = .ok ([.literal [c]], f) := by
        rw [Expr.resolveBranches, charNode, if_neg (by simp [hcase])]
        rfl
      rw [List.map_cons, seqOf, resolveBranches_seqOnto_char hcase hlast]
      cases before.reverse <;> rfl
  exact Except.bind_eq_ok_iff.mpr ⟨_, hbranches, rfl⟩

/-! ## 2. Programs -/

/-- The instructions of every program that are there first: to accept, and to note where the match
    ends. -/
def closing : Array Inst := #[.accept, .save 1 0]

theorem emit_ofText (text : List Char) (next : Nat) (insts : Array Inst) :
    (Node.ofText text).emit next insts = Code.literal text next insts := by
  cases text <;> rfl

theorem literal_closing (text : List Char) :
    (Code.literal text 1 closing).start = text.length + 1 ∧
      (Code.literal text 1 closing).insts.size = text.length + 2 := by
  induction text with
  | nil => exact ⟨rfl, rfl⟩
  | cons c text ih =>
    refine ⟨ih.2, ?_⟩
    rw [Code.literal, Code.size_add, ih.2]
    rfl

/-- Behind the instructions that are there first, there is one for each character, the last character
    first. -/
theorem getElem?_literal (taken left : List Char) (c : Char) :
    (Code.literal (taken ++ c :: left) 1 closing).insts[left.length + 2]? =
      some (.char c (left.length + 1)) := by
  induction taken with
  | nil =>
    obtain ⟨hstart, hsize⟩ := literal_closing left
    rw [List.nil_append, Code.literal, Code.getElem?_add, hsize, hstart, if_pos rfl]
  | cons d taken ih =>
    have hsize := (literal_closing (taken ++ c :: left)).2
    rw [List.cons_append, Code.literal, Code.getElem?_add, hsize, if_neg ?_, ih]
    simp only [List.length_append, List.length_cons]
    omega

theorem getElem?_closing (text : List Char) :
    (Code.literal text 1 closing).insts[0]? = some .accept ∧
      (Code.literal text 1 closing).insts[1]? = some (.save 1 0) := by
  induction text with
  | nil => exact ⟨rfl, rfl⟩
  | cons c text ih =>
    have hsize := (literal_closing text).2
    rw [Code.literal, Code.getElem?_add, Code.getElem?_add, hsize, if_neg (by omega),
      if_neg (by omega)]
    exact ih

/-- **The program of a text**, by what is left to take: it begins in front of the whole text, and a
    thread that has so many characters left stands one further than their number. -/
structure Program.Spells (p : Program) (text : List Char) : Prop where
  start : p.start = text.length + 2
  begins : p.insts[text.length + 2]? = some (.save 0 (text.length + 1))
  takes : ∀ taken c left, text = taken ++ c :: left →
    p.insts[left.length + 2]? = some (.char c (left.length + 1))
  ends : p.insts[1]? = some (.save 1 0)
  accepts : p.insts[0]? = some .accept

theorem spells_compile (text : List Char) : (Node.ofText text).compile.Spells text := by
  obtain ⟨hstart, hsize⟩ := literal_closing text
  obtain ⟨haccept, hend⟩ := getElem?_closing text
  have hcode : (Node.ofText text).emit 1 closing = Code.literal text 1 closing := emit_ofText _ _ _
  have hinsts : ∀ i : Nat, (Node.ofText text).compile.insts[i]? =
      if i = text.length + 2 then some (.save 0 (text.length + 1))
      else (Code.literal text 1 closing).insts[i]? := by
    intro i
    show (Code.add ((Node.ofText text).emit 1 closing).insts
      (.save 0 ((Node.ofText text).emit 1 closing).start)).insts[i]? = _
    rw [Code.getElem?_add, hcode, hsize, hstart]
  refine ⟨?_, ?_, fun taken c left heq => ?_, ?_, ?_⟩
  · show ((Node.ofText text).emit 1 closing).insts.size = _
    rw [hcode, hsize]
  · rw [hinsts, if_pos rfl]
  · subst heq
    rw [hinsts, if_neg ?_, getElem?_literal]
    simp only [List.length_append, List.length_cons]
    omega
  · rw [hinsts, if_neg (by omega), hend]
  · rw [hinsts, if_neg (by omega), haccept]

/-! ## 3. Runs -/

namespace Program

variable {p : Program} {text subject : List Char} {first last pos : Nat} {t : Thread}

/-- Where a run of the program of a text may have come to: the beginning, some way into the text, or
    its end. -/
inductive Along (text subject : List Char) (first : Nat) : Nat → Nat → Prop
  | start : Along text subject first first (text.length + 2)
  | taken {taken left} (htext : text = taken ++ left) (htaken : taken <+: subject.drop first) :
      Along text subject first (first + taken.length) (left.length + 1)
  | finish (h : text <+: subject.drop first) :
      Along text subject first (first + text.length) 0

/-- A prefix of a text grows by the character behind it. -/
theorem concat_prefix_drop {taken : List Char} {c : Char} (h : taken <+: subject.drop first)
    (hc : subject[first + taken.length]? = some c) : taken ++ [c] <+: subject.drop first := by
  obtain ⟨more, hmore⟩ := h
  rw [← List.getElem?_drop, ← hmore, List.getElem?_append_right (Nat.le_refl _), Nat.sub_self] at hc
  cases more with
  | nil => cases hc
  | cons d more =>
    cases hc
    exact ⟨more, by rw [← hmore, List.append_assoc]; rfl⟩

/-- Each step of a run goes further along the text. -/
theorem Spells.along (hp : p.Spells text) (h : p.Reached subject first pos t) :
    Along text subject first pos t.pc := by
  induction h with
  | begin =>
    rw [hp.start]
    exact .start
  | @silent pos t u _ hu ih =>
    rw [silent] at hu
    generalize t.pc = pc at hu ih
    cases ih with
    | start =>
      rw [hp.begins] at hu
      obtain rfl := List.mem_singleton.mp hu
      exact @Along.taken text subject first [] text rfl (List.nil_prefix)
    | @taken taken left htext htaken =>
      cases left with
      | nil =>
        rw [List.append_nil] at htext
        rw [List.length_nil, hp.ends] at hu
        obtain rfl := List.mem_singleton.mp hu
        rw [← htext] at htaken ⊢
        exact .finish htaken
      | cons c left =>
        rw [List.length_cons, hp.takes _ _ _ htext] at hu
        cases hu
    | finish =>
      rw [hp.accepts] at hu
      cases hu
  | @take pos t u c _ hc hu ih =>
    rw [Program.taken] at hu
    generalize t.pc = pc at hu ih
    cases ih with
    | start =>
      rw [hp.begins] at hu
      cases hu
    | @taken taken left htext htaken =>
      cases left with
      | nil =>
        rw [List.length_nil, hp.ends] at hu
        cases hu
      | cons d left =>
        rw [List.length_cons, hp.takes _ _ _ htext] at hu
        dsimp only at hu
        split at hu
        · next heq =>
          cases hu
          subst heq
          have hnext : text = (taken ++ [c]) ++ left := by rw [htext, List.append_assoc]; rfl
          have := Along.taken hnext (concat_prefix_drop htaken hc)
          rwa [List.length_append] at this
        · cases hu
    | finish =>
      rw [hp.accepts] at hu
      cases hu

/-- Where a text has a prefix of the one that is spelled, a run goes along it. -/
theorem Spells.reached (hp : p.Spells text) (hfirst : first ≤ subject.length)
    {taken left : List Char} (htext : text = taken ++ left) (htaken : taken <+: subject.drop first) :
    ∃ slots, p.Reached subject first (first + taken.length) ⟨left.length + 1, slots⟩ := by
  induction taken using List.reverseRecOn generalizing left with
  | nil =>
    rw [List.nil_append] at htext
    subst htext
    have hnote : ⟨text.length + 1, Slots.note [] 0 (viewAt subject first).pos⟩ ∈
        p.silent (viewAt subject first) ⟨p.start, []⟩ := by
      rw [silent, hp.start, hp.begins]
      exact List.mem_singleton_self _
    exact ⟨_, .silent (.begin hfirst) hnote⟩
  | append_singleton taken c ih =>
    have hnext : text = taken ++ c :: left := by rw [htext, List.append_assoc]; rfl
    obtain ⟨more, hmore⟩ := htaken
    obtain ⟨slots, hreached⟩ := ih hnext ⟨c :: more, by rw [← hmore, List.append_assoc]; rfl⟩
    have hc : subject[first + taken.length]? = some c := by
      rw [← List.getElem?_drop, ← hmore, List.append_assoc,
        List.getElem?_append_right (Nat.le_refl _), Nat.sub_self]
      rfl
    refine ⟨slots, ?_⟩
    rw [List.length_append]
    refine .take hreached hc ?_
    rw [Program.taken, List.length_cons, hp.takes _ _ _ hnext]
    exact if_pos rfl

/-- **The program of a text matches where the text is**, and to its end. -/
theorem Spells.matches_iff (hp : p.Spells text) :
    p.Matches subject first last ↔
      first ≤ subject.length ∧ text <+: subject.drop first ∧ last = first + text.length := by
  constructor
  · rintro ⟨slots, pc, hreached, haccept⟩
    have halong : Along text subject first last pc := hp.along hreached
    refine ⟨Nat.le_trans hreached.first_le hreached.le_length, ?_⟩
    cases halong with
    | start =>
      rw [hp.begins] at haccept
      cases haccept
    | @taken taken left htext htaken =>
      cases left with
      | nil =>
        rw [List.length_nil, hp.ends] at haccept
        cases haccept
      | cons c left =>
        rw [List.length_cons, hp.takes _ _ _ htext] at haccept
        cases haccept
    | finish h => exact ⟨h, rfl⟩
  · rintro ⟨hfirst, htext, rfl⟩
    obtain ⟨slots, hreached⟩ := hp.reached hfirst (List.append_nil text).symm htext
    let view := viewAt subject (first + text.length)
    have hnote : ⟨0, slots.note 1 view.pos⟩ ∈
        p.silent view ⟨([] : List Char).length + 1, slots⟩ := by
      rw [silent, List.length_nil, hp.ends]
      exact List.mem_singleton_self _
    exact ⟨_, _, .silent hreached hnote, hp.accepts⟩

end Program

/-- **The program of a text finds it where it occurs.** -/
theorem isSome_search_iff (text subject : List Char) :
    ((Node.ofText text).compile.search subject).isSome = true ↔ text <:+: subject := by
  have hspells := spells_compile text
  have hframed : (Node.ofText text).compile.Framed := by
    refine Node.framed_compile ?_
    cases text <;> trivial
  rw [Option.isSome_iff_ne_none, Ne, Program.search_eq_none_iff hframed]
  simp only [hspells.matches_iff, not_forall, not_not]
  constructor
  · rintro ⟨first, last, -, ⟨more, hmore⟩, -⟩
    exact ⟨subject.take first, more, by rw [List.append_assoc, hmore, List.take_append_drop]⟩
  · rintro ⟨before, more, rfl⟩
    refine ⟨before.length, before.length + text.length, ?_, ⟨more, ?_⟩, rfl⟩
    · simp only [List.length_append]
      omega
    · rw [List.append_assoc, List.drop_left]

/-! ## 4. Space -/

theorem length_encodeCode_le (n : Nat) : (encodeCode n).length ≤ 4 := by
  unfold encodeCode
  split_ifs <;> simp

theorem length_literalBytes_le (text : List Char) :
    (literalBytes true text).length ≤ 4 * text.length := by
  induction text with
  | nil => exact Nat.le_refl _
  | cons c text ih =>
    have := length_encodeCode_le c.toNat
    simp only [literalBytes, if_true, List.flatMap_cons, List.length_append, List.length_cons]
      at ih ⊢
    omega

/-- The most bytes that a literal pattern may be of. -/
def longestLiteral : Nat := 327673

/-- The machine that reads a text forward. -/
theorem forwardLayout_ofText {text : List Char} (htext : text ≠ []) :
    (Node.ofText text).forwardLayout = ⟨(literalBytes true text).length + 6, 16⟩ := by
  obtain ⟨c, text, rfl⟩ := List.exists_cons_of_ne_nil htext
  show Layout.mk (3 + 1 + _ + 2 + 0) 16 = _
  congr 1
  omega

/-- The machine that reads a text backward. -/
theorem backwardLayout_ofText {text : List Char} (htext : text ≠ []) :
    (Node.ofText text).backwardLayout = ⟨(literalBytes true text).length + 4, 16⟩ := by
  obtain ⟨c, text, rfl⟩ := List.exists_cons_of_ne_nil htext
  have hreverse : (literalBytes false (c :: text)).length = (literalBytes true (c :: text)).length :=
    List.length_reverse
  show Layout.mk (3 + (literalBytes false (c :: text)).length + 1 + 0) 16 = _
  rw [hreverse]
  congr 1
  omega

/-- **How much space a text takes** as a pattern: too much, if it has more bytes than that. -/
theorem tooLarge_ofText (text : List Char) :
    (Node.ofText text).tooLarge = decide (longestLiteral < (literalBytes true text).length) := by
  by_cases htext : text = []
  · subst htext
    rfl
  · have hle := length_literalBytes_le text
    have hbound : (Node.ofText text).bound = 400 * text.length := by
      obtain ⟨c, text, rfl⟩ := List.exists_cons_of_ne_nil htext
      rfl
    have hlimit : sizeLimit = 10485760 := rfl
    rw [Node.tooLarge, forwardLayout_ofText htext, backwardLayout_ofText htext, hbound,
      Bool.eq_iff_iff, decide_eq_true_iff, longestLiteral]
    simp only [Layout.isFull, Layout.bytes, hlimit, Bool.and_eq_true, Bool.or_eq_true,
      decide_eq_true_eq]
    omega

end DeviceCli.Regex

namespace DeviceCli

open DeviceCli.Regex

/-! ## 5. Literal patterns -/

/-- Compiles a pattern as if it might take any space. -/
def Regex.compileAnySize (flags : Flags) (pattern : List Char) : Except Regex.Error Regex := do
  let e ← (parse pattern).mapError .malformed
  let node ← (e.resolve flags).mapError .malformed
  pure ⟨node.compile⟩

theorem Regex.compileAnySize_eq_ok_iff {flags : Flags} {pattern : List Char} {r : Regex} :
    compileAnySize flags pattern = .ok r ↔ ∃ e node, parse pattern = .ok e ∧
      e.resolve flags = .ok node ∧ r = ⟨node.compile⟩ := by
  constructor
  · intro h
    obtain ⟨e, he, h⟩ := Except.bind_eq_ok_iff.mp h
    obtain ⟨node, hnode, h⟩ := Except.bind_eq_ok_iff.mp h
    cases h
    exact ⟨e, node, Except.mapError_eq_ok_iff.mp he, Except.mapError_eq_ok_iff.mp hnode, rfl⟩
  · rintro ⟨e, node, he, hnode, rfl⟩
    rw [compileAnySize, he]
    show ((e.resolve flags).mapError Regex.Error.malformed >>= _) = _
    rw [hnode]
    rfl

/-- The limit on space refuses patterns, and changes none. -/
theorem Regex.compileAnySize_of_compileWith {flags : Flags} {pattern : List Char} {r : Regex}
    (h : compileWith flags pattern = .ok r) : compileAnySize flags pattern = .ok r := by
  obtain ⟨e, node, he, hnode, -, hr⟩ := compileWith_eq_ok_iff.mp h
  exact compileAnySize_eq_ok_iff.mpr ⟨e, node, he, hnode, hr⟩

namespace Pattern

/-- What a literal pattern is compiled to. -/
theorem parse_escape (text : String) :
    parse (escape text).toList = .ok (literalExpr text.toList) ∧
      (literalExpr text.toList).resolve {} = .ok (.ofText text.toList) := by
  rw [toList_escape]
  exact ⟨parse_escapeChars _, resolve_literalExpr _ rfl⟩

/-- A text that does not take too much space has a literal pattern, and it is that of its
    characters. -/
theorem compile_escape {text : String}
    (hsize : (literalBytes true text.toList).length ≤ longestLiteral) :
    compile (escape text) = .ok ⟨escape text, ⟨(Node.ofText text.toList).compile⟩⟩ := by
  obtain ⟨hparse, hresolve⟩ := parse_escape text
  have hsmall : (Node.ofText text.toList).tooLarge = false := by
    rw [tooLarge_ofText]
    exact decide_eq_false (Nat.not_lt.mpr hsize)
  exact compile_eq_ok_iff.mpr
    ⟨rfl, Regex.compileWith_eq_ok_iff.mpr ⟨_, _, hparse, hresolve, hsmall, rfl⟩⟩

/-- **A literal pattern matches the texts in which its text occurs**, and has no group but the whole
    match. If space were not limited, every text would have one; as it is, those do that have no more
    than `longestLiteral` bytes. -/
theorem literal_iff_occurs (text : String) :
    (∃ r, Regex.compileAnySize {} (escape text).toList = .ok r ∧ r.groupCount = 1 ∧
      ∀ other, r.isMatch other = true ↔ text.toList <:+: other.toList) ∧
    ((literalBytes true text.toList).length ≤ longestLiteral →
      compile (escape text) = .ok (literal text) ∧ (literal text).groupCount = 1 ∧
      ∀ other, (literal text).isMatch other = true ↔ text.toList <:+: other.toList) := by
  have hgroups : (Node.ofText text.toList).compile.groups = 1 := by
    cases text.toList <;> rfl
  have hmatches : ∀ other : String,
      ((Node.ofText text.toList).compile.search other.toList).isSome = true ↔
        text.toList <:+: other.toList := fun other => isSome_search_iff _ _
  refine ⟨⟨⟨(Node.ofText text.toList).compile⟩, ?_, hgroups, hmatches⟩, fun hsize => ?_⟩
  · obtain ⟨hparse, hresolve⟩ := parse_escape text
    exact Regex.compileAnySize_eq_ok_iff.mpr ⟨_, _, hparse, hresolve, rfl⟩
  · have hcompile := compile_escape hsize
    have hliteral : literal text = ⟨escape text, ⟨(Node.ofText text.toList).compile⟩⟩ := by
      rw [literal, hcompile]
    rw [hliteral]
    exact ⟨hcompile, hgroups, hmatches⟩

/-- Neither a dot nor a star stands for anything else. -/
theorem literal_iff_occurs_stars :
    (literalBytes true "a.b*".toList).length ≤ longestLiteral ∧
      compile (escape "a.b*") = .ok (literal "a.b*") ∧ (literal "a.b*").groupCount = 1 ∧
      (literal "a.b*").isMatch "xa.b*y" = true ∧ (literal "a.b*").isMatch "aXbb" = false := by
  have hsize : (literalBytes true "a.b*".toList).length ≤ longestLiteral := by decide
  obtain ⟨hcompile, hgroups, hmatches⟩ := (literal_iff_occurs "a.b*").2 hsize
  refine ⟨hsize, hcompile, hgroups, (hmatches "xa.b*y").mpr ⟨['x'], ['y'], rfl⟩, ?_⟩
  rw [← Bool.not_eq_true, hmatches]
  decide

end Pattern

end DeviceCli
