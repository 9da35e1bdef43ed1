import DeviceCli.Clause.Step
import DeviceCli.Proofs.Except

/-!
# The grammar of clauses

What `stepClausesOf` reads, apart from how it reads it.

* `Punctuated` are pieces with a mark between them, which may also stand behind the last. The modes
  of an options list are punctuated by commas (`ModeList`), clauses by semicolons (`ClauseList`).
* `StepClause.Argued` is one rule for each kind of clause: what its keyword has behind it.
* `stepClausesOf_eq_ok_iff`: **the trees that are read are those that spell clauses, bare or in one
  pair of braces, of which no two have the same keyword and one is a list of options.**

The readers take what they know off the front and give the rest, so each is described by what it
took: `takeClause_eq_ok_iff` and the lemmas before it. Every clause takes a tree at least, so
the number of the trees is fuel enough.
-/

namespace DeviceCli.Clause

/-! ## 1. Grammar -/

/-- Pieces with a mark between them; the mark may also stand behind the last. -/
inductive Punctuated {α : Type} (mark : Char) (Piece : α → List Tree → Prop) :
    List α → List Tree → Prop where
  | nil : Punctuated mark Piece [] []
  | last {a : α} {piece : List Tree} (h : Piece a piece) : Punctuated mark Piece [a] piece
  | cons {a : α} {piece : List Tree} {more : List α} {rest : List Tree} (h : Piece a piece)
      (hmore : Punctuated mark Piece more rest) :
      Punctuated mark Piece (a :: more) (piece ++ .token (.mark mark) :: rest)

/-- A mode is named by a string. -/
inductive Quoted : String → List Tree → Prop where
  | mode (name : String) : Quoted name [.token (.string name)]

/-- Modes with commas. -/
def ModeList : List String → List Tree → Prop := Punctuated ',' Quoted

/-- A whole number, with or without a minus. -/
inductive WholeNumber : Numeral → List Tree → Prop where
  | plain (n : Numeral) : WholeNumber n [.token (.number n)]
  | minus (n : Numeral) :
      WholeNumber { n with negative := true } [.token (.mark '-'), .token (.number n)]

/-- What stands behind the keyword of a clause. -/
inductive StepClause.Argued : StepClause → List Tree → Prop where
  | cmd (text : String) : Argued (.cmd text) [.token (.string text)]
  | options {modes : List String} {content : List Tree} (h : ModeList modes content)
      (hmodes : modes ≠ []) : Argued (.options modes) [.group .square content]
  | target (mode : String) : Argued (.target mode) [.token (.string mode)]
  | timeout {ms : Numeral} {argument : List Tree} (h : WholeNumber ms argument) :
      Argued (.timeout ms) argument
  | waitBefore {ms : Numeral} {argument : List Tree} (h : WholeNumber ms argument) :
      Argued (.waitBefore ms) argument
  | waitAfter {ms : Numeral} {argument : List Tree} (h : WholeNumber ms argument) :
      Argued (.waitAfter ms) argument
  | noCr : Argued .noCr []

/-- A keyword with its argument. -/
inductive StepClause.Spelled : StepClause → List Tree → Prop where
  | clause {clause : StepClause} {argument : List Tree} (h : clause.Argued argument) :
      Spelled clause (.token (.word clause.keyword.name) :: argument)

/-- Clauses with semicolons. -/
def ClauseList : List StepClause → List Tree → Prop := Punctuated ';' StepClause.Spelled

/-- Clauses, bare or in one pair of braces. -/
inductive Written (clauses : List StepClause) : List Tree → Prop where
  | bare {trees : List Tree} (h : ClauseList clauses trees) : Written clauses trees
  | braced {content : List Tree} (h : ClauseList clauses content) :
      Written clauses [.group .curly content]

/-! ## 2. Arguments -/

theorem takeStringArg_eq_ok_iff {trees rest : List Tree} {s : String} :
    takeStringArg trees = .ok (s, rest) ↔ trees = .token (.string s) :: rest := by
  constructor
  · intro h
    unfold takeStringArg at h
    split at h
    · cases h
      rfl
    · cases h
  · rintro rfl
    rfl

theorem takeNumberArg_eq_ok_iff {trees rest : List Tree} {n : Numeral} :
    takeNumberArg trees = .ok (n, rest) ↔
      ∃ argument, WholeNumber n argument ∧ trees = argument ++ rest := by
  constructor
  · intro h
    unfold takeNumberArg at h
    split at h
    · cases h
      exact ⟨_, .plain n, rfl⟩
    · cases h
      exact ⟨_, .minus _, rfl⟩
    · cases h
  · rintro ⟨argument, hnumber, rfl⟩
    cases hnumber <;> rfl

theorem stringsOf_eq_ok_iff {content : List Tree} {modes : List String} :
    stringsOf content = .ok modes ↔ ModeList modes content := by
  constructor
  · intro h
    fun_induction stringsOf content generalizing modes with
    | case1 =>
      cases h
      exact .nil
    | case2 s =>
      cases h
      exact .last (.mode s)
    | case3 s rest ih =>
      obtain ⟨more, hmore, hmodes⟩ := Except.bind_eq_ok_iff.mp h
      cases hmodes
      exact .cons (.mode s) (ih hmore)
    | case4 => cases h
  · intro h
    induction h with
    | nil => rfl
    | last h =>
      cases h
      rfl
    | cons h _ ih =>
      cases h
      exact Except.bind_eq_ok_iff.mpr ⟨_, ih, rfl⟩

theorem takeModes_eq_ok_iff {trees rest : List Tree} {modes : List String} :
    takeModes trees = .ok (modes, rest) ↔
      ∃ content, ModeList modes content ∧ modes ≠ [] ∧ trees = .group .square content :: rest := by
  constructor
  · intro h
    unfold takeModes at h
    split at h
    · next content rest' =>
      obtain ⟨modes', hmodes, h⟩ := Except.bind_eq_ok_iff.mp h
      split at h
      · cases h
      · next hsome =>
        cases h
        refine ⟨content, stringsOf_eq_ok_iff.mp hmodes, ?_, rfl⟩
        rintro rfl
        exact hsome rfl
    · cases h
  · rintro ⟨content, hmodes, hsome, rfl⟩
    have hempty : modes.isEmpty = false := by
      rwa [List.isEmpty_eq_false_iff]
    refine Except.bind_eq_ok_iff.mpr ⟨modes, stringsOf_eq_ok_iff.mpr hmodes, ?_⟩
    rw [hempty]
    rfl

theorem wrapped_eq_ok_iff {α : Type} {taken : Except ClauseError (α × List Tree)}
    {wrap : α → StepClause} {clause : StepClause} {rest : List Tree} :
    (taken >>= fun (a, behind) => pure (wrap a, behind)) = .ok (clause, rest) ↔
      ∃ a, taken = .ok (a, rest) ∧ clause = wrap a := by
  constructor
  · intro h
    obtain ⟨⟨a, behind⟩, htaken, h⟩ := Except.bind_eq_ok_iff.mp h
    cases h
    exact ⟨a, htaken, rfl⟩
  · rintro ⟨a, rfl, rfl⟩
    rfl

/-- **A keyword takes its argument off the front**, and nothing else. -/
theorem takeArgument_eq_ok_iff {keyword : Keyword} {trees rest : List Tree} {clause : StepClause} :
    takeArgument keyword trees = .ok (clause, rest) ↔
      clause.keyword = keyword ∧ ∃ argument, clause.Argued argument ∧ trees = argument ++ rest := by
  constructor
  · intro h
    cases keyword with
    | cmd | target =>
      obtain ⟨s, hs, rfl⟩ := wrapped_eq_ok_iff.mp h
      refine ⟨rfl, [.token (.string s)], ?_, takeStringArg_eq_ok_iff.mp hs⟩
      constructor
    | options =>
      obtain ⟨modes, hmodes, rfl⟩ := wrapped_eq_ok_iff.mp h
      obtain ⟨content, hlist, hsome, rfl⟩ := takeModes_eq_ok_iff.mp hmodes
      exact ⟨rfl, _, .options hlist hsome, rfl⟩
    | timeout | waitBefore | waitAfter =>
      obtain ⟨n, hn, rfl⟩ := wrapped_eq_ok_iff.mp h
      obtain ⟨argument, hnumber, rfl⟩ := takeNumberArg_eq_ok_iff.mp hn
      refine ⟨rfl, argument, ?_, rfl⟩
      constructor
      exact hnumber
    | noCr =>
      cases h
      exact ⟨rfl, _, .noCr, rfl⟩
  · rintro ⟨rfl, argument, hargued, rfl⟩
    cases hargued with
    | cmd | target | noCr => rfl
    | options hlist hsome =>
      exact wrapped_eq_ok_iff.mpr ⟨_, takeModes_eq_ok_iff.mpr ⟨_, hlist, hsome, rfl⟩, rfl⟩
    | timeout hnumber | waitBefore hnumber | waitAfter hnumber =>
      exact wrapped_eq_ok_iff.mpr ⟨_, takeNumberArg_eq_ok_iff.mpr ⟨_, hnumber, rfl⟩, rfl⟩

/-! ## 3. Clauses -/

theorem named?_eq_some_iff {word : String} {keyword : Keyword} :
    Keyword.named? word = some keyword ↔ word = keyword.name := by
  constructor
  · intro h
    unfold Keyword.named? at h
    split at h <;> cases h <;> rfl
  · rintro rfl
    cases keyword <;> rfl

/-- No keyword is a reserved word. -/
theorem reservedWords_contains_name (keyword : Keyword) :
    reservedWords.contains keyword.name = false := by
  cases keyword <;> decide +kernel

theorem takeClause_eq_ok_iff {trees rest : List Tree} {clause : StepClause} :
    takeClause trees = .ok (clause, rest) ↔
      ∃ piece, clause.Spelled piece ∧ trees = piece ++ rest := by
  constructor
  · intro h
    unfold takeClause at h
    split at h
    · next word behind =>
      split at h
      · cases h
      · split at h
        · next keyword hword =>
          obtain ⟨rfl, argument, hargued, rfl⟩ := takeArgument_eq_ok_iff.mp h
          obtain rfl := named?_eq_some_iff.mp hword
          exact ⟨_, .clause hargued, rfl⟩
        · cases h
    · cases h
  · rintro ⟨piece, ⟨hargued⟩, rfl⟩
    rw [List.cons_append, takeClause, reservedWords_contains_name,
      named?_eq_some_iff.mpr rfl]
    exact takeArgument_eq_ok_iff.mpr ⟨rfl, _, hargued, rfl⟩

theorem StepClause.Spelled.length_pos {clause : StepClause} {piece : List Tree}
    (h : clause.Spelled piece) : 0 < piece.length := by
  cases h
  exact Nat.succ_pos _

/-- A clause at the front is read; then the text ends, or a semicolon and other clauses follow. -/
theorem clausesWithin_of_spelled (fuel : Nat) {clause : StepClause} {piece : List Tree}
    (h : clause.Spelled piece) (rest : List Tree) :
    clausesWithin (fuel + 1) (piece ++ rest) =
      match rest with
      | [] => pure [clause]
      | .token (.mark ';') :: rest => (clausesWithin fuel rest).map (clause :: ·)
      | _ => .error .malformed := by
  have hclause : takeClause (piece ++ rest) = .ok (clause, rest) :=
    takeClause_eq_ok_iff.mpr ⟨piece, h, rfl⟩
  cases h
  rw [List.cons_append] at hclause ⊢
  rw [clausesWithin, hclause]
  · rfl
  · exact nofun

/-- **The clauses that are read are those with semicolons between them**, given fuel for each
    tree. -/
theorem clausesWithin_eq_ok_iff {fuel : Nat} {trees : List Tree} {clauses : List StepClause}
    (hfuel : trees.length ≤ fuel) :
    clausesWithin fuel trees = .ok clauses ↔ ClauseList clauses trees := by
  -- one way along the reader, the other way along the grammar
  constructor
  · intro h
    fun_induction clausesWithin fuel trees generalizing clauses with
    | case1 =>
      cases h
      exact .nil
    | case2 => cases h
    | case3 fuel trees hsome ih =>
      obtain ⟨⟨clause, rest⟩, hclause, hbehind⟩ := Except.bind_eq_ok_iff.mp h
      obtain ⟨piece, hpiece, rfl⟩ := takeClause_eq_ok_iff.mp hclause
      -- the clause has used up a tree, so the fuel that is left does for the others
      have hlength := hpiece.length_pos
      dsimp only at hbehind
      split at hbehind
      · cases hbehind
        rw [List.append_nil]
        exact .last hpiece
      · next rest =>
        obtain ⟨more, hmore, hclauses⟩ := Except.bind_eq_ok_iff.mp hbehind
        cases hclauses
        rw [List.length_append, List.length_cons] at hfuel
        exact .cons hpiece (ih rest (by omega) hmore)
      · cases hbehind
  · intro h
    induction h generalizing fuel with
    | nil => cases fuel <;> rfl
    | @last clause piece hpiece =>
      have hlength := hpiece.length_pos
      obtain ⟨fuel, rfl⟩ := Nat.exists_eq_add_one.mpr (Nat.lt_of_lt_of_le hlength hfuel)
      have hread := clausesWithin_of_spelled fuel hpiece []
      rwa [List.append_nil] at hread
    | @cons clause piece more rest hpiece _ ih =>
      have hlength := hpiece.length_pos
      rw [List.length_append, List.length_cons] at hfuel
      obtain ⟨fuel, rfl⟩ := Nat.exists_eq_add_one.mpr (Nat.zero_lt_of_lt hfuel)
      have hrest : clausesWithin fuel rest = .ok more := ih (by omega)
      rw [clausesWithin_of_spelled fuel hpiece]
      exact congrArg (Except.map (clause :: ·)) hrest

theorem clausesOf_eq_ok_iff {trees : List Tree} {clauses : List StepClause} :
    clausesOf trees = .ok clauses ↔ ClauseList clauses trees :=
  clausesWithin_eq_ok_iff (Nat.le_refl _)

/-! ## 4. The whole -/

/-- No keyword comes twice, and one of the clauses is a list of options. -/
structure Admissible (clauses : List StepClause) : Prop where
  distinct : (clauses.map StepClause.keyword).Nodup
  options : ∃ modes, StepClause.options modes ∈ clauses

theorem firstRepeated_eq_none_iff {seen : List Keyword} {clauses : List StepClause} :
    firstRepeated seen clauses = none ↔
      (∀ clause ∈ clauses, clause.keyword ∉ seen) ∧ (clauses.map StepClause.keyword).Nodup := by
  induction clauses generalizing seen with
  | nil => exact ⟨fun _ => ⟨nofun, List.nodup_nil⟩, fun _ => rfl⟩
  | cons clause rest ih =>
    rw [firstRepeated, List.forall_mem_cons, List.map_cons, List.nodup_cons]
    by_cases hseen : clause.keyword ∈ seen
    · rw [if_pos (List.contains_iff_mem.mpr hseen)]
      exact ⟨nofun, fun h => absurd hseen h.1.1⟩
    · rw [if_neg (by rwa [List.contains_iff_mem]), ih]
      simp only [List.mem_cons, not_or, List.mem_map, not_exists, not_and, hseen,
        not_false_eq_true, true_and]
      constructor
      · rintro ⟨hrest, hdistinct⟩
        exact ⟨fun c hc => (hrest c hc).2, fun c hc => (hrest c hc).1, hdistinct⟩
      · rintro ⟨hrest, hnew, hdistinct⟩
        exact ⟨fun c hc => ⟨hnew c hc, hrest c hc⟩, hdistinct⟩

theorem any_options_iff {clauses : List StepClause} :
    clauses.any (fun clause => clause.keyword == .options) = true ↔
      ∃ modes, StepClause.options modes ∈ clauses := by
  rw [List.any_eq_true]
  constructor
  · rintro ⟨clause, hmem, hkeyword⟩
    cases clause with
    | options modes => exact ⟨modes, hmem⟩
    | _ => cases hkeyword
  · rintro ⟨modes, hmem⟩
    exact ⟨_, hmem, rfl⟩

theorem checkClauses_eq_ok_iff {clauses : List StepClause} {done : Unit} :
    checkClauses clauses = .ok done ↔ Admissible clauses := by
  have hdistinct : firstRepeated [] clauses = none ↔ (clauses.map StepClause.keyword).Nodup := by
    rw [firstRepeated_eq_none_iff]
    exact and_iff_right fun _ _ => List.not_mem_nil
  unfold checkClauses
  constructor
  · intro h
    split at h
    · cases h
    · next hnone =>
      split at h
      · next hoptions => exact ⟨hdistinct.mp hnone, any_options_iff.mp hoptions⟩
      · cases h
  · intro h
    rw [hdistinct.mpr h.distinct]
    exact if_pos (any_options_iff.mpr h.options)

/-- Clauses begin with a word, so those in braces are not taken for bare ones. -/
theorem stepClausesOf_of_clauseList {trees : List Tree} {clauses : List StepClause}
    (h : ClauseList clauses trees) :
    stepClausesOf trees =
      clausesOf trees >>= fun clauses => checkClauses clauses >>= fun _ => pure clauses := by
  cases h with
  | nil => rfl
  | last hpiece =>
    cases hpiece
    rfl
  | cons hpiece _ =>
    cases hpiece
    rfl

/-- **Trees are read as clauses if and only if they spell them and the clauses are admissible.** -/
theorem stepClausesOf_eq_ok_iff {trees : List Tree} {clauses : List StepClause} :
    stepClausesOf trees = .ok clauses ↔ Written clauses trees ∧ Admissible clauses := by
  constructor
  · intro h
    unfold stepClausesOf at h
    split at h
    · next content rest =>
      obtain ⟨clauses', hread, h⟩ := Except.bind_eq_ok_iff.mp h
      obtain ⟨done, hcheck, h⟩ := Except.bind_eq_ok_iff.mp h
      split at h
      · next hrest =>
        cases h
        obtain rfl := List.isEmpty_iff.mp hrest
        exact ⟨.braced (clausesOf_eq_ok_iff.mp hread), checkClauses_eq_ok_iff.mp hcheck⟩
      · cases h
    · obtain ⟨clauses', hread, h⟩ := Except.bind_eq_ok_iff.mp h
      obtain ⟨done, hcheck, h⟩ := Except.bind_eq_ok_iff.mp h
      cases h
      exact ⟨.bare (clausesOf_eq_ok_iff.mp hread), checkClauses_eq_ok_iff.mp hcheck⟩
  · rintro ⟨hwritten, hadmissible⟩
    have hcheck : checkClauses clauses = .ok () := checkClauses_eq_ok_iff.mpr hadmissible
    cases hwritten with
    | bare hlist =>
      have hread := clausesOf_eq_ok_iff.mpr hlist
      rw [stepClausesOf_of_clauseList hlist]
      exact Except.bind_eq_ok_iff.mpr
        ⟨_, hread, Except.bind_eq_ok_iff.mpr ⟨(), hcheck, rfl⟩⟩
    | braced hlist =>
      have hread := clausesOf_eq_ok_iff.mpr hlist
      exact Except.bind_eq_ok_iff.mpr
        ⟨_, hread, Except.bind_eq_ok_iff.mpr ⟨(), hcheck, rfl⟩⟩

end DeviceCli.Clause
