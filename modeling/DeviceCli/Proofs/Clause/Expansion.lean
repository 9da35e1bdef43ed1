import DeviceCli.Proofs.Clause.Grammar

/-!
# The step that clauses build

The options of a step are taken out of its clauses, and every other clause becomes a call. A call
sets one field, which belongs to the keyword of its clause, so with distinct keywords no call undoes
another.

* `Keyword.entry` is a step seen through keywords; `Describes` says that each clause gives the entry
  of its keyword and that the entries of all other keywords are the default ones. This determines
  the step (`Describes.unique`) and does not look at the order of the clauses.
* `ofCalls_eq_some_iff`: a step is built if and only if all numbers fit, and it is the one that the
  clauses describe.
* `stepClausesOf_expansion`: **what is read, what is built from it, and that the order of the
  clauses does not matter.**
-/

namespace DeviceCli.Clause

/-! ## 1. Steps by keyword -/

/-- What a step can have under a keyword. -/
inductive Entry where
  | text (s : Option String)
  | modes (names : List String)
  | duration (ms : Option Nat)
  | flag (b : Bool)

/-- What a step has under a keyword. -/
def Keyword.entry (step : Step) : Keyword → Entry
  | cmd => .text step.cmd
  | options => .modes step.options
  | target => .text step.target
  | timeout => .duration step.timeout
  | waitBefore => .duration step.waitBefore
  | waitAfter => .duration step.waitAfter
  | noCr => .flag step.noCr

/-- What a clause gives its keyword. -/
def StepClause.entry : StepClause → Entry
  | cmd text => .text (some text)
  | options modes => .modes modes
  | target mode => .text (some mode)
  | timeout ms => .duration (some ms.value)
  | waitBefore ms => .duration (some ms.value)
  | waitAfter ms => .duration (some ms.value)
  | noCr => .flag true

/-- A step has what the clauses give, and is as by default elsewhere. -/
structure Describes (clauses : List StepClause) (step : Step) : Prop where
  given : ∀ clause ∈ clauses, clause.keyword.entry step = clause.entry
  unset : ∀ keyword, keyword ∉ clauses.map StepClause.keyword →
    keyword.entry step = keyword.entry { options := [] }

theorem step_eq_of_entry {s t : Step}
    (h : ∀ keyword : Keyword, keyword.entry s = keyword.entry t) : s = t := by
  cases s
  cases t
  congr
  · exact Entry.text.inj (h .cmd)
  · exact Entry.flag.inj (h .noCr)
  · exact Entry.duration.inj (h .waitBefore)
  · exact Entry.duration.inj (h .waitAfter)
  · exact Entry.duration.inj (h .timeout)
  · exact Entry.modes.inj (h .options)
  · exact Entry.text.inj (h .target)

section

variable {clauses clauses' : List StepClause} {s t : Step}

/-- Clauses describe one step at most. -/
theorem Describes.unique (hs : Describes clauses s) (ht : Describes clauses t) : s = t := by
  refine step_eq_of_entry fun keyword => ?_
  by_cases hkeyword : keyword ∈ clauses.map StepClause.keyword
  · obtain ⟨clause, hclause, rfl⟩ := List.mem_map.mp hkeyword
    rw [hs.given clause hclause, ht.given clause hclause]
  · rw [hs.unset keyword hkeyword, ht.unset keyword hkeyword]

theorem Describes.perm (hs : Describes clauses s) (hperm : clauses'.Perm clauses) :
    Describes clauses' s where
  given clause hclause := hs.given clause (hperm.mem_iff.mp hclause)
  unset keyword hkeyword := hs.unset keyword fun h =>
    hkeyword ((hperm.map StepClause.keyword).mem_iff.mpr h)

/-! ## 2. Clauses one after the other -/

theorem entry_apply (clause : StepClause) (s : Step) :
    clause.keyword.entry (clause.apply s) = clause.entry := by
  cases clause <;> rfl

theorem entry_apply_of_ne {keyword : Keyword} {clause : StepClause} (h : keyword ≠ clause.keyword)
    (s : Step) : keyword.entry (clause.apply s) = keyword.entry s := by
  cases clause <;> cases keyword <;> first | rfl | exact absurd rfl h

/-- Clauses with other keywords leave an entry alone. -/
theorem entry_foldl_of_notMem {keyword : Keyword}
    (h : keyword ∉ clauses.map StepClause.keyword) (s : Step) :
    keyword.entry (clauses.foldl StepClause.apply s) = keyword.entry s := by
  induction clauses generalizing s with
  | nil => rfl
  | cons clause rest ih =>
    rw [List.map_cons, List.mem_cons, not_or] at h
    rw [List.foldl_cons, ih h.2, entry_apply_of_ne h.1]

/-- No clause undoes another if all have keywords of their own. -/
theorem entry_foldl_of_mem (hdistinct : (clauses.map StepClause.keyword).Nodup)
    {clause : StepClause} (hclause : clause ∈ clauses) (s : Step) :
    clause.keyword.entry (clauses.foldl StepClause.apply s) = clause.entry := by
  induction clauses generalizing s with
  | nil => cases hclause
  | cons first rest ih =>
    rw [List.map_cons, List.nodup_cons] at hdistinct
    rw [List.foldl_cons]
    rcases List.mem_cons.mp hclause with rfl | hrest
    · rw [entry_foldl_of_notMem hdistinct.1, entry_apply]
    · exact ih hdistinct.2 hrest _

theorem describes_ofClauses (h : Admissible clauses) :
    Describes clauses (Step.ofClauses clauses) where
  given _ hclause := entry_foldl_of_mem h.distinct hclause _
  unset keyword hkeyword := by
    have hoptions : keyword ≠ .options := by
      rintro rfl
      obtain ⟨modes, hmodes⟩ := h.options
      exact hkeyword (List.mem_map_of_mem hmodes)
    rw [Step.ofClauses, entry_foldl_of_notMem hkeyword]
    -- the options are the only entry that the fold does not begin with by default
    cases keyword <;> first | rfl | exact absurd rfl hoptions

/-! ## 3. Calls -/

/-- A numeral can be passed as a natural number of 64 bits. -/
structure Numeral.Fits (n : Numeral) : Prop where
  unsigned : n.negative = false
  suffix : n.suffix = "" ∨ n.suffix = "u64"
  bound : n.value ≤ Text.maxNat64

/-- The number of a clause, if it has one, can be passed on. -/
def StepClause.Fits : StepClause → Prop
  | timeout ms | waitBefore ms | waitAfter ms => ms.Fits
  | _ => True

theorem word64?_eq_some_iff {n : Numeral} {m : Nat} :
    n.word64? = some m ↔ n.Fits ∧ n.value = m := by
  have hfits : (!n.negative && (n.suffix == "" || n.suffix == "u64") &&
      decide (n.value ≤ Text.maxNat64)) = true ↔ n.Fits := by
    rw [Bool.and_eq_true, Bool.and_eq_true, Bool.not_eq_true', Bool.or_eq_true, beq_iff_eq,
      beq_iff_eq, decide_eq_true_iff]
    exact ⟨fun ⟨⟨hunsigned, hsuffix⟩, hbound⟩ => ⟨hunsigned, hsuffix, hbound⟩,
      fun ⟨hunsigned, hsuffix, hbound⟩ => ⟨⟨hunsigned, hsuffix⟩, hbound⟩⟩
  rw [Numeral.word64?]
  split
  · next h => simp only [Option.some.injEq, hfits.mp h, true_and]
  · next h => simp only [reduceCtorEq, mt hfits.mpr h, false_and]

/-- A call does what its clause says, if its number fits. -/
theorem perform_eq_some_iff {clause : StepClause} {call : String × List Argument}
    (hcall : clause.call? = some call) (s t : Step) :
    perform s call = some t ↔ clause.Fits ∧ clause.apply s = t := by
  cases clause with
  | options modes => cases hcall
  | cmd | target | noCr =>
    cases hcall
    simp only [perform, StepClause.Fits, StepClause.apply, Option.some.injEq, true_and]
  | timeout ms | waitBefore ms | waitAfter ms =>
    cases hcall
    simp only [perform, Option.map_eq_some_iff, word64?_eq_some_iff, StepClause.Fits,
      StepClause.apply, and_assoc, exists_and_left, exists_eq_left']

theorem call?_eq_none_iff {clause : StepClause} :
    clause.call? = none ↔ ∃ modes, clause = .options modes := by
  constructor
  · intro h
    cases clause with
    | options modes => exact ⟨modes, rfl⟩
    | _ => cases h
  · rintro ⟨modes, rfl⟩
    rfl

/-- Calls do what the clauses say, if all numbers fit. The options have to be there from the
    beginning, since no call brings them. -/
theorem foldlM_perform_eq_some_iff
    (hoptions : ∀ modes, .options modes ∈ clauses → s.options = modes) :
    (callsOf clauses).foldlM perform s = some t ↔
      (∀ clause ∈ clauses, clause.Fits) ∧ clauses.foldl StepClause.apply s = t := by
  induction clauses generalizing s with
  | nil => exact ⟨fun h => ⟨nofun, Option.some.inj h⟩, fun h => congrArg some h.2⟩
  | cons clause rest ih =>
    rw [List.forall_mem_cons, List.foldl_cons, callsOf, List.filterMap_cons]
    cases hcall : clause.call? with
    | none =>
      -- options make no call, and say what the step has already
      obtain ⟨modes, rfl⟩ := call?_eq_none_iff.mp hcall
      have hsame : StepClause.apply s (.options modes) = s := by
        rw [← hoptions modes (List.mem_cons_self ..)]
        rfl
      rw [hsame]
      exact (ih fun others h => hoptions others (List.mem_cons_of_mem _ h)).trans
        (and_congr_left fun _ => (and_iff_right trivial).symm)
    | some call =>
      have hkept : (clause.apply s).options = s.options := by
        cases clause with
        | options modes => cases hcall
        | _ => rfl
      have hrest := ih (s := clause.apply s) fun others h => by
        rw [hkept, hoptions others (List.mem_cons_of_mem _ h)]
      rw [List.foldlM_cons]
      constructor
      · intro h
        obtain ⟨u, hnext, ht⟩ := Option.bind_eq_some_iff.mp h
        obtain ⟨hfits, rfl⟩ := (perform_eq_some_iff hcall s u).mp hnext
        obtain ⟨hothers, ht⟩ := hrest.mp ht
        exact ⟨⟨hfits, hothers⟩, ht⟩
      · rintro ⟨⟨hfits, hothers⟩, ht⟩
        have hnext := (perform_eq_some_iff hcall s _).mpr ⟨hfits, rfl⟩
        exact Option.bind_eq_some_iff.mpr ⟨_, hnext, hrest.mpr ⟨hothers, ht⟩⟩

theorem optionsOf_eq {modes : List String} (hdistinct : (clauses.map StepClause.keyword).Nodup)
    (hmodes : .options modes ∈ clauses) : optionsOf clauses = modes := by
  induction clauses with
  | nil => cases hmodes
  | cons clause rest ih =>
    rw [List.map_cons, List.nodup_cons] at hdistinct
    rcases List.mem_cons.mp hmodes with rfl | hrest
    · have hnone : ¬ rest.any (fun c => c.keyword == .options) = true := by
        intro h
        obtain ⟨others, hothers⟩ := any_options_iff.mp h
        exact hdistinct.1 (List.mem_map.mpr ⟨_, hothers, rfl⟩)
      rw [optionsOf, if_neg hnone]
    · have hother : clause.keyword ≠ .options := by
        intro h
        exact hdistinct.1 (h ▸ List.mem_map_of_mem hrest)
      cases clause with
      | options others => exact absurd rfl hother
      | _ => exact ih hdistinct.2 hrest

/-- **The calls of a step build what its clauses describe**, if and only if all numbers fit. -/
theorem ofCalls_eq_some_iff (h : Admissible clauses) :
    Step.ofCalls (optionsOf clauses) (callsOf clauses) = some s ↔
      (∀ clause ∈ clauses, clause.Fits) ∧ Describes clauses s := by
  have hoptions : ∀ modes, .options modes ∈ clauses →
      ({ options := optionsOf clauses } : Step).options = modes :=
    fun modes hmodes => optionsOf_eq h.distinct hmodes
  have hdescribed := describes_ofClauses h
  rw [Step.ofCalls, foldlM_perform_eq_some_iff hoptions]
  refine and_congr_right fun _ => ⟨?_, fun hs => hdescribed.unique hs⟩
  rintro rfl
  exact hdescribed

/-! ## 4. Order -/

theorem Admissible.perm (h : Admissible clauses) (hperm : clauses'.Perm clauses) :
    Admissible clauses' where
  distinct := (hperm.map StepClause.keyword).nodup_iff.mpr h.distinct
  options :=
    let ⟨modes, hmodes⟩ := h.options
    ⟨modes, hperm.mem_iff.mpr hmodes⟩

/-- The same step is built from the same clauses in another order. -/
theorem ofCalls_perm (h : Admissible clauses) (hperm : clauses'.Perm clauses) :
    Step.ofCalls (optionsOf clauses') (callsOf clauses') =
      Step.ofCalls (optionsOf clauses) (callsOf clauses) := by
  refine Option.ext fun step => ?_
  rw [ofCalls_eq_some_iff h, ofCalls_eq_some_iff (h.perm hperm)]
  constructor
  · rintro ⟨hfits, hstep⟩
    exact ⟨fun clause hclause => hfits clause (hperm.mem_iff.mpr hclause), hstep.perm hperm.symm⟩
  · rintro ⟨hfits, hstep⟩
    exact ⟨fun clause hclause => hfits clause (hperm.mem_iff.mp hclause), hstep.perm hperm⟩

theorem Punctuated.exists_piece {α : Type} {mark : Char} {Piece : α → List Tree → Prop}
    {all : List α} {trees : List Tree} (h : Punctuated mark Piece all trees) {a : α}
    (ha : a ∈ all) : ∃ piece, Piece a piece := by
  induction h with
  | nil => cases ha
  | @last a piece hpiece =>
    obtain rfl := List.mem_singleton.mp ha
    exact ⟨piece, hpiece⟩
  | @cons a piece more rest hpiece _ ih =>
    rcases List.mem_cons.mp ha with rfl | hmore
    · exact ⟨piece, hpiece⟩
    · exact ih hmore

/-- An empty list of options cannot be written. -/
theorem Written.modes_ne_nil {trees : List Tree} (h : Written clauses trees) {modes : List String}
    (hmodes : .options modes ∈ clauses) : modes ≠ [] := by
  have hlist : ∃ content, ClauseList clauses content := by
    cases h with
    | bare hlist => exact ⟨_, hlist⟩
    | braced hlist => exact ⟨_, hlist⟩
  obtain ⟨content, hlist⟩ := hlist
  obtain ⟨piece, ⟨hargued⟩⟩ := hlist.exists_piece hmodes
  cases hargued with
  | options _ hne => exact hne

/-- **Trees are read if and only if they spell clauses with keywords of their own, with modes among
    the options. A step is then built if all numbers fit; it has what the clauses give and is as by
    default elsewhere; and another order of the clauses is read as well, and gives the same.** -/
theorem stepClausesOf_expansion (trees : List Tree) (clauses : List StepClause) :
    (stepClausesOf trees = .ok clauses ↔
      Written clauses trees ∧ (clauses.map StepClause.keyword).Nodup ∧
        ∃ modes, modes ≠ [] ∧ .options modes ∈ clauses) ∧
    (stepClausesOf trees = .ok clauses →
      ((∃ step, Step.ofCalls (optionsOf clauses) (callsOf clauses) = some step) ↔
        ∀ clause ∈ clauses, clause.Fits) ∧
      (∀ step, Step.ofCalls (optionsOf clauses) (callsOf clauses) = some step →
        Describes clauses step) ∧
      ∀ clauses' trees', clauses'.Perm clauses → Written clauses' trees' →
        stepClausesOf trees' = .ok clauses' ∧
          Step.ofCalls (optionsOf clauses') (callsOf clauses') =
            Step.ofCalls (optionsOf clauses) (callsOf clauses)) := by
  refine ⟨?_, fun hread => ?_⟩
  · rw [stepClausesOf_eq_ok_iff]
    constructor
    · rintro ⟨hwritten, hdistinct, modes, hmodes⟩
      exact ⟨hwritten, hdistinct, modes, hwritten.modes_ne_nil hmodes, hmodes⟩
    · rintro ⟨hwritten, hdistinct, modes, -, hmodes⟩
      exact ⟨hwritten, hdistinct, modes, hmodes⟩
  · obtain ⟨-, hadmissible⟩ := stepClausesOf_eq_ok_iff.mp hread
    have hbuilt := fun step => ofCalls_eq_some_iff (s := step) hadmissible
    refine ⟨⟨fun ⟨step, h⟩ => ((hbuilt step).mp h).1, fun hfits => ?_⟩,
      fun step h => ((hbuilt step).mp h).2, fun clauses' trees' hperm hwritten => ?_⟩
    · exact ⟨_, (hbuilt _).mpr ⟨hfits, describes_ofClauses hadmissible⟩⟩
    · have hread' := stepClausesOf_eq_ok_iff.mpr ⟨hwritten, hadmissible.perm hperm⟩
      exact ⟨hread', ofCalls_perm hadmissible hperm⟩

end

/-- Clauses in braces, and the same bare, in another order and with a mark behind each last. -/
theorem stepClausesOf_expansion_enable :
    let ms : Numeral := ⟨false, 5000, "u64"⟩
    let braced : List Tree :=
      [.group .curly
        [.token (.word "cmd"), .token (.string "enable"), .token (.mark ';'),
          .token (.word "options"), .group .square [.token (.string "exec")], .token (.mark ';'),
          .token (.word "timeout"), .token (.number ms)]]
    let bare : List Tree :=
      [.token (.word "timeout"), .token (.number ms), .token (.mark ';'),
        .token (.word "options"), .group .square [.token (.string "exec"), .token (.mark ',')],
        .token (.mark ';'), .token (.word "cmd"), .token (.string "enable"), .token (.mark ';')]
    let clauses : List StepClause := [.cmd "enable", .options ["exec"], .timeout ms]
    stepClausesOf braced = .ok clauses ∧ stepClausesOf bare = .ok clauses.reverse ∧
      Step.ofCalls (optionsOf clauses.reverse) (callsOf clauses.reverse) =
        some { cmd := some "enable", timeout := some 5000, options := ["exec"] } := by
  intro ms braced bare clauses
  have hread : stepClausesOf braced = .ok clauses := rfl
  have hcmd : (StepClause.cmd "enable").Spelled [.token (.word "cmd"), .token (.string "enable")] :=
    .clause (.cmd "enable")
  have htimeout : (StepClause.timeout ms).Spelled [.token (.word "timeout"), .token (.number ms)] :=
    .clause (.timeout (.plain ms))
  have hmodes : ModeList ["exec"] [.token (.string "exec"), .token (.mark ',')] :=
    Punctuated.cons (Quoted.mode "exec") .nil
  have hoptions : (StepClause.options ["exec"]).Spelled [.token (.word "options"),
      .group .square [.token (.string "exec"), .token (.mark ',')]] :=
    .clause (.options hmodes (List.cons_ne_nil _ _))
  have hbare : Written clauses.reverse bare :=
    .bare (Punctuated.cons htimeout (Punctuated.cons hoptions (Punctuated.cons hcmd .nil)))
  have h := ((stepClausesOf_expansion braced clauses).2 hread).2.2
  obtain ⟨hread', hsame⟩ := h clauses.reverse bare (List.reverse_perm clauses) hbare
  exact ⟨hread, hread', hsame⟩

end DeviceCli.Clause
