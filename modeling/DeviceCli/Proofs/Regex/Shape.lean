import DeviceCli.Proofs.Except
import DeviceCli.Regex.Basic

/-!
# The shape of compiled patterns

The captures of a pattern are numbered from one, so only what `Node.compile` puts around a pattern
notes where the whole match begins and ends. Programs have the shape `Program.Framed`: a run notes
where it begins, then goes through the instructions of the pattern, and notes where it ends just
before it accepts.

* `Expr.Numbered` and `Node.Numbered`: captures are numbered from one;
* `Code.Grows`: what compiling a part of a pattern adds to the instructions;
* `Regex.framed_of_compileWith`: **the programs of patterns are framed.**
-/

namespace DeviceCli.Regex

open DeviceCli.Text

/-! ## 1. Captures -/

/-- No capture of an expression has the number of the whole match. -/
def Expr.Numbered : Expr → Prop
  | .seq a b => a.Numbered ∧ b.Numbered
  | .alt a b => a.Numbered ∧ b.Numbered
  | .repeats _ _ body => body.Numbered
  | .group _ body => body.Numbered
  | .capture index body => index ≠ 0 ∧ body.Numbered
  | _ => True

theorem numbered_seqOnto {tail : Expr} {items : List Expr} (htail : tail.Numbered)
    (hitems : ∀ e ∈ items, e.Numbered) : (seqOnto tail items).Numbered := by
  induction items generalizing tail with
  | nil => exact htail
  | cons e before ih =>
    obtain ⟨he, hbefore⟩ := List.forall_mem_cons.mp hitems
    exact ih ⟨he, htail⟩ hbefore

theorem numbered_seqOf {items : List Expr} (hitems : ∀ e ∈ items, e.Numbered) :
    (seqOf items).Numbered := by
  cases items with
  | nil => trivial
  | cons e before =>
    obtain ⟨he, hbefore⟩ := List.forall_mem_cons.mp hitems
    exact numbered_seqOnto he hbefore

theorem numbered_altOnto {tail : Expr} {branches : List Expr} (htail : tail.Numbered)
    (hbranches : ∀ e ∈ branches, e.Numbered) : (altOnto tail branches).Numbered := by
  induction branches generalizing tail with
  | nil => exact htail
  | cons e before ih =>
    obtain ⟨he, hbefore⟩ := List.forall_mem_cons.mp hbranches
    exact ih ⟨he, htail⟩ hbefore

/-- No capture among what is known of an open group has that number. -/
structure OpenGroup.Numbered (g : OpenGroup) : Prop where
  head : ∀ body : Expr, body.Numbered → (g.head.close body).Numbered
  branches : ∀ e ∈ g.branches, e.Numbered
  items : ∀ e ∈ g.items, e.Numbered

theorem numbered_assemble {tokens : List Token} {n : Nat} {outer : List OpenGroup}
    {branches items : List Expr} {e : Expr} (hn : n ≠ 0) (houter : ∀ g ∈ outer, g.Numbered)
    (hbranches : ∀ e ∈ branches, e.Numbered) (hitems : ∀ e ∈ items, e.Numbered)
    (h : assemble tokens n outer branches items = .ok e) : e.Numbered := by
  have hnone : ∀ e ∈ ([] : List Expr), e.Numbered := fun e he => nomatch he
  have hwhole : ∀ {branches items : List Expr}, (∀ e ∈ branches, e.Numbered) →
      (∀ e ∈ items, e.Numbered) → (altOnto (seqOf items) branches).Numbered :=
    fun hb hi => numbered_altOnto (numbered_seqOf hi) hb
  induction tokens generalizing n outer branches items with
  | nil =>
    cases outer with
    | nil =>
      cases h
      exact hwhole hbranches hitems
    | cons g outer => cases h
  | cons token rest ih =>
    have hitem : ∀ e : Expr, e.Numbered → assemble rest n outer branches (e :: items) = .ok _ → _ :=
      fun e he => ih hn houter hbranches (List.forall_mem_cons.mpr ⟨he, hitems⟩)
    cases token with
    | close =>
      cases outer with
      | nil => cases h
      | cons g outer =>
        obtain ⟨hg, houter⟩ := List.forall_mem_cons.mp houter
        exact ih hn houter hg.branches
          (List.forall_mem_cons.mpr ⟨hg.head _ (hwhole hbranches hitems), hg.items⟩) h
    | openGroup kind =>
      cases kind with
      | capture name =>
        have hg : OpenGroup.Numbered ⟨.capture n, branches, items⟩ :=
          ⟨fun body hbody => ⟨hn, hbody⟩, hbranches, hitems⟩
        exact ih (Nat.succ_ne_zero n) (List.forall_mem_cons.mpr ⟨hg, houter⟩) hnone hnone h
      | plain flags =>
        have hg : OpenGroup.Numbered ⟨.plain flags, branches, items⟩ :=
          ⟨fun body hbody => hbody, hbranches, hitems⟩
        exact ih hn (List.forall_mem_cons.mpr ⟨hg, houter⟩) hnone hnone h
    | bar =>
      exact ih hn houter (List.forall_mem_cons.mpr ⟨numbered_seqOf hitems, hbranches⟩) hnone h
    | repeats count greedy =>
      cases items with
      | nil => cases h
      | cons e before =>
        obtain ⟨he, hbefore⟩ := List.forall_mem_cons.mp hitems
        have hrepeated : (Expr.repeats count greedy e).Numbered := he
        rw [assemble] at h
        split at h
        · exact ih hn houter hbranches (List.forall_mem_cons.mpr ⟨hrepeated, hbefore⟩) h
        · cases h
    | flags f => exact hitem (.flags f) trivial h
    | char c => exact hitem (.char c) trivial h
    | byte c => exact hitem (.byte c) trivial h
    | dot => exact hitem .dot trivial h
    | anchor a => exact hitem (.anchor a) trivial h
    | set s => exact hitem (.set s) trivial h

/-- What a pattern must be to be read. -/
theorem parse_eq_ok_iff {pattern : List Char} {e : Expr} :
    parse pattern = .ok e ↔ ∃ tokens, tokenize pattern = .ok tokens ∧
      allDifferent (captureNames tokens) = true ∧ assemble tokens 1 [] [] [] = .ok e ∧
      e.nesting .none ≤ nestLimit := by
  constructor
  · intro h
    obtain ⟨tokens, htokens, h⟩ := Except.bind_eq_ok_iff.mp h
    cases hnames : allDifferent (captureNames tokens) with
    | false =>
      rw [hnames] at h
      cases h
    | true =>
      rw [hnames] at h
      obtain ⟨e', hassemble, h⟩ := Except.bind_eq_ok_iff.mp h
      split at h
      · cases h
      · next hdeep =>
        cases h
        exact ⟨tokens, htokens, hnames, hassemble, Nat.le_of_not_lt hdeep⟩
  · rintro ⟨tokens, htokens, hnames, hassemble, hdeep⟩
    rw [parse, htokens]
    show (if (!allDifferent (captureNames tokens)) = true then _ else _) = _
    rw [hnames, if_neg (by decide)]
    show (assemble tokens 1 [] [] [] >>= _) = _
    rw [hassemble]
    exact if_neg (Nat.not_lt.mpr hdeep)

theorem numbered_parse {pattern : List Char} {e : Expr} (h : parse pattern = .ok e) :
    e.Numbered := by
  obtain ⟨tokens, -, -, h, -⟩ := parse_eq_ok_iff.mp h
  refine numbered_assemble Nat.one_ne_zero ?_ ?_ ?_ h <;> exact fun _ h => nomatch h

/-! ## 2. Nodes -/

namespace Node

/-- No capture of a pattern has the number of the whole match. -/
def Numbered : Node → Prop
  | capture index body => index ≠ 0 ∧ body.Numbered
  | repeats _ _ body => body.Numbered
  | seq a b => a.Numbered ∧ b.Numbered
  | alt a b => a.Numbered ∧ b.Numbered
  | _ => True

theorem numbered_ofSet (s : CodeSet) : (ofSet s).Numbered := by
  rw [ofSet]
  split <;> trivial

theorem numbered_literalThen (chars : List Char) {node : Node} (h : node.Numbered) :
    (literalThen chars node).Numbered := by
  fun_cases literalThen chars node with
  | case1 | case2 => trivial
  | case3 more rest => exact ⟨trivial, h.2⟩
  | case4 => exact ⟨trivial, h⟩

theorem numbered_concat {a b : Node} (ha : a.Numbered) (hb : b.Numbered) :
    (a.concat b).Numbered := by
  fun_induction concat a b with
  | case1 => exact hb
  | case2 chars b => exact numbered_literalThen chars hb
  | case3 first rest b ihrest ihfirst => exact ihfirst ha.1 (ihrest ha.2 hb)
  | case4 => exact ha
  | case5 => exact ⟨ha, hb⟩

theorem numbered_of_mem_items {node item : Node} (h : node.Numbered) (hitem : item ∈ node.items) :
    item.Numbered := by
  fun_induction items node with
  | case1 first rest ih =>
    rcases List.mem_cons.mp hitem with rfl | hitem
    · exact h.1
    · exact ih h.2 hitem
  | case2 => exact List.mem_singleton.mp hitem ▸ h

theorem numbered_row {list : List Node} (h : ∀ node ∈ list, node.Numbered) :
    (row list).Numbered := by
  induction list with
  | nil => trivial
  | cons node rest ih =>
    obtain ⟨hnode, hrest⟩ := List.forall_mem_cons.mp h
    exact numbered_concat hnode (ih hrest)

theorem numbered_of_mem_branches {node branch : Node} (h : node.Numbered)
    (hbranch : branch ∈ node.branches) : branch.Numbered := by
  fun_induction branches node with
  | case1 first rest ih =>
    rcases List.mem_cons.mp hbranch with rfl | hbranch
    · exact h.1
    · exact ih h.2 hbranch
  | case2 => exact List.mem_singleton.mp hbranch ▸ h

theorem numbered_altOf {list : List Node} (h : ∀ node ∈ list, node.Numbered) :
    (altOf list).Numbered := by
  fun_induction altOf list with
  | case1 => trivial
  | case2 node => exact h node List.mem_cons_self
  | case3 node rest _ ih =>
    obtain ⟨hnode, hrest⟩ := List.forall_mem_cons.mp h
    exact ⟨hnode, ih hrest⟩

theorem numbered_of_mem_row? {node : Node} {list : List Node} (h : node.Numbered)
    (hlist : node.row? = some list) : ∀ item ∈ list, item.Numbered := by
  cases node with
  | seq first rest =>
    cases hlist
    exact fun item hitem => numbered_of_mem_items h hitem
  | _ => cases hlist

theorem mem_of_mem_common {a b : List Node} {node : Node} (h : node ∈ common a b) : node ∈ a := by
  fun_induction common a b with
  | case1 a as bs ih =>
    rcases List.mem_cons.mp h with rfl | h
    · exact List.mem_cons_self
    · exact List.mem_cons_of_mem _ (ih h)
  | case2 | case3 => cases h

theorem mem_of_mem_foldl_common {rows : List (List Node)} {first : List Node} {node : Node}
    (h : node ∈ rows.foldl common first) : node ∈ first := by
  induction rows generalizing first with
  | nil => exact h
  | cons row rows ih => exact mem_of_mem_common (ih h)

theorem exists_of_mem_mapM {α β : Type} {f : α → Option β} {list : List α} {results : List β}
    (h : list.mapM f = some results) {b : β} (hb : b ∈ results) : ∃ a ∈ list, f a = some b := by
  induction list generalizing results with
  | nil =>
    cases h
    cases hb
  | cons a rest ih =>
    rw [List.mapM_cons] at h
    obtain ⟨first, hfirst, h⟩ := Option.bind_eq_some_iff.mp h
    obtain ⟨more, hmore, h⟩ := Option.bind_eq_some_iff.mp h
    cases h
    rcases List.mem_cons.mp hb with rfl | hb
    · exact ⟨a, List.mem_cons_self, hfirst⟩
    · obtain ⟨a', ha', hf⟩ := ih hmore hb
      exact ⟨a', List.mem_cons_of_mem a ha', hf⟩

theorem numbered_of_mem_commonFront {rows : List (List Node)}
    (h : ∀ row ∈ rows, ∀ item ∈ row, item.Numbered) {item : Node} (hitem : item ∈ commonFront rows) :
    item.Numbered := by
  cases rows with
  | nil => cases hitem
  | cons first rest => exact h first List.mem_cons_self item (mem_of_mem_foldl_common hitem)

theorem numbered_alternationWithin (fuel : Nat) {list : List Node}
    (h : ∀ node ∈ list, node.Numbered) : (alternationWithin fuel list).Numbered := by
  induction fuel generalizing list with
  | zero => exact numbered_altOf h
  | succ fuel ih =>
    have hflat : ∀ node ∈ list.flatMap branches, node.Numbered := fun node hnode => by
      obtain ⟨whole, hwhole, hbranch⟩ := List.mem_flatMap.mp hnode
      exact numbered_of_mem_branches (h whole hwhole) hbranch
    rw [alternationWithin]
    split
    · trivial
    · next node hone => exact hflat node (hone ▸ List.mem_cons_self)
    · split
      · exact numbered_ofSet _
      · split
        · exact numbered_ofSet _
        · split
          · exact numbered_altOf hflat
          · next rows hrows =>
            have hitems : ∀ r ∈ rows, ∀ item ∈ r, item.Numbered := fun r hr => by
              obtain ⟨node, hnode, hrow⟩ := exists_of_mem_mapM hrows hr
              exact numbered_of_mem_row? (hflat node hnode) hrow
            split
            · exact numbered_altOf hflat
            · refine numbered_concat (numbered_row fun item hitem => ?_) (ih fun node hnode => ?_)
              · exact numbered_of_mem_commonFront hitems hitem
              · obtain ⟨r, hr, rfl⟩ := List.mem_map.mp hnode
                exact numbered_row fun item hitem => hitems r hr item (List.mem_of_mem_drop hitem)

theorem numbered_alternation {list : List Node} (h : ∀ node ∈ list, node.Numbered) :
    (alternation list).Numbered := by
  fun_cases alternation list with
  | case1 node => exact h node List.mem_cons_self
  | case2 => exact numbered_alternationWithin _ h

theorem numbered_repetition (count : Count) (greedy : Bool) {body : Node} (h : body.Numbered) :
    (repetition count greedy body).Numbered := by
  fun_cases repetition count greedy body with
  | case1 => trivial
  | case2 => exact h
  | case3 => exact h

end Node

theorem numbered_charNode (f : Flags) (c : Char) : (charNode f c).Numbered := by
  fun_cases charNode f c with
  | case1 | case2 => exact Node.numbered_ofSet _
  | case3 | case4 => trivial

/-- Applying flags keeps the captures and their numbers, or leaves captures out. -/
theorem numbered_resolveBranches {e : Expr} {f after : Flags} {nodes : List Node}
    (he : e.Numbered) (h : e.resolveBranches f = .ok (nodes, after)) :
    ∀ node ∈ nodes, node.Numbered := by
  have hone : ∀ {node : Node}, node.Numbered → ∀ other ∈ [node], other.Numbered :=
    fun h other hother => List.mem_singleton.mp hother ▸ h
  induction e generalizing f nodes after with
  | empty | flags | anchor =>
    cases h
    exact hone trivial
  | char c =>
    cases h
    exact hone (numbered_charNode f c)
  | byte c =>
    rw [Expr.resolveBranches] at h
    split at h
    · cases h
      exact hone (numbered_charNode f c)
    · cases h
  | dot | set =>
    obtain ⟨members, -, h⟩ := Except.bind_eq_ok_iff.mp h
    cases h
    exact hone (Node.numbered_ofSet members)
  | repeats count greedy body ih =>
    obtain ⟨⟨inner, after'⟩, hinner, h⟩ := Except.bind_eq_ok_iff.mp h
    cases h
    exact hone (Node.numbered_repetition _ _ (Node.numbered_alternation (ih he hinner)))
  | capture index body ih =>
    obtain ⟨⟨inner, after'⟩, hinner, h⟩ := Except.bind_eq_ok_iff.mp h
    cases h
    exact hone ⟨he.1, Node.numbered_alternation (ih he.2 hinner)⟩
  | group items body ih =>
    obtain ⟨⟨inner, after'⟩, hinner, h⟩ := Except.bind_eq_ok_iff.mp h
    cases h
    exact hone (Node.numbered_alternation (ih he hinner))
  | seq a b iha ihb =>
    obtain ⟨⟨first, between⟩, ha, h⟩ := Except.bind_eq_ok_iff.mp h
    obtain ⟨⟨second, after'⟩, hb, h⟩ := Except.bind_eq_ok_iff.mp h
    cases h
    exact hone (Node.numbered_concat (Node.numbered_alternation (iha he.1 ha))
      (Node.numbered_alternation (ihb he.2 hb)))
  | alt a b iha ihb =>
    obtain ⟨⟨first, between⟩, ha, h⟩ := Except.bind_eq_ok_iff.mp h
    obtain ⟨⟨second, after'⟩, hb, h⟩ := Except.bind_eq_ok_iff.mp h
    cases h
    exact List.forall_mem_append.mpr ⟨iha he.1 ha, ihb he.2 hb⟩

theorem numbered_resolve {e : Expr} {f : Flags} {node : Node} (he : e.Numbered)
    (h : e.resolve f = .ok node) : node.Numbered := by
  obtain ⟨⟨nodes, after⟩, hnodes, h⟩ := Except.bind_eq_ok_iff.mp h
  cases h
  exact Node.numbered_alternation (numbered_resolveBranches he hnodes)

/-! ## 3. What compiling adds -/

/-- The instructions that one may go on to. -/
def Inst.targets : Inst → List Nat
  | char _ next => [next]
  | take _ next => [next]
  | look _ next => [next]
  | save _ next => [next]
  | split first second => [first, second]
  | accept => []

/-- An instruction of a part of a pattern: it does not accept, it goes on within the first `n`
    instructions but not to the first of all, and what it notes is no end of the whole match. -/
structure Inst.Inner (n : Nat) (inst : Inst) : Prop where
  not_accept : inst ≠ .accept
  within : ∀ target ∈ inst.targets, target ≠ 0 ∧ target < n
  slots : ∀ slot next, inst = .save slot next → 2 ≤ slot

theorem Inst.Inner.mono {n m : Nat} {inst : Inst} (h : inst.Inner n) (hle : n ≤ m) :
    inst.Inner m where
  not_accept := h.not_accept
  within target ht := ⟨(h.within target ht).1, Nat.lt_of_lt_of_le (h.within target ht).2 hle⟩
  slots := h.slots

namespace Code

/-- What compiling a part of a pattern adds to the instructions: those that are there stay, and the
    new ones belong to a part of a pattern. -/
structure Grows (insts : Array Inst) (code : Code) : Prop where
  le : insts.size ≤ code.insts.size
  old : ∀ i < insts.size, code.insts[i]? = insts[i]?
  new : ∀ i inst, insts.size ≤ i → code.insts[i]? = some inst → inst.Inner code.insts.size
  start : code.start ≠ 0 ∧ code.start < code.insts.size

/-- A part of a pattern is compiled so, wherever it is to go on. -/
def Adds (emit : Nat → Array Inst → Code) : Prop :=
  ∀ next insts, next ≠ 0 → next < insts.size → Grows insts (emit next insts)

theorem Grows.refl {insts : Array Inst} {next : Nat} (hnext : next ≠ 0) (hlt : next < insts.size) :
    Grows insts ⟨insts, next⟩ where
  le := Nat.le_refl _
  old _ _ := rfl
  new i inst hi h := by
    rw [Array.getElem?_eq_none hi] at h
    cases h
  start := ⟨hnext, hlt⟩

/-- First one part, then another behind it. -/
theorem Grows.trans {insts : Array Inst} {first second : Code} (h : Grows insts first)
    (h' : Grows first.insts second) : Grows insts second where
  le := Nat.le_trans h.le h'.le
  old i hi := (h'.old i (Nat.lt_of_lt_of_le hi h.le)).trans (h.old i hi)
  new i inst hi hinst := by
    rcases Nat.lt_or_ge i first.insts.size with hlt | hge
    · rw [h'.old i hlt] at hinst
      exact (h.new i inst hi hinst).mono h'.le
    · exact h'.new i inst hge hinst
  start := h'.start

/-- One part behind another that begins where the first one says. -/
theorem Grows.then {insts : Array Inst} {first : Code} {emit : Nat → Array Inst → Code}
    (h : Grows insts first) (hemit : Adds emit) : Grows insts (emit first.start first.insts) :=
  h.trans (hemit first.start first.insts h.start.1 h.start.2)

theorem getElem?_add (insts : Array Inst) (inst : Inst) (i : Nat) :
    (add insts inst).insts[i]? = if i = insts.size then some inst else insts[i]? :=
  Array.getElem?_push

theorem size_add (insts : Array Inst) (inst : Inst) :
    (add insts inst).insts.size = insts.size + 1 :=
  Array.size_push inst

theorem Grows.add {insts : Array Inst} {inst : Inst} (hsize : insts.size ≠ 0)
    (h : inst.Inner (insts.size + 1)) : Grows insts (add insts inst) where
  le := by
    rw [size_add]
    exact Nat.le_succ _
  old i hi := by rw [getElem?_add, if_neg (Nat.ne_of_lt hi)]
  new i other hi hother := by
    rw [getElem?_add] at hother
    split at hother
    · cases hother
      exact (size_add insts inst).symm ▸ h
    · rw [Array.getElem?_eq_none hi] at hother
      cases hother
  start := by
    rw [size_add]
    exact ⟨hsize, Nat.lt_succ_self _⟩

/-- An instruction that goes on at one place. -/
theorem inner_of_targets_eq {n next : Nat} {inst : Inst} (haccept : inst ≠ .accept)
    (htargets : inst.targets = [next]) (hslots : ∀ slot next, inst = .save slot next → 2 ≤ slot)
    (hnext : next ≠ 0) (hlt : next < n) : inst.Inner n where
  not_accept := haccept
  within target ht := by
    rw [htargets] at ht
    exact List.mem_singleton.mp ht ▸ ⟨hnext, hlt⟩
  slots := hslots

theorem inner_choice {n enter leave : Nat} (greedy : Bool) (henter : enter ≠ 0 ∧ enter < n)
    (hleave : leave ≠ 0 ∧ leave < n) : (choice greedy enter leave).Inner n := by
  cases greedy with
  | true => exact ⟨nofun, by simp [choice, Inst.targets, henter, hleave], nofun⟩
  | false => exact ⟨nofun, by simp [choice, Inst.targets, henter, hleave], nofun⟩

variable {body : Nat → Array Inst → Code}

theorem adds_times (h : Adds body) (n : Nat) : Adds (times body n) := by
  induction n with
  | zero => exact fun next insts hnext hlt => .refl hnext hlt
  | succ n ih => exact fun next insts hnext hlt => (h next insts hnext hlt).then ih

theorem grows_upTo (h : Adds body) (greedy : Bool) {leave : Nat} (n : Nat) {next : Nat}
    {insts : Array Inst} (hleave : leave ≠ 0 ∧ leave < insts.size)
    (hnext : next ≠ 0 ∧ next < insts.size) : Grows insts (upTo body greedy leave n next insts) := by
  induction n generalizing next insts with
  | zero => exact .refl hnext.1 hnext.2
  | succ n ih =>
    let inner := body next insts
    have hinner : Grows insts inner := h next insts hnext.1 hnext.2
    have hsize : inner.insts.size ≠ 0 := by
      have := hinner.start
      omega
    have hleave' : leave ≠ 0 ∧ leave < inner.insts.size :=
      ⟨hleave.1, Nat.lt_of_lt_of_le hleave.2 hinner.le⟩
    have henter : Grows inner.insts (Code.add inner.insts (choice greedy inner.start leave)) :=
      .add hsize ((inner_choice greedy hinner.start hleave').mono (Nat.le_succ _))
    exact (hinner.trans henter).trans
      (ih ⟨hleave.1, Nat.lt_of_lt_of_le hleave'.2 henter.le⟩ henter.start)

theorem grows_oneOrMore (h : Adds body) (greedy : Bool) {next : Nat} {insts : Array Inst}
    (hnext : next ≠ 0 ∧ next < insts.size) :
    Grows insts (oneOrMore body greedy next insts) ∧
      insts.size < (oneOrMore body greedy next insts).insts.size := by
  let inner := body insts.size (insts.push .accept)
  have hsize : insts.size ≠ 0 := by omega
  have hinner : Grows (insts.push .accept) inner :=
    h insts.size (insts.push .accept) hsize (by simp)
  have hle : insts.size + 1 ≤ inner.insts.size := by simpa using hinner.le
  have hchoice : (choice greedy inner.start next).Inner inner.insts.size :=
    inner_choice greedy hinner.start ⟨hnext.1, by omega⟩
  have hget : ∀ i, (oneOrMore body greedy next insts).insts[i]? =
      if i = insts.size then some (choice greedy inner.start next) else inner.insts[i]? := by
    intro i
    show (inner.insts.setIfInBounds insts.size _)[i]? = _
    rw [Array.getElem?_setIfInBounds]
    by_cases hi : insts.size = i
    · rw [if_pos hi, if_pos hi.symm, if_pos (by omega)]
    · rw [if_neg hi, if_neg (Ne.symm hi)]
  have hsizes : (oneOrMore body greedy next insts).insts.size = inner.insts.size :=
    Array.size_setIfInBounds
  refine ⟨⟨by omega, fun i hi => ?_, fun i inst hi hinst => ?_, ?_⟩, by omega⟩
  · rw [hget, if_neg (by omega), hinner.old i (by simp; omega), Array.getElem?_push_lt hi]
    simp [hi]
  · rw [hsizes]
    rw [hget] at hinst
    split at hinst
    · cases hinst
      exact hchoice
    · exact hinner.new i inst (by simp; omega) hinst
  · rw [hsizes]
    exact hinner.start

theorem adds_repeated (h : Adds body) (maybeEmpty : Bool) (count : Count) (greedy : Bool) :
    Adds (repeated body maybeEmpty count greedy) := by
  intro next insts hnext hlt
  obtain ⟨hloop, hlonger⟩ := grows_oneOrMore h greedy ⟨hnext, hlt⟩
  fun_cases repeated body maybeEmpty count greedy next insts with
  | case1 most hmost rest =>
    exact (grows_upTo h greedy _ ⟨hnext, hlt⟩ ⟨hnext, hlt⟩).then (adds_times h count.least)
  | case2 hmost hleast loop hempty =>
    have hnext' : next ≠ 0 ∧ next < loop.insts.size := ⟨hnext, Nat.lt_trans hlt hlonger⟩
    refine hloop.trans (.add ?_ ((inner_choice greedy hloop.start hnext').mono (Nat.le_succ _)))
    exact Nat.ne_of_gt (Nat.lt_of_le_of_lt (Nat.zero_le _) hlonger)
  | case3 hmost hleast loop hempty =>
    exact ⟨hloop.le, hloop.old, hloop.new, Nat.ne_of_gt (Nat.lt_of_le_of_lt (Nat.zero_le _) hlt),
      hlonger⟩
  | case4 hmost n hleast loop => exact hloop.then (adds_times h n)

/-- One more instruction, which goes on where the part behind it begins. -/
theorem Grows.cons {insts : Array Inst} {code : Code} (h : Grows insts code) {inst : Inst}
    (haccept : inst ≠ .accept) (htargets : inst.targets = [code.start])
    (hslots : ∀ slot next, inst = .save slot next → 2 ≤ slot) :
    Grows insts (Code.add code.insts inst) := by
  refine h.trans (.add ?_ (inner_of_targets_eq haccept htargets hslots h.start.1 ?_))
  · exact Nat.ne_of_gt (Nat.lt_of_le_of_lt (Nat.zero_le _) h.start.2)
  · exact Nat.lt_succ_of_lt h.start.2

theorem adds_literal (chars : List Char) : Adds (literal chars) := by
  intro next insts hnext hlt
  induction chars with
  | nil => exact .refl hnext hlt
  | cons c rest ih => exact ih.cons nofun rfl nofun

end Code

open Code in
/-- **What compiling a pattern adds**, if its captures are numbered from one. -/
theorem Node.adds_emit {node : Node} (h : node.Numbered) : Adds node.emit := by
  induction node with
  | empty => exact fun next insts hnext hlt => .refl hnext hlt
  | literal chars => exact adds_literal chars
  | set members =>
    exact fun next insts hnext hlt => (Grows.refl hnext hlt).cons nofun rfl nofun
  | look l => exact fun next insts hnext hlt => (Grows.refl hnext hlt).cons nofun rfl nofun
  | capture index body ih =>
    intro next insts hnext hlt
    obtain ⟨hindex, hbody⟩ := h
    have hclose : Grows insts (Code.add insts (.save (2 * index + 1) next)) :=
      (Grows.refl hnext hlt).cons nofun rfl fun slot next heq => by
        cases heq
        omega
    exact (hclose.then (ih hbody)).cons nofun rfl fun slot next heq => by
      cases heq
      omega
  | repeats count greedy body ih => exact adds_repeated (ih h) body.maybeEmpty count greedy
  | seq a b iha ihb =>
    exact fun next insts hnext hlt => (ihb h.2 next insts hnext hlt).then (iha h.1)
  | alt a b iha ihb =>
    intro next insts hnext hlt
    have hsecond : Grows insts (b.emit next insts) := ihb h.2 next insts hnext hlt
    have hfirst : Grows (b.emit next insts).insts (a.emit next (b.emit next insts).insts) :=
      iha h.1 next _ hnext (Nat.lt_of_lt_of_le hlt hsecond.le)
    have hstart := hfirst.start
    refine (hsecond.trans hfirst).trans (.add (by omega) ⟨nofun, ?_, nofun⟩)
    have := hsecond.start
    have := hfirst.le
    intro target htarget
    rcases List.mem_cons.mp htarget with rfl | htarget
    · omega
    · obtain rfl := List.mem_singleton.mp htarget
      omega

/-! ## 4. Programs -/

/-- **The shape of the program of a pattern.** It begins by noting where the match begins, which
    nothing else does or leads back to; it accepts at its first instruction, to which only the one
    leads that notes where the match ends. -/
structure Program.Framed (p : Program) : Prop where
  groups : 0 < p.groups
  accepts : p.insts[0]? = some .accept
  begins : ∃ next, p.insts[p.start]? = some (.save 0 next)
  once : ∀ (i : Nat) inst, p.insts[i]? = some inst → p.start ∉ inst.targets
  noted : ∀ (i : Nat) next, p.insts[i]? = some (.save 0 next) → i = p.start
  last : ∀ i : Nat, p.insts[i]? = some .accept → i = 0
  ends : ∀ (i : Nat) inst, p.insts[i]? = some inst → 0 ∈ inst.targets → inst = .save 1 0

open Code in
theorem Node.framed_compile {node : Node} (h : node.Numbered) : node.compile.Framed := by
  let closed := Code.add #[.accept] (.save 1 0)
  let inner := node.emit 1 closed.insts
  have hinner : Grows closed.insts inner := adds_emit h 1 closed.insts Nat.one_ne_zero (by decide)
  have hle : 2 ≤ inner.insts.size := hinner.le
  have hget : ∀ i, node.compile.insts[i]? =
      if i = inner.insts.size then some (.save 0 inner.start) else inner.insts[i]? :=
    getElem?_add inner.insts (.save 0 inner.start)
  have hstart : node.compile.start = inner.insts.size := rfl
  have hfirst : inner.insts[0]? = some .accept := hinner.old 0 (by decide)
  have hsecond : inner.insts[1]? = some (.save 1 0) := hinner.old 1 (by decide)
  -- The instructions are the two at the end, those of the pattern, and the one it begins with.
  have hcases : ∀ i inst, node.compile.insts[i]? = some inst →
      i = inner.insts.size ∧ inst = .save 0 inner.start ∨ i = 0 ∧ inst = .accept ∨
        i = 1 ∧ inst = .save 1 0 ∨ inst.Inner inner.insts.size := by
    intro i inst hinst
    rw [hget] at hinst
    split at hinst
    · next heq =>
      cases hinst
      exact .inl ⟨heq, rfl⟩
    · match i with
      | 0 => exact .inr (.inl ⟨rfl, Option.some.inj (hinst.symm.trans hfirst)⟩)
      | 1 => exact .inr (.inr (.inl ⟨rfl, Option.some.inj (hinst.symm.trans hsecond)⟩))
      | i + 2 => exact .inr (.inr (.inr (hinner.new (i + 2) inst (Nat.le_add_left 2 i) hinst)))
  refine ⟨Nat.succ_pos _, ?_, ⟨inner.start, ?_⟩, fun i inst hinst htarget => ?_,
    fun i next hinst => ?_, fun i hinst => ?_, fun i inst hinst htarget => ?_⟩
  · rw [hget, if_neg (by omega), hfirst]
  · rw [hget, hstart, if_pos rfl]
  · have hend : inner.start < inner.insts.size := hinner.start.2
    rw [hstart] at htarget
    rcases hcases i inst hinst with ⟨-, rfl⟩ | ⟨-, rfl⟩ | ⟨-, rfl⟩ | hinside
    · have := List.mem_singleton.mp htarget
      omega
    · cases htarget
    · have := List.mem_singleton.mp htarget
      omega
    · exact Nat.lt_irrefl _ (hinside.within _ htarget).2
  · rcases hcases i _ hinst with ⟨hi, -⟩ | ⟨-, hsave⟩ | ⟨-, hsave⟩ | hinside
    · exact hi
    · cases hsave
    · cases hsave
    · exact absurd (hinside.slots 0 next rfl) (by decide)
  · rcases hcases i _ hinst with ⟨-, haccept⟩ | ⟨hi, -⟩ | ⟨-, haccept⟩ | hinside
    · cases haccept
    · exact hi
    · cases haccept
    · exact absurd rfl hinside.not_accept
  · rcases hcases i inst hinst with ⟨-, rfl⟩ | ⟨-, rfl⟩ | ⟨-, rfl⟩ | hinside
    · exact absurd (List.mem_singleton.mp htarget).symm hinner.start.1
    · cases htarget
    · rfl
    · exact absurd rfl (hinside.within 0 htarget).1

end DeviceCli.Regex

namespace DeviceCli

open DeviceCli.Regex

/-- What compiling a pattern takes. -/
theorem Regex.compileWith_eq_ok_iff {flags : Flags} {pattern : List Char} {r : Regex} :
    compileWith flags pattern = .ok r ↔ ∃ e node, parse pattern = .ok e ∧
      e.resolve flags = .ok node ∧ node.tooLarge = false ∧ r = ⟨node.compile⟩ := by
  constructor
  · intro h
    obtain ⟨e, he, h⟩ := Except.bind_eq_ok_iff.mp h
    obtain ⟨node, hnode, h⟩ := Except.bind_eq_ok_iff.mp h
    cases hlarge : node.tooLarge with
    | true =>
      rw [hlarge] at h
      cases h
    | false =>
      rw [hlarge] at h
      cases h
      exact ⟨e, node, Except.mapError_eq_ok_iff.mp he, Except.mapError_eq_ok_iff.mp hnode, hlarge,
        rfl⟩
  · rintro ⟨e, node, he, hnode, hlarge, rfl⟩
    rw [compileWith, he]
    show ((e.resolve flags).mapError Regex.Error.malformed >>= _) = _
    rw [hnode]
    show (if node.tooLarge = true then _ else _) = _
    rw [hlarge]
    rfl

/-- **The programs of patterns are framed.** -/
theorem Regex.framed_of_compileWith {flags : Flags} {pattern : List Char} {r : Regex}
    (h : compileWith flags pattern = .ok r) : r.program.Framed := by
  obtain ⟨e, node, he, hnode, -, rfl⟩ := compileWith_eq_ok_iff.mp h
  exact Node.framed_compile (numbered_resolve (numbered_parse he) hnode)

end DeviceCli
