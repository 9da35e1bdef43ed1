import DeviceCli.Proofs.Regex.Shape

/-!
# Runs of a program

`Program.Reached` says what a run of a program is, one step after the other, without any order among
runs. A run that matches has noted where it began and where it ended.

* `Program.Reached`, `MatchesWith` and `Matches`: runs, and the matches that they come to;
* `Program.Framed.noted_of_matchesWith`: **what a run that matches has noted.**
-/

namespace DeviceCli.Regex

/-! ## 1. Runs -/

/-- What is seen at a position of a text. -/
def viewAt (text : List Char) (pos : Nat) : View := ⟨pos, (text.take pos).getLast?, text[pos]?⟩

namespace Program

variable (p : Program)

/-- The threads that one without a character is followed by, the most preferred first. -/
def silent (v : View) (t : Thread) : List Thread :=
  match p.insts[t.pc]? with
  | some (.look l next) => if l.holds v then [⟨next, t.slots⟩] else []
  | some (.save slot next) => [⟨next, t.slots.note slot v.pos⟩]
  | some (.split first second) => [⟨first, t.slots⟩, ⟨second, t.slots⟩]
  | _ => []

/-- The thread behind a character, if that one is taken. -/
def taken (c : Char) (t : Thread) : Option Thread :=
  match p.insts[t.pc]? with
  | some (.char d next) => if c = d then some ⟨next, t.slots⟩ else none
  | some (.take members next) => if members.has c then some ⟨next, t.slots⟩ else none
  | _ => none

/-- Whether a thread stays where it is until a character comes, or has matched. -/
def rests (pc : Nat) : Bool :=
  match p.insts[pc]? with
  | some (.char _ _) => true
  | some (.take _ _) => true
  | some .accept => true
  | _ => false

/-- **Runs**: a thread that began at `first` has come to a position. -/
inductive Reached (text : List Char) (first : Nat) : Nat → Thread → Prop
  | begin (h : first ≤ text.length) : Reached text first first ⟨p.start, []⟩
  | silent {pos t u} (h : Reached text first pos t) (hu : u ∈ p.silent (viewAt text pos) t) :
      Reached text first pos u
  | take {pos t u c} (h : Reached text first pos t) (hc : text[pos]? = some c)
      (hu : p.taken c t = some u) : Reached text first (pos + 1) u

/-- A run from `first` to `last` matches and has noted the slots. -/
def MatchesWith (text : List Char) (first last : Nat) (slots : Slots) : Prop :=
  ∃ pc, p.Reached text first last ⟨pc, slots⟩ ∧ p.insts[pc]? = some .accept

/-- **The program matches the text from `first` to `last`.** -/
def Matches (text : List Char) (first last : Nat) : Prop :=
  ∃ slots, p.MatchesWith text first last slots

variable {p} {text : List Char} {first pos : Nat} {t : Thread}

theorem Reached.first_le (h : p.Reached text first pos t) : first ≤ pos := by
  induction h with
  | begin => exact Nat.le_refl _
  | silent _ _ ih => exact ih
  | take _ _ _ ih => exact Nat.le_succ_of_le ih

theorem Reached.le_length (h : p.Reached text first pos t) : pos ≤ text.length := by
  induction h with
  | begin h => exact h
  | silent _ _ ih => exact ih
  | take _ hc _ _ => exact (List.getElem?_eq_some_iff.mp hc).1

/-- A run is at a position because it began there or took the character in front of it, and went on
    without a character. -/
theorem Reached.arrive {P : Thread → Prop} (h : p.Reached text first pos t)
    (hbegin : first = pos → P ⟨p.start, []⟩)
    (htake : ∀ {before t c u}, pos = before + 1 → p.Reached text first before t →
      text[before]? = some c → p.taken c t = some u → P u)
    (hsilent : ∀ {t u}, P t → u ∈ p.silent (viewAt text pos) t → P u) : P t := by
  induction h with
  | begin => exact hbegin rfl
  | silent _ hu ih => exact hsilent (ih hbegin htake hsilent) hu
  | take h hc hu _ => exact htake rfl h hc hu

/-! ## 2. What runs note -/

theorem lookup_note (slots : Slots) (slot pos k : Nat) :
    (slots.note slot pos).lookup k = if k = slot then some pos else slots.lookup k := by
  have hfilter : k ≠ slot → (slots.filter (·.1 != slot)).lookup k = slots.lookup k := by
    intro hk
    induction slots with
    | nil => rfl
    | cons e rest ih =>
      obtain ⟨slot', pos'⟩ := e
      by_cases hslot : slot' = slot
      · have hk' : (k == slot') = false := beq_eq_false_iff_ne.mpr fun e => hk (e.trans hslot)
        simp [hslot, List.lookup_cons, ih, hslot ▸ hk']
      · simp [hslot, List.lookup_cons, ih]
  rw [Slots.note, List.lookup_cons]
  by_cases hk : k = slot
  · simp [hk]
  · simp [hk, beq_eq_false_iff_ne.mpr hk, hfilter hk]

/-- How a thread goes on: it notes a position, or its slots stay as they are. -/
theorem silent_cases {v : View} {u : Thread} (h : u ∈ p.silent v t) :
    (∃ slot next, p.insts[t.pc]? = some (.save slot next) ∧ u = ⟨next, t.slots.note slot v.pos⟩) ∨
      ∃ inst, p.insts[t.pc]? = some inst ∧ (∀ slot next, inst ≠ .save slot next) ∧
        u.pc ∈ inst.targets ∧ u.slots = t.slots := by
  rw [silent] at h
  split at h
  · next l next hinst =>
    split at h
    · obtain rfl := List.mem_singleton.mp h
      exact .inr ⟨_, hinst, nofun, List.mem_singleton_self next, rfl⟩
    · cases h
  · next slot next hinst => exact .inl ⟨slot, next, hinst, List.mem_singleton.mp h⟩
  · next a b hinst =>
    rcases List.mem_cons.mp h with rfl | h
    · exact .inr ⟨_, hinst, nofun, List.mem_cons_self, rfl⟩
    · obtain rfl := List.mem_singleton.mp h
      exact .inr ⟨_, hinst, nofun, List.mem_cons_of_mem _ (List.mem_singleton_self b), rfl⟩
  · cases h

theorem taken_cases {c : Char} {u : Thread} (h : p.taken c t = some u) :
    ∃ inst, p.insts[t.pc]? = some inst ∧ (∀ slot next, inst ≠ .save slot next) ∧
      u.pc ∈ inst.targets ∧ u.slots = t.slots := by
  rw [taken] at h
  split at h
  · next d next hinst =>
    split at h
    · cases h
      exact ⟨_, hinst, nofun, List.mem_singleton_self next, rfl⟩
    · cases h
  · next members next hinst =>
    split at h
    · cases h
      exact ⟨_, hinst, nofun, List.mem_singleton_self next, rfl⟩
    · cases h
  · cases h

/-- A run has noted where it began, unless it is about to. -/
theorem Framed.noted_first (hp : p.Framed) (h : p.Reached text first pos t) :
    (t = ⟨p.start, []⟩ ∧ pos = first) ∨ (t.pc ≠ p.start ∧ t.slots.lookup 0 = some first) := by
  obtain ⟨next₀, hbegins⟩ := hp.begins
  induction h with
  | begin => exact .inl ⟨rfl, rfl⟩
  | @silent pos t u _ hu ih =>
    right
    rcases silent_cases hu with ⟨slot, next, hinst, rfl⟩ | ⟨inst, hinst, hsave, htarget, hslots⟩
    · have hleaves : next ≠ p.start := fun e =>
        hp.once _ _ hinst (e ▸ List.mem_singleton_self next)
      refine ⟨hleaves, ?_⟩
      rw [lookup_note]
      rcases ih with ⟨rfl, rfl⟩ | ⟨hpc, hfirst⟩
      · obtain ⟨rfl, -⟩ := Inst.save.inj (Option.some.inj (hinst.symm.trans hbegins))
        rfl
      · have hslot : 0 ≠ slot := fun e => hpc (hp.noted _ next (e ▸ hinst))
        rw [if_neg hslot, hfirst]
    · rcases ih with ⟨rfl, rfl⟩ | ⟨hpc, hfirst⟩
      · exact absurd (Option.some.inj (hinst.symm.trans hbegins)) (hsave 0 next₀)
      · exact ⟨fun e => hp.once _ _ hinst (e ▸ htarget), hslots ▸ hfirst⟩
  | @take pos t u c _ _ hu ih =>
    right
    obtain ⟨inst, hinst, hsave, htarget, hslots⟩ := taken_cases hu
    rcases ih with ⟨rfl, rfl⟩ | ⟨hpc, hfirst⟩
    · exact absurd (Option.some.inj (hinst.symm.trans hbegins)) (hsave 0 next₀)
    · exact ⟨fun e => hp.once _ _ hinst (e ▸ htarget), hslots ▸ hfirst⟩

theorem Framed.first_of_rests (hp : p.Framed) (h : p.Reached text first pos t)
    (hrests : p.rests t.pc = true) : t.slots.lookup 0 = some first := by
  rcases hp.noted_first h with ⟨rfl, rfl⟩ | ⟨-, hfirst⟩
  · obtain ⟨next₀, hbegins⟩ := hp.begins
    simp [rests, hbegins] at hrests
  · exact hfirst

/-- A run that matches has noted its two ends. -/
theorem Framed.noted_of_matchesWith (hp : p.Framed) {last : Nat} {slots : Slots}
    (h : p.MatchesWith text first last slots) :
    slots.lookup 0 = some first ∧ slots.lookup 1 = some last := by
  obtain ⟨pc, hreached, haccept⟩ := h
  have hrests : p.rests pc = true := by simp [rests, haccept]
  refine ⟨hp.first_of_rests hreached hrests, ?_⟩
  obtain rfl := hp.last pc haccept
  obtain ⟨next₀, hbegins⟩ := hp.begins
  generalize htop : (⟨0, slots⟩ : Thread) = top at hreached
  cases hreached with
  | begin =>
    have hpc : 0 = p.start := congrArg Thread.pc htop
    rw [hpc, hbegins] at haccept
    cases haccept
  | silent _ hu =>
    rcases silent_cases hu with ⟨slot, next, hinst, rfl⟩ | ⟨inst, hinst, hsave, htarget, hslots⟩
    · cases htop
      cases hp.ends _ _ hinst (List.mem_singleton_self 0)
      rw [lookup_note]
      rfl
    · subst htop
      exact absurd (hp.ends _ _ hinst htarget) (hsave 1 0)
  | take _ _ hu =>
    obtain ⟨inst, hinst, hsave, htarget, -⟩ := taken_cases hu
    subst htop
    exact absurd (hp.ends _ _ hinst htarget) (hsave 1 0)

end Program

end DeviceCli.Regex
