import DeviceCli.Proofs.Regex.Run
import Mathlib.Data.Finset.Card

/-!
# What a search finds

A search follows all runs of a program at once. It leaves out no run that matters, and gives a match
that begins as far to the left as any does.

* `Program.close_cons`: one step of the construction of a frontier, and `Program.Settled`: a frontier
  that is complete;
* `Program.Front`: the threads at a position, in the order of where they began;
* `Program.Covers`: a frontier stands for a run that began somewhere if it was complete while all
  its threads had begun no further right;
* `Program.search_eq_some` and `search_eq_none_iff`: **the search finds a leftmost match, if there
  is one**; `leftmost_of_find?` says the same of texts.
-/

namespace DeviceCli.Regex

/-- Where the match begins, as far as it is noted. -/
def firstOf (slots : Slots) : Nat := (slots.lookup 0).getD 0

namespace Program

variable {p : Program} {text : List Char} {first pos : Nat} {t : Thread}

/-! ## 1. Frontiers -/

variable (p) in
/-- A thread enters the instruction it stands at. -/
def enter (f : Frontier) (t : Thread) : Frontier where
  seen := f.seen.insert t.pc
  threads := if p.rests t.pc then t :: f.threads else f.threads

/-- **One step**: an instruction that was not entered yet is entered, and the threads that follow are
    next in turn. -/
theorem close_cons (v : View) (fuel : Nat) (t : Thread) (todo : List Thread) (f : Frontier) :
    p.close v (fuel + 1) (t :: todo) f =
      if t.pc ∈ f.seen then p.close v fuel todo f
      else p.close v fuel (p.silent v t ++ todo) (p.enter f t) := by
  rw [close]
  by_cases hseen : t.pc ∈ f.seen
  · rw [if_pos hseen, if_pos (Std.HashSet.contains_iff_mem.mpr hseen)]
  · rw [if_neg hseen, if_neg (mt Std.HashSet.contains_iff_mem.mp hseen)]
    rw [silent, enter, rests]
    cases p.insts[t.pc]? with
    | none => rfl
    | some inst =>
      cases inst with
      | look l next =>
        cases hholds : l.holds v with
        | true => simp [hholds]
        | false => simp [hholds]
      | save | split | char | take | accept => rfl

/-- The threads of a frontier stay, and those that come in front of them rest and are reached from
    the ones to be followed. -/
theorem threads_close {v : View} {Q : Thread → Prop}
    (hq : ∀ t, Q t → ∀ u ∈ p.silent v t, Q u) (fuel : Nat) {todo : List Thread} (f : Frontier)
    (htodo : ∀ t ∈ todo, Q t) :
    ∃ news, (p.close v fuel todo f).threads = news ++ f.threads ∧
      ∀ t ∈ news, p.rests t.pc = true ∧ Q t := by
  induction fuel generalizing todo f with
  | zero => exact ⟨[], by rw [close]; rfl, nofun⟩
  | succ fuel ih =>
    cases todo with
    | nil => exact ⟨[], by rw [close]; rfl; nofun, nofun⟩
    | cons t todo =>
      obtain ⟨ht, htodo⟩ := List.forall_mem_cons.mp htodo
      rw [close_cons]
      split
      · exact ih f htodo
      · obtain ⟨news, hnews, hall⟩ := ih (p.enter f t)
          (List.forall_mem_append.mpr ⟨hq t ht, htodo⟩)
        rw [hnews, enter]
        split
        · next hrests =>
          refine ⟨news ++ [t], by simp, ?_⟩
          exact List.forall_mem_append.mpr ⟨hall, List.forall_mem_singleton.mpr ⟨hrests, ht⟩⟩
        · exact ⟨news, rfl, hall⟩

variable (p) in
/-- **A frontier that is complete but for what follows the threads in `todo`.** -/
structure Settled (v : View) (todo : List Thread) (f : Frontier) : Prop where
  closed : ∀ t : Thread, t.pc ∈ f.seen → ∀ u ∈ p.silent v t, u.pc ∈ f.seen ∨ ∃ w ∈ todo, w.pc = u.pc
  rests : ∀ pc ∈ f.seen, p.rests pc = true → ∃ t ∈ f.threads, t.pc = pc

/-- Where a thread goes on does not depend on what it has noted. -/
theorem exists_silent_of_pc_eq {v : View} {u w : Thread} (hpc : t.pc = w.pc)
    (h : u ∈ p.silent v t) : ∃ u' ∈ p.silent v w, u'.pc = u.pc := by
  rw [silent] at h ⊢
  rw [← hpc]
  split at h
  · next l next hinst =>
    split at h
    · next hholds =>
      obtain rfl := List.mem_singleton.mp h
      rw [if_pos hholds]
      exact ⟨_, List.mem_singleton_self _, rfl⟩
    · cases h
  · next slot next hinst =>
    obtain rfl := List.mem_singleton.mp h
    exact ⟨_, List.mem_singleton_self _, rfl⟩
  · next a b hinst =>
    rcases List.mem_cons.mp h with rfl | h
    · exact ⟨_, List.mem_cons_self, rfl⟩
    · obtain rfl := List.mem_singleton.mp h
      exact ⟨_, List.mem_cons_of_mem _ (List.mem_singleton_self _), rfl⟩
  · cases h

variable (p) in
/-- How many instructions have not been entered. -/
def unseen (f : Frontier) : Nat := ((Finset.range p.insts.size).filter (· ∉ f.seen)).card

theorem mem_seen_enter {f : Frontier} {pc : Nat} :
    pc ∈ (p.enter f t).seen ↔ pc = t.pc ∨ pc ∈ f.seen := by
  rw [enter, Std.HashSet.mem_insert, beq_iff_eq, eq_comm]

theorem unseen_enter_le (f : Frontier) (t : Thread) : p.unseen (p.enter f t) ≤ p.unseen f :=
  Finset.card_le_card (Finset.monotone_filter_right _ fun _ _ hi hf =>
    hi (mem_seen_enter.mpr (.inr hf)))

theorem unseen_enter_lt {f : Frontier} (hseen : t.pc ∉ f.seen) (hlt : t.pc < p.insts.size) :
    p.unseen (p.enter f t) < p.unseen f := by
  refine Finset.card_lt_card (Finset.ssubset_iff_subset_ne.mpr ⟨?_, fun heq => ?_⟩)
  · exact Finset.monotone_filter_right _ fun _ _ hi hf => hi (mem_seen_enter.mpr (.inr hf))
  · have hmem : t.pc ∈ (Finset.range p.insts.size).filter (· ∉ f.seen) :=
      Finset.mem_filter.mpr ⟨Finset.mem_range.mpr hlt, hseen⟩
    rw [← heq] at hmem
    exact (Finset.mem_filter.mp hmem).2 (mem_seen_enter.mpr (.inl rfl))

/-- An instruction is followed by at most two, and one that is not there by none. -/
theorem length_silent (v : View) (t : Thread) :
    (p.silent v t).length ≤ 2 ∧ (p.insts.size ≤ t.pc → p.silent v t = []) := by
  rw [silent]
  constructor
  · split
    · split <;> simp
    · simp
    · simp
    · simp
  · intro hle
    rw [Array.getElem?_eq_none hle]

/-- **With fuel for each instruction that was not entered, a frontier is completed**, and what was to
    be followed has been. -/
theorem settled_close {v : View} {fuel : Nat} {todo : List Thread} {f : Frontier}
    (h : p.Settled v todo f) (hfuel : todo.length + 2 * p.unseen f ≤ fuel) :
    p.Settled v [] (p.close v fuel todo f) ∧ (∀ pc ∈ f.seen, pc ∈ (p.close v fuel todo f).seen) ∧
      ∀ t ∈ todo, t.pc ∈ (p.close v fuel todo f).seen := by
  induction fuel generalizing todo f with
  | zero =>
    obtain rfl : todo = [] := List.length_eq_zero_iff.mp (by omega)
    rw [close]
    exact ⟨h, fun pc hpc => hpc, nofun⟩
  | succ fuel ih =>
    cases todo with
    | nil =>
      rw [close]
      · exact ⟨h, fun pc hpc => hpc, nofun⟩
      · nofun
    | cons t todo =>
      rw [close_cons]
      split
      · next hseen =>
        have hsettled : p.Settled v todo f := by
          refine ⟨fun w hw u hu => ?_, h.rests⟩
          rcases h.closed w hw u hu with hu | ⟨w', hw', hpc⟩
          · exact .inl hu
          · rcases List.mem_cons.mp hw' with rfl | hw'
            · exact .inl (hpc ▸ hseen)
            · exact .inr ⟨w', hw', hpc⟩
        obtain ⟨hout, hkept, htodo⟩ := ih hsettled (by rw [List.length_cons] at hfuel; omega)
        exact ⟨hout, hkept, List.forall_mem_cons.mpr ⟨hkept _ hseen, htodo⟩⟩
      · next hseen =>
        have hsettled : p.Settled v (p.silent v t ++ todo) (p.enter f t) := by
          refine ⟨fun w hw u hu => ?_, fun pc hpc hrests => ?_⟩
          · rcases mem_seen_enter.mp hw with hpc | hw
            · obtain ⟨u', hu', hpc'⟩ := exists_silent_of_pc_eq hpc hu
              exact .inr ⟨u', List.mem_append_left _ hu', hpc'⟩
            · rcases h.closed w hw u hu with hu | ⟨w', hw', hpc⟩
              · exact .inl (mem_seen_enter.mpr (.inr hu))
              · rcases List.mem_cons.mp hw' with rfl | hw'
                · exact .inl (mem_seen_enter.mpr (.inl hpc.symm))
                · exact .inr ⟨w', List.mem_append_right _ hw', hpc⟩
          · rcases mem_seen_enter.mp hpc with rfl | hpc
            · exact ⟨t, by simp [enter, hrests], rfl⟩
            · obtain ⟨w, hw, hwpc⟩ := h.rests pc hpc hrests
              refine ⟨w, ?_, hwpc⟩
              rw [enter]
              split
              · exact List.mem_cons_of_mem t hw
              · exact hw
        have hless : (p.silent v t ++ todo).length + 2 * p.unseen (p.enter f t) ≤ fuel := by
          obtain ⟨htwo, hnone⟩ := p.length_silent v t
          rw [List.length_append]
          rw [List.length_cons] at hfuel
          rcases Nat.lt_or_ge t.pc p.insts.size with hlt | hge
          · have := unseen_enter_lt hseen hlt
            omega
          · have := p.unseen_enter_le f t
            rw [hnone hge, List.length_nil]
            omega
        obtain ⟨hout, hkept, htodo⟩ := ih hsettled hless
        refine ⟨hout, fun pc hpc => hkept pc (mem_seen_enter.mpr (.inr hpc)),
          List.forall_mem_cons.mpr ⟨hkept _ (mem_seen_enter.mpr (.inl rfl)), fun w hw => ?_⟩⟩
        exact htodo w (List.mem_append_right _ hw)

/-! ## 2. Threads at a position -/

variable (p) in
/-- **The threads at a position**: runs that rest, the ones in front began no further left than those
    behind them, and none is missing that follows from another. -/
structure Front (text : List Char) (pos : Nat) (f : Frontier) : Prop where
  settled : p.Settled (viewAt text pos) [] f
  reached : ∀ t ∈ f.threads, p.rests t.pc = true ∧ p.Reached text (firstOf t.slots) pos t
  ordered : f.threads.Pairwise fun t u => firstOf u.slots ≤ firstOf t.slots

variable (p) in
/-- **A frontier stands for a run that began at `first` and came to an instruction** if it was
    complete and had entered the instruction when none of its threads began further right. -/
def Covers (text : List Char) (pos : Nat) (f : Frontier) (first pc : Nat) : Prop :=
  ∃ g : Frontier, p.Settled (viewAt text pos) [] g ∧ pc ∈ g.seen ∧
    ∀ u ∈ g.threads, u ∈ f.threads ∧ firstOf u.slots ≤ first

theorem Covers.mono {f f' : Frontier} {first first' pc : Nat}
    (h : p.Covers text pos f first pc) (hthreads : ∀ u ∈ f.threads, u ∈ f'.threads)
    (hfirst : first ≤ first') : p.Covers text pos f' first' pc := by
  obtain ⟨g, hg, hpc, hall⟩ := h
  exact ⟨g, hg, hpc, fun u hu =>
    ⟨hthreads u (hall u hu).1, Nat.le_trans (hall u hu).2 hfirst⟩⟩

theorem Covers.silent {f : Frontier} {first : Nat} {u : Thread}
    (h : p.Covers text pos f first t.pc) (hu : u ∈ p.silent (viewAt text pos) t) :
    p.Covers text pos f first u.pc := by
  obtain ⟨g, hg, hpc, hall⟩ := h
  rcases hg.closed t hpc u hu with hu | ⟨w, hw, -⟩
  · exact ⟨g, hg, hu, hall⟩
  · cases hw

/-- A frontier that stands for a run that rests has a thread there that began no further right. -/
theorem Covers.exists_thread {f : Frontier} {first pc : Nat} (h : p.Covers text pos f first pc)
    (hrests : p.rests pc = true) : ∃ u ∈ f.threads, u.pc = pc ∧ firstOf u.slots ≤ first := by
  obtain ⟨g, hg, hpc, hall⟩ := h
  obtain ⟨u, hu, hupc⟩ := hg.rests pc hpc hrests
  exact ⟨u, (hall u hu).1, hupc, (hall u hu).2⟩

theorem front_empty (text : List Char) (pos : Nat) : p.Front text pos {} where
  settled := ⟨fun _ ht => absurd ht Std.HashSet.not_mem_empty,
    fun _ hpc => absurd hpc Std.HashSet.not_mem_empty⟩
  reached := nofun
  ordered := List.Pairwise.nil

/-- **Following a run** that began no further left than the threads that are there. -/
theorem Front.close (hp : p.Framed) {f : Frontier} (h : p.Front text pos f)
    (hfirst : ∀ u ∈ f.threads, firstOf u.slots ≤ first) (ht : p.Reached text first pos t) :
    p.Front text pos (p.close (viewAt text pos) p.fuel [t] f) ∧
      (∀ u ∈ f.threads, u ∈ (p.close (viewAt text pos) p.fuel [t] f).threads) ∧
      (∀ u ∈ (p.close (viewAt text pos) p.fuel [t] f).threads, firstOf u.slots ≤ first) ∧
      p.Covers text pos (p.close (viewAt text pos) p.fuel [t] f) first t.pc := by
  obtain ⟨news, hnews, hall⟩ := threads_close (p := p) (v := viewAt text pos)
    (Q := p.Reached text first pos) (fun u hu w hw => hu.silent hw) p.fuel f
    (List.forall_mem_singleton.mpr ht)
  have hnewfirst : ∀ u ∈ news, firstOf u.slots = first := fun u hu => by
    rw [firstOf, hp.first_of_rests (hall u hu).2 (hall u hu).1]
    rfl
  have hunseen : p.unseen f ≤ p.insts.size := by
    refine (Finset.card_filter_le _ _).trans ?_
    rw [Finset.card_range]
  have hbegin : p.Settled (viewAt text pos) [t] f :=
    ⟨fun w hw u hu => (h.settled.closed w hw u hu).imp_right nofun, h.settled.rests⟩
  have hfuel : [t].length + 2 * p.unseen f ≤ p.fuel := by
    rw [fuel, List.length_singleton]
    omega
  obtain ⟨hsettled, -, hseen⟩ := settled_close hbegin hfuel
  have hbound : ∀ u ∈ news ++ f.threads, firstOf u.slots ≤ first :=
    List.forall_mem_append.mpr ⟨fun u hu => Nat.le_of_eq (hnewfirst u hu), hfirst⟩
  refine ⟨⟨hsettled, ?_, ?_⟩, ?_, hnews ▸ hbound, ?_⟩
  · rw [hnews]
    refine List.forall_mem_append.mpr ⟨fun u hu => ?_, h.reached⟩
    rw [hnewfirst u hu]
    exact hall u hu
  · rw [hnews, List.pairwise_append]
    refine ⟨?_, h.ordered, fun u hu w hw => ?_⟩
    · exact List.pairwise_of_forall_mem_list fun u hu w hw => by
        rw [hnewfirst u hu, hnewfirst w hw]
    · rw [hnewfirst u hu]
      exact hfirst w hw
  · rw [hnews]
    exact fun u hu => List.mem_append_right news hu
  · exact ⟨_, hsettled, hseen t (List.mem_singleton_self t), fun u hu => ⟨hu, hbound u (hnews ▸ hu)⟩⟩

theorem takeOne_eq (c : Char) (v : View) (f : Frontier) (t : Thread) :
    p.takeOne c v f t = match p.taken c t with
      | some u => p.close v p.fuel [u] f
      | none => f := by
  rw [takeOne, taken]
  cases p.insts[t.pc]? with
  | none => rfl
  | some inst =>
    cases inst with
    | char d next =>
      by_cases hd : c = d
      · simp [hd]
      · simp [hd]
    | take members next =>
      cases hmembers : members.has c with
      | true => simp [hmembers]
      | false => simp [hmembers]
    | look | save | split | accept => rfl

/-- **What threads come to behind a character**, the ones that began furthest left first. -/
theorem Front.takeChar (hp : p.Framed) {c : Char} (hc : text[pos]? = some c) {live : List Thread}
    (hlive : ∀ t ∈ live, p.Reached text (firstOf t.slots) pos t)
    (hordered : live.Pairwise fun t u => firstOf t.slots ≤ firstOf u.slots) {f : Frontier}
    (hf : p.Front text (pos + 1) f)
    (hbefore : ∀ t ∈ live, ∀ u ∈ f.threads, firstOf u.slots ≤ firstOf t.slots) :
    let out := live.foldl (p.takeOne c (viewAt text (pos + 1))) f
    p.Front text (pos + 1) out ∧ (∀ u ∈ f.threads, u ∈ out.threads) ∧
      (∀ u ∈ out.threads, u ∈ f.threads ∨ ∃ t ∈ live, firstOf u.slots ≤ firstOf t.slots) ∧
      ∀ t ∈ live, ∀ u, p.taken c t = some u →
        p.Covers text (pos + 1) out (firstOf t.slots) u.pc := by
  induction live generalizing f with
  | nil => exact ⟨hf, fun u hu => hu, fun u hu => .inl hu, nofun⟩
  | cons t live ih =>
    obtain ⟨ht, hlive⟩ := List.forall_mem_cons.mp hlive
    obtain ⟨hbehind, hordered⟩ := List.pairwise_cons.mp hordered
    obtain ⟨hbefore, hbefores⟩ := List.forall_mem_cons.mp hbefore
    cases htaken : p.taken c t with
    | none =>
      have hone : p.takeOne c (viewAt text (pos + 1)) f t = f := by rw [takeOne_eq, htaken]
      obtain ⟨hout, hkept, hfrom, hcovers⟩ := ih hlive hordered hf hbefores
      rw [List.foldl_cons, hone]
      refine ⟨hout, hkept, fun u hu => ?_, List.forall_mem_cons.mpr ⟨fun u hu => ?_, hcovers⟩⟩
      · exact (hfrom u hu).imp_right fun ⟨x, hx, hle⟩ => ⟨x, List.mem_cons_of_mem t hx, hle⟩
      · rw [htaken] at hu
        cases hu
    | some w =>
      have hone : p.takeOne c (viewAt text (pos + 1)) f t =
          p.close (viewAt text (pos + 1)) p.fuel [w] f := by rw [takeOne_eq, htaken]
      obtain ⟨hg, hgkept, hgle, hgcovers⟩ := hf.close hp hbefore (ht.take hc htaken)
      obtain ⟨hout, hkept, hfrom, hcovers⟩ := ih hlive hordered hg
        fun u hu x hx => Nat.le_trans (hgle x hx) (hbehind u hu)
      rw [List.foldl_cons, hone]
      refine ⟨hout, fun u hu => hkept u (hgkept u hu), fun u hu => .inr ?_,
        List.forall_mem_cons.mpr ⟨fun u hu => ?_, hcovers⟩⟩
      · rcases hfrom u hu with hu | ⟨x, hx, hle⟩
        · exact ⟨t, List.mem_cons_self, hgle u hu⟩
        · exact ⟨x, List.mem_cons_of_mem t hx, hle⟩
      · cases htaken.symm.trans hu
        exact hgcovers.mono hkept (Nat.le_refl _)

/-! ## 3. The search -/

/-- The threads in order of preference, up to the first that has matched. -/
theorem upToMatch_cases (list : List Thread) :
    (∀ t ∈ (p.upToMatch list).1, p.insts[t.pc]? ≠ some .accept) ∧
      ((∃ t rest, list = (p.upToMatch list).1 ++ t :: rest ∧ p.insts[t.pc]? = some .accept ∧
        (p.upToMatch list).2 = some t.slots) ∨ p.upToMatch list = (list, none)) := by
  induction list with
  | nil => exact ⟨nofun, .inr rfl⟩
  | cons t rest ih =>
    by_cases haccept : p.insts[t.pc]? = some .accept
    · have hup : p.upToMatch (t :: rest) = ([], some t.slots) := by
        rw [upToMatch, haccept]
      rw [hup]
      exact ⟨nofun, .inl ⟨t, rest, rfl, haccept, rfl⟩⟩
    · have hup : p.upToMatch (t :: rest) =
          (t :: (p.upToMatch rest).1, (p.upToMatch rest).2) := by
        rw [upToMatch]
        split
        · next h => exact absurd h haccept
        · rfl
      rw [hup]
      obtain ⟨hnone, hcases⟩ := ih
      refine ⟨List.forall_mem_cons.mpr ⟨haccept, hnone⟩, ?_⟩
      rcases hcases with ⟨u, behind, heq, hu, hfound⟩ | heq
      · exact .inl ⟨u, behind, congrArg (t :: ·) heq, hu, hfound⟩
      · rw [heq]
        exact .inr rfl

/-- Where nothing is under way and a match has been found, the rest of the text changes nothing. -/
theorem searchFrom_of_found (slots : Slots) (pos : Nat) (before : Option Char) (rest : List Char) :
    p.searchFrom pos before rest {} (some slots) = some slots := by
  cases rest with
  | nil => rfl
  | cons c rest => rfl

/-- **One position**: the search goes on with what the threads come to that are preferred to a
    match. -/
theorem searchFrom_cons (pos : Nat) (before : Option Char) (c : Char) (rest : List Char)
    (f : Frontier) (found : Option Slots) :
    p.searchFrom pos before (c :: rest) f found =
      let here := p.upToMatch (p.withStart ⟨pos, before, some c⟩ found f).threads.reverse
      p.searchFrom (pos + 1) (some c) rest
        (p.takeChar c ⟨pos + 1, some c, rest.head?⟩ here.1) (here.2.or found) := by
  rw [searchFrom]
  generalize p.upToMatch (p.withStart ⟨pos, before, some c⟩ found f).threads.reverse = here
  obtain ⟨live, now⟩ := here
  simp only
  split
  · next hstop =>
    obtain ⟨hlive, hfound⟩ := Bool.and_eq_true_iff.mp hstop
    obtain rfl := List.isEmpty_iff.mp hlive
    obtain ⟨slots, hslots⟩ := Option.isSome_iff_exists.mp hfound
    rw [hslots]
    exact (searchFrom_of_found slots (pos + 1) (some c) rest).symm
  · rfl

variable (p) in
/-- **What has been searched** at a position, for the runs that began before `bound`: the threads at
    the position, the match found so far, to which all of them are preferred, and no run left out. -/
structure Searched (text : List Char) (pos bound : Nat) (f : Frontier) (found : Option Slots) :
    Prop where
  front : p.Front text pos f
  sound : ∀ slots ∈ found, ∃ last, p.MatchesWith text (firstOf slots) last slots ∧
    firstOf slots ≤ pos ∧ ∀ u ∈ f.threads, firstOf u.slots ≤ firstOf slots
  covers : ∀ first < bound, ∀ t, p.Reached text first pos t →
    p.Covers text pos f first t.pc ∨ ∃ slots ∈ found, firstOf slots ≤ first
  past : ∀ first last, last < pos → p.Matches text first last →
    ∃ slots ∈ found, firstOf slots ≤ first

theorem searched_empty : p.Searched text 0 0 {} none where
  front := front_empty text 0
  sound := nofun
  covers := nofun
  past := nofun

/-- What stands for a run, or is preferred to it, does so for what follows without a character. -/
theorem covers_or_found_silent {f : Frontier} {found : Option Slots} {u : Thread}
    (h : p.Covers text pos f first t.pc ∨ ∃ slots ∈ found, firstOf slots ≤ first)
    (hu : u ∈ p.silent (viewAt text pos) t) :
    p.Covers text pos f first u.pc ∨ ∃ slots ∈ found, firstOf slots ≤ first :=
  h.imp_left fun hcovers => hcovers.silent hu

/-- A match may begin at the position, too. -/
theorem Searched.withStart (hp : p.Framed) {f : Frontier} {found : Option Slots}
    (h : p.Searched text pos pos f found) (hpos : pos ≤ text.length) :
    p.Searched text pos (pos + 1) (p.withStart (viewAt text pos) found f) found := by
  have hcovers : ∀ {f' : Frontier}, (∀ u ∈ f.threads, u ∈ f'.threads) →
      (p.Covers text pos f' pos p.start ∨ ∃ slots ∈ found, firstOf slots ≤ pos) →
      ∀ first < pos + 1, ∀ t, p.Reached text first pos t →
        p.Covers text pos f' first t.pc ∨ ∃ slots ∈ found, firstOf slots ≤ first := by
    intro f' hkept hstart first hfirst t ht
    rcases Nat.lt_or_eq_of_le (Nat.le_of_lt_succ hfirst) with hlt | rfl
    · exact (h.covers first hlt t ht).imp_left fun hcovers => hcovers.mono hkept (Nat.le_refl _)
    · refine ht.arrive (fun _ => hstart) (fun hpos hbefore _ _ => ?_) covers_or_found_silent
      have := hbefore.first_le
      omega
  rw [Program.withStart]
  cases found with
  | some slots =>
    obtain ⟨last, hmatch, hle, hall⟩ := h.sound slots rfl
    exact ⟨h.front, h.sound, hcovers (fun u hu => hu) (.inr ⟨slots, rfl, hle⟩), h.past⟩
  | none =>
    have hle : ∀ u ∈ f.threads, firstOf u.slots ≤ pos := fun u hu =>
      (h.front.reached u hu).2.first_le
    obtain ⟨hfront, hkept, -, hstart⟩ := h.front.close hp hle (.begin hpos)
    exact ⟨hfront, nofun, hcovers hkept (.inl hstart), h.past⟩

/-- What is left of a position once its matches have been taken: the threads that are preferred to
    the best match, and no run that rests there left out. -/
structure Taken (p : Program) (text : List Char) (pos : Nat) (live : List Thread)
    (found : Option Slots) : Prop where
  reached : ∀ t ∈ live, p.Reached text (firstOf t.slots) pos t
  ordered : live.Pairwise fun t u => firstOf t.slots ≤ firstOf u.slots
  sound : ∀ slots ∈ found, ∃ last, p.MatchesWith text (firstOf slots) last slots ∧
    firstOf slots ≤ pos ∧ ∀ u ∈ live, firstOf u.slots ≤ firstOf slots
  covers : ∀ first ≤ pos, ∀ t, p.Reached text first pos t → p.rests t.pc = true →
    (∃ u ∈ live, u.pc = t.pc ∧ firstOf u.slots ≤ first) ∨ ∃ slots ∈ found, firstOf slots ≤ first
  past : ∀ first last, last ≤ pos → p.Matches text first last →
    ∃ slots ∈ found, firstOf slots ≤ first

theorem Searched.taken {f : Frontier} {found : Option Slots}
    (h : p.Searched text pos (pos + 1) f found) :
    p.Taken text pos (p.upToMatch f.threads.reverse).1
      ((p.upToMatch f.threads.reverse).2.or found) := by
  have hordered : f.threads.reverse.Pairwise fun t u => firstOf t.slots ≤ firstOf u.slots :=
    List.pairwise_reverse.mpr h.front.ordered
  have hreached : ∀ t ∈ f.threads.reverse, p.Reached text (firstOf t.slots) pos t := fun t ht =>
    (h.front.reached t (List.mem_reverse.mp ht)).2
  -- Some thread of the frontier, or the match found before, is as good as a run that rests.
  have hthread : ∀ first ≤ pos, ∀ t, p.Reached text first pos t → p.rests t.pc = true →
      (∃ u ∈ f.threads.reverse, u.pc = t.pc ∧ firstOf u.slots ≤ first) ∨
        ∃ slots ∈ found, firstOf slots ≤ first := by
    intro first hfirst t ht hrests
    refine (h.covers first (Nat.lt_succ_of_le hfirst) t ht).imp_left fun hcovers => ?_
    obtain ⟨u, hu, hpc⟩ := hcovers.exists_thread hrests
    exact ⟨u, List.mem_reverse.mpr hu, hpc⟩
  have haccepts : ∀ {first pc slots}, p.Reached text first pos ⟨pc, slots⟩ →
      p.insts[pc]? = some .accept →
      (∃ u ∈ f.threads.reverse, p.insts[u.pc]? = some .accept ∧ firstOf u.slots ≤ first) ∨
        ∃ slots ∈ found, firstOf slots ≤ first := by
    intro first pc slots ht haccept
    refine (hthread first ht.first_le _ ht (by simp [rests, haccept])).imp_left ?_
    rintro ⟨u, hu, hpc, hle⟩
    exact ⟨u, hu, hpc ▸ haccept, hle⟩
  obtain ⟨hnone, ⟨m, behind, heq, haccept, hnow⟩ | heq⟩ := p.upToMatch_cases f.threads.reverse
  · rw [hnow, Option.some_or]
    generalize (p.upToMatch f.threads.reverse).1 = live at heq hnone
    rw [heq] at hordered hreached hthread haccepts
    obtain ⟨hlive, hbehind, hbefore⟩ := List.pairwise_append.mp hordered
    have hm : m ∈ f.threads := List.mem_reverse.mp (heq ▸ List.mem_append_right live List.mem_cons_self)
    have hnotright : ∀ first, (∃ slots ∈ found, firstOf slots ≤ first) → firstOf m.slots ≤ first := by
      rintro first ⟨slots, hslots, hle⟩
      obtain ⟨-, -, -, hall⟩ := h.sound slots hslots
      exact Nat.le_trans (hall m hm) hle
    have hrest : ∀ u ∈ m :: behind, firstOf m.slots ≤ firstOf u.slots :=
      List.forall_mem_cons.mpr ⟨Nat.le_refl _, (List.pairwise_cons.mp hbehind).1⟩
    refine ⟨fun t ht => hreached t (List.mem_append_left _ ht), hlive, ?_, ?_, ?_⟩
    · rintro slots ⟨⟩
      have hmreached := hreached m (List.mem_append_right live List.mem_cons_self)
      exact ⟨pos, ⟨m.pc, hmreached, haccept⟩, hmreached.first_le, fun u hu =>
        hbefore u hu m List.mem_cons_self⟩
    · intro first hfirst t ht hrests
      rcases hthread first hfirst t ht hrests with ⟨u, hu, hpc, hle⟩ | hfound
      · rcases List.mem_append.mp hu with hu | hu
        · exact .inl ⟨u, hu, hpc, hle⟩
        · exact .inr ⟨m.slots, rfl, Nat.le_trans (hrest u hu) hle⟩
      · exact .inr ⟨m.slots, rfl, hnotright first hfound⟩
    · intro first last hlast hmatch
      refine ⟨m.slots, rfl, ?_⟩
      rcases Nat.lt_or_eq_of_le hlast with hlt | rfl
      · exact hnotright first (h.past first last hlt hmatch)
      · obtain ⟨slots, pc, ht, haccept'⟩ := hmatch
        rcases haccepts ht haccept' with ⟨u, hu, hu', hle⟩ | hfound
        · rcases List.mem_append.mp hu with hu | hu
          · exact absurd hu' (hnone u hu)
          · exact Nat.le_trans (hrest u hu) hle
        · exact hnotright first hfound
  · rw [heq] at hnone ⊢
    rw [Option.none_or]
    refine ⟨hreached, hordered, fun slots hslots => ?_, hthread, fun first last hlast hmatch => ?_⟩
    · obtain ⟨last, hmatch, hle, hall⟩ := h.sound slots hslots
      exact ⟨last, hmatch, hle, fun u hu => hall u (List.mem_reverse.mp hu)⟩
    · rcases Nat.lt_or_eq_of_le hlast with hlt | rfl
      · exact h.past first last hlt hmatch
      · obtain ⟨slots, pc, ht, haccept⟩ := hmatch
        rcases haccepts ht haccept with ⟨u, hu, hu', -⟩ | hfound
        · exact absurd hu' (hnone u hu)
        · exact hfound

/-- A thread that takes a character rests in front of it. -/
theorem rests_of_taken {c : Char} {u : Thread} (h : p.taken c t = some u) :
    p.rests t.pc = true := by
  rw [taken] at h
  rw [rests]
  split at h
  · next hinst => rw [hinst]
  · next hinst => rw [hinst]
  · cases h

/-- Whether a character is taken does not depend on what has been noted. -/
theorem exists_taken_of_pc_eq {c : Char} {u w : Thread} (hpc : t.pc = w.pc)
    (h : p.taken c t = some u) : ∃ u', p.taken c w = some u' ∧ u'.pc = u.pc := by
  rw [taken] at h ⊢
  rw [← hpc]
  split at h
  · split at h
    · next hd =>
      cases h
      exact ⟨_, if_pos hd, rfl⟩
    · cases h
  · split at h
    · next hmembers =>
      cases h
      exact ⟨_, if_pos hmembers, rfl⟩
    · cases h
  · cases h

/-- **From one position to the next.** -/
theorem Taken.step (hp : p.Framed) {c : Char} {live : List Thread} {found : Option Slots}
    (h : p.Taken text pos live found) (hc : text[pos]? = some c) :
    p.Searched text (pos + 1) (pos + 1) (p.takeChar c (viewAt text (pos + 1)) live) found := by
  obtain ⟨hfront, -, hfrom, hcovers⟩ := (front_empty text (pos + 1)).takeChar hp hc h.reached
    h.ordered fun _ _ => nofun
  refine ⟨hfront, fun slots hslots => ?_, fun first hfirst t ht => ?_,
    fun first last hlast => h.past first last (Nat.le_of_lt_succ hlast)⟩
  · obtain ⟨last, hmatch, hle, hall⟩ := h.sound slots hslots
    refine ⟨last, hmatch, Nat.le_succ_of_le hle, fun u hu => ?_⟩
    rcases hfrom u hu with hu | ⟨t, ht, hle⟩
    · cases hu
    · exact Nat.le_trans hle (hall t ht)
  · refine ht.arrive (fun hbegin => absurd hbegin (Nat.ne_of_lt hfirst)) ?_ covers_or_found_silent
    intro before t c' u hpos ht' hc' hu
    cases hpos
    cases hc.symm.trans hc'
    refine (h.covers first ht'.first_le t ht' (rests_of_taken hu)).imp_left ?_
    rintro ⟨w, hw, hpc, hle⟩
    obtain ⟨u', hu', hpc'⟩ := exists_taken_of_pc_eq hpc.symm hu
    exact hpc' ▸ (hcovers w hw u' hu').mono (fun _ hx => hx) hle

theorem viewAt_append (before rest : List Char) :
    viewAt (before ++ rest) before.length = ⟨before.length, before.getLast?, rest.head?⟩ := by
  have hafter : (before ++ rest)[before.length]? = rest.head? := by
    rw [List.getElem?_append_right (Nat.le_refl _), Nat.sub_self, List.head?_eq_getElem?]
  rw [viewAt, List.take_left, hafter]

/-- **What the search comes to**, from any position on. -/
theorem Searched.searchFrom (hp : p.Framed) {before rest : List Char} (htext : text = before ++ rest)
    {f : Frontier} {found : Option Slots}
    (h : p.Searched text before.length before.length f found) :
    ∃ live, p.Taken text text.length live
      (p.searchFrom before.length before.getLast? rest f found) := by
  induction rest generalizing before f found with
  | nil =>
    rw [List.append_nil] at htext
    subst htext
    have hview := viewAt_append text []
    rw [List.append_nil] at hview
    have hstart := h.withStart hp (Nat.le_refl _)
    rw [hview] at hstart
    exact ⟨_, hstart.taken⟩
  | cons c rest ih =>
    have hc : text[before.length]? = some c := by
      rw [htext, List.getElem?_append_right (Nat.le_refl _), Nat.sub_self]
      rfl
    have htext' : text = (before ++ [c]) ++ rest := by rw [htext, List.append_assoc]; rfl
    have hlength : (before ++ [c]).length = before.length + 1 := List.length_append
    have hview := viewAt_append before (c :: rest)
    have hview' := viewAt_append (before ++ [c]) rest
    rw [← htext] at hview
    rw [← htext', hlength, List.getLast?_concat] at hview'
    have hstart := h.withStart hp (Nat.le_of_lt (List.getElem?_eq_some_iff.mp hc).1)
    have hnext := hstart.taken.step hp hc
    rw [hview'] at hnext
    have hrest := ih htext' (hlength.symm ▸ hnext)
    rw [hlength, List.getLast?_concat, hview] at hrest
    rw [searchFrom_cons]
    exact hrest

/-! ## 4. Leftmost matches -/

/-- **The search finds a match that begins as far left as any**, and the slots are what a run that
    matches has noted. -/
theorem search_eq_some (hp : p.Framed) {slots : Slots} (h : p.search text = some slots) :
    ∃ first last, p.MatchesWith text first last slots ∧
      ∀ first' last', p.Matches text first' last' → first ≤ first' := by
  obtain ⟨live, htaken⟩ := searched_empty.searchFrom hp (show text = [] ++ text from rfl)
  rw [show p.searchFrom [].length [].getLast? text {} none = some slots from h] at htaken
  obtain ⟨last, hmatch, -⟩ := htaken.sound slots rfl
  refine ⟨firstOf slots, last, hmatch, fun first' last' hmatch' => ?_⟩
  have hlast : last' ≤ text.length := by
    obtain ⟨_, _, ht, -⟩ := hmatch'
    exact ht.le_length
  obtain ⟨slots', ⟨⟩, hle⟩ := htaken.past first' last' hlast hmatch'
  exact hle

/-- **The search finds a match if there is one.** -/
theorem search_eq_none_iff (hp : p.Framed) :
    p.search text = none ↔ ∀ first last, ¬ p.Matches text first last := by
  constructor
  · intro h first last hmatch
    obtain ⟨live, htaken⟩ := searched_empty.searchFrom hp (show text = [] ++ text from rfl)
    rw [show p.searchFrom [].length [].getLast? text {} none = none from h] at htaken
    have hlast : last ≤ text.length := by
      obtain ⟨_, _, ht, -⟩ := hmatch
      exact ht.le_length
    obtain ⟨slots, hslots, -⟩ := htaken.past first last hlast hmatch
    cases hslots
  · intro h
    cases hsearch : p.search text with
    | none => rfl
    | some slots =>
      obtain ⟨first, last, hmatch, -⟩ := search_eq_some hp hsearch
      exact absurd ⟨slots, hmatch⟩ (h first last)

end Program

end DeviceCli.Regex

namespace DeviceCli.Regex

/-- The pattern matches somewhere in a text. -/
def Occurs (r : Regex) (text : String) : Prop :=
  ∃ first last, r.program.Matches text.toList first last

/-- **The pattern matches `part` between `front` and `back`, and nowhere further left.** -/
structure Leftmost (r : Regex) (front part back : String) : Prop where
  here : r.program.Matches (front ++ part ++ back).toList front.length (front ++ part).length
  leftmost : ∀ first last, r.program.Matches (front ++ part ++ back).toList first last →
    front.length ≤ first

variable {r : Regex}

theorem find?_eq_none_iff (hr : r.program.Framed) (text : String) :
    r.find? text = none ↔ ¬ r.Occurs text := by
  rw [find?, findChars?, Option.map_eq_none_iff, Program.search_eq_none_iff hr]
  constructor
  · rintro h ⟨first, last, hmatch⟩
    exact h first last hmatch
  · exact fun h first last hmatch => h ⟨first, last, hmatch⟩

/-- The spans of the groups begin with that of the whole match. -/
theorem groups_head (hr : r.program.Framed) {slots : Slots} {first last : Nat}
    (hfirst : slots.lookup 0 = some first) (hlast : slots.lookup 1 = some last) :
    ∃ more, (List.range r.groupCount).map (spanOf slots) = some (first, last) :: more := by
  obtain ⟨n, hn⟩ := Nat.exists_eq_succ_of_ne_zero (Nat.ne_of_gt hr.groups)
  have hspan : spanOf slots 0 = some (first, last) := by
    rw [spanOf]
    simp [hfirst, hlast]
  refine ⟨((List.range n).map Nat.succ).map (spanOf slots), ?_⟩
  rw [groupCount, hn, List.range_succ_eq_map, List.map_cons, hspan]

/-- **What is found is a leftmost match**: it splits the text, what is around it is left without it,
    and it is the first of the groups. -/
theorem leftmost_of_find? (hr : r.program.Framed) {text : String} {m : Match}
    (h : r.find? text = some m) :
    ∃ front part back, text = front ++ part ++ back ∧ r.Leftmost front part back ∧
      m.without = front ++ back ∧ m.groupTexts.head? = some (some part) := by
  obtain ⟨slots, hsearch, rfl⟩ := Option.map_eq_some_iff.mp h
  obtain ⟨first, last, hmatch, hleftmost⟩ := Program.search_eq_some hr hsearch
  obtain ⟨hfirst, hlast⟩ := hr.noted_of_matchesWith hmatch
  obtain ⟨more, hgroups⟩ := groups_head hr hfirst hlast
  have hle : first ≤ last := by
    obtain ⟨_, ht, -⟩ := hmatch
    exact ht.first_le
  have hlength : last ≤ text.toList.length := by
    obtain ⟨_, ht, -⟩ := hmatch
    exact ht.le_length
  let front := text.toList.take first
  let part := (text.toList.drop first).take (last - first)
  let back := text.toList.drop last
  have hchars : text.toList = front ++ part ++ back := by
    have hback : back = (text.toList.drop first).drop (last - first) := by
      rw [List.drop_drop, Nat.add_sub_cancel' hle]
    rw [hback, List.append_assoc, List.take_append_drop, List.take_append_drop]
  have htext : text = String.ofList front ++ String.ofList part ++ String.ofList back := by
    rw [← String.ofList_append, ← String.ofList_append, ← hchars, String.ofList_toList]
  have hfront : (String.ofList front).length = first := by
    rw [String.length_ofList, List.length_take, Nat.min_eq_left (Nat.le_trans hle hlength)]
  have hpart : (String.ofList front ++ String.ofList part).length = last := by
    rw [String.length_append, hfront, String.length_ofList, List.length_take, List.length_drop]
    omega
  refine ⟨String.ofList front, String.ofList part, String.ofList back, htext, ⟨?_, ?_⟩, ?_, ?_⟩
  · rw [← htext, hfront, hpart]
    exact ⟨slots, hmatch⟩
  · rw [← htext, hfront]
    exact hleftmost
  · rw [hgroups, ← String.ofList_append]
    rfl
  · rw [hgroups]
    rfl

end DeviceCli.Regex
