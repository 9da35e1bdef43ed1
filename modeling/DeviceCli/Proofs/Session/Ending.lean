import DeviceCli.Proofs.Session.Pager
import DeviceCli.Proofs.Session.Tour

/-!
# How a walk ends

A device may send a session to and fro between its modes for as long as it likes, and what a macro
may lead to need not lead to its target. A walk ends all the same, and each of its ends says how
many requests were sent and which modes were entered on the way.

* `Leg`: what lies between two places of a walk;
* `Ending`: the five ways in which a loop of hops ends;
* `ending_tourFrom`: **each loop has one of these ends**, by induction on the hops left;
* `untouched_of_definition`: a walk that lacks a definition has not begun;
* `walk_within_limit`: what each result of a walk says of its requests and its landings.
-/

namespace DeviceCli

/-! ## 1. Legs -/

/-- What lies between two places of a walk: what was sent, and the modes that were entered. -/
structure Leg {σ : Type} (p q : Place σ) (requests : List Request) (landed : List String) :
    Prop where
  sent : requestsOf q.deeds = requestsOf p.deeds ++ requests
  history : q.history = p.history ++ landed
  mode : q.mode = landed.getLast?.getD p.mode

namespace Leg

variable {σ : Type} {p q s : Place σ}

theorem refl (p : Place σ) : Leg p p [] [] := ⟨by simp, by simp, rfl⟩

theorem append {requests more : List Request} {landed further : List String}
    (h : Leg p q requests landed) (h' : Leg q s more further) :
    Leg p s (requests ++ more) (landed ++ further) where
  sent := by rw [h'.sent, h.sent, List.append_assoc]
  history := by rw [h'.history, h.history, List.append_assoc]
  mode := by
    rw [h'.mode, h.mode, List.getLast?_append]
    cases further.getLast? <;> rfl

theorem enter (p : Place σ) (landed : String) (strict : Option String) :
    Leg p (p.enter landed strict) [] [landed] := ⟨by simp [Place.enter], rfl, rfl⟩

end Leg

namespace Console

variable {σ : Type} {c : Console σ} {name origin target macroName : String}

theorem leg_waitAt (ms : Option Nat) (p : Place σ) : Leg p (c.waitAt ms p) [] [] := by
  cases ms with
  | none => exact .refl p
  | some ms => exact ⟨by simp [waitAt], by simp [waitAt], rfl⟩

theorem leg_askAt (request : Request) (p : Place σ) :
    Leg p (c.askAt request p).2 [request] [] := ⟨by simp [askAt], by simp [askAt], rfl⟩

/-! ## 2. One turn -/

/-- The failures of a hop that was planned: the device failed, or it named a prompt that was not
    offered, or it reported an error. -/
inductive HopFails (c : Console σ) : Failure → Prop
  | link {device request f} (context : String) (h : (c.link.send device request).1 = .error f) :
      HopFails c (f.inContext context)
  | range (x : Exchange) (offered : Nat) (context : String) :
      HopFails c ((outOfRange x offered).inContext context)
  | reported (detail : Option String) (command : String) : HopFails c (.reported detail command)

theorem hopFails_of_landing {mode : Mode} {step : Step} {device : σ} {request : Request}
    {f : Failure} (h : landing macroName mode step (c.link.send device request).1 = .error f) :
    c.HopFails f := by
  cases ha : (c.link.send device request).1 with
  | error g =>
    rw [ha] at h
    cases h
    exact .link _ ha
  | ok x =>
    rw [ha, landing] at h
    split at h
    · cases h
      exact .range x _ _
    · split at h
      · cases h
        exact .reported _ _
      · cases h

/-- **A turn sends one request.** It fails where it is, or it enters one of the modes that its step
    may lead to. -/
theorem turn_cases (c : Console σ) (macroName : String) (mode : Mode) (step : Step)
    (p : Place σ) :
    ∃ request q,
      (∃ f, c.turn macroName mode step p = (.error f, q) ∧ c.HopFails f ∧ Leg p q [request] []) ∨
      ∃ landed, c.turn macroName mode step p = (.ok landed, q) ∧ landed ∈ step.options ∧
        Leg p q [request] [landed] := by
  let request : Request :=
    { text := step.outgoing c.engine.lineEnding
      prompts := c.sourcesOf step
      timeout := step.timeout.or c.engine.commandTimeout }
  let before := c.waitAt step.waitBefore p
  let after := c.waitAt step.waitAfter (c.askAt request before).2
  have hleg : Leg p after [request] [] :=
    ((leg_waitAt _ p).append (leg_askAt request before)).append (leg_waitAt _ _)
  rcases hl : landing macroName mode step (c.askAt request before).1 with f | ⟨landed, strict⟩
  · have hturn : c.turn macroName mode step p = (.error f, after) := by
      unfold turn
      dsimp only
      rw [hl]
    exact ⟨request, after, .inl ⟨f, hturn, hopFails_of_landing hl, hleg⟩⟩
  · have hturn : c.turn macroName mode step p = (.ok landed, after.enter landed strict) := by
      unfold turn
      dsimp only
      rw [hl]
    exact ⟨request, _, .inr ⟨landed, hturn, mem_options_of_landing hl,
      hleg.append (.enter after landed strict)⟩⟩

/-- How a loop goes on from a mode of the registry. -/
theorem onward_cases (name origin target : String) {landed : String} {next : Mode}
    (hnext : c.registry.get? landed = some next) :
    (landed = target ∧ c.onward name origin target landed = .stop (.ok ())) ∨
    (landed ≠ target ∧ ∃ message, next.fail = some message ∧
      c.onward name origin target landed = .stop (.error (.deadEnd landed message))) ∨
    (landed ≠ target ∧ next.fail = none ∧
      next.macros.get? autoMacro = none ∧ next.macros.get? name = none ∧
      c.onward name origin target landed =
        .stop (.error (.chainEnded name origin target landed))) ∨
    (landed ≠ target ∧ next.fail = none ∧ ∃ m step, next.macros.get? m = some step ∧
      c.onward name origin target landed = .go m next step) := by
  rw [onward, hnext]
  by_cases hreach : landed = target
  · exact .inl ⟨hreach, if_pos hreach⟩
  · rw [if_neg hreach]
    dsimp only
    cases hf : next.fail with
    | some message => exact .inr (.inl ⟨hreach, message, rfl, rfl⟩)
    | none =>
      cases ha : next.macros.get? autoMacro with
      | some step => exact .inr (.inr (.inr ⟨hreach, rfl, autoMacro, step, ha, rfl⟩))
      | none =>
        cases hn : next.macros.get? name with
        | some step => exact .inr (.inr (.inr ⟨hreach, rfl, name, step, hn, rfl⟩))
        | none => exact .inr (.inr (.inl ⟨hreach, rfl, rfl, rfl, rfl⟩))

/-! ## 3. Endings -/

/-- None of the modes stops a walk to a target: none is the target, and none is a dead end. -/
def Passed (c : Console σ) (target : String) (landed : List String) : Prop :=
  ∀ m ∈ landed, m ≠ target ∧ ∀ mode, c.registry.get? m = some mode → mode.fail = none

theorem Passed.cons {m : String} {mode : Mode} {landed : List String} (hne : m ≠ target)
    (hm : c.registry.get? m = some mode) (hf : mode.fail = none) (h : c.Passed target landed) :
    c.Passed target (m :: landed) := by
  intro m' hm'
  rcases List.mem_cons.mp hm' with rfl | hm'
  · refine ⟨hne, fun mode' hmode' => ?_⟩
    rw [hm] at hmode'
    cases hmode'
    exact hf
  · exact h m' hm'

/-- How a loop that is allowed so many turns ends: the result, what was sent for it, and the modes
    entered. -/
inductive Ending (c : Console σ) (name origin target : String) (turns : Nat) :
    Except Failure Unit → List Request → List String → Prop
  /-- in the target, which it enters for the first time -/
  | arrived {requests front} (passed : c.Passed target front)
      (count : requests.length = front.length + 1) :
      Ending c name origin target turns (.ok ()) requests (front ++ [target])
  /-- in a mode that is declared a dead end -/
  | deadEnd {requests front m mode message} (passed : c.Passed target front)
      (hm : c.registry.get? m = some mode) (hf : mode.fail = some message)
      (count : requests.length = front.length + 1) :
      Ending c name origin target turns (.error (.deadEnd m message)) requests (front ++ [m])
  /-- in a mode without a macro to go on with -/
  | stranded {requests front m mode} (passed : c.Passed target (front ++ [m]))
      (hm : c.registry.get? m = some mode) (hauto : mode.macros.get? autoMacro = none)
      (hname : mode.macros.get? name = none) (count : requests.length = front.length + 1) :
      Ending c name origin target turns (.error (.chainEnded name origin target m)) requests
        (front ++ [m])
  /-- in none of these, with no turn left -/
  | exhausted {requests landed} (passed : c.Passed target landed)
      (full : landed.length = turns) (count : requests.length = landed.length) :
      Ending c name origin target turns (.error (.tooManyHops c.engine.maxHops)) requests landed
  /-- in a hop that fails -/
  | failed {requests landed f} (passed : c.Passed target landed) (hf : c.HopFails f)
      (count : requests.length = landed.length + 1) :
      Ending c name origin target turns (.error f) requests landed

/-- The end of a loop behind one more turn. -/
theorem Ending.behind {turns : Nat} {r : Except Failure Unit} {requests : List Request}
    {landed : List String} (h : c.Ending name origin target turns r requests landed)
    {m : String} {mode : Mode} (hne : m ≠ target) (hm : c.registry.get? m = some mode)
    (hf : mode.fail = none) (request : Request) :
    c.Ending name origin target (turns + 1) r (request :: requests) (m :: landed) := by
  cases h with
  | arrived passed count => exact .arrived (passed.cons hne hm hf) (congrArg (· + 1) count)
  | deadEnd passed hm' hf' count =>
    exact .deadEnd (passed.cons hne hm hf) hm' hf' (congrArg (· + 1) count)
  | @stranded requests front m' mode' passed hm' hauto hname count =>
    have hpassed : c.Passed target ((m :: front) ++ [m']) := passed.cons hne hm hf
    exact .stranded hpassed hm' hauto hname (congrArg (· + 1) count)
  | exhausted passed full count =>
    exact .exhausted (passed.cons hne hm hf) (congrArg (· + 1) full) (congrArg (· + 1) count)
  | failed passed hf' count => exact .failed (passed.cons hne hm hf) hf' (congrArg (· + 1) count)

/-- **Each loop has one of these ends**, after at most as many requests as it is allowed turns. -/
theorem ending_tourFrom {left : Nat} {modeName : String} {mode : Mode} {step : Step} {p : Place σ}
    (hm : c.registry.get? modeName = some mode) (hs : mode.macros.get? macroName = some step) :
    ∃ requests landed,
      Leg p (c.tourFrom name origin target left macroName mode step p).2 requests landed ∧
      c.Ending name origin target left
        (c.tourFrom name origin target left macroName mode step p).1 requests landed ∧
      requests.length ≤ left := by
  induction left generalizing modeName macroName mode step p with
  | zero =>
    have hnone : c.Passed target [] := fun m hm => absurd hm List.not_mem_nil
    exact ⟨[], [], .refl p, .exhausted hnone rfl rfl, Nat.le_refl 0⟩
  | succ left ih =>
    have hnone : c.Passed target [] := fun m hm => absurd hm List.not_mem_nil
    have hone : 1 ≤ left + 1 := Nat.succ_le_succ (Nat.zero_le left)
    obtain ⟨request, q, ⟨f, hturn, hf, hleg⟩ | ⟨landed, hturn, ho, hleg⟩⟩ :=
      c.turn_cases macroName mode step p
    · rw [tourFrom, hturn]
      exact ⟨[request], [], hleg, .failed hnone hf rfl, hone⟩
    · obtain ⟨next, hnext⟩ := Registry.get?_of_mem_options hm hs ho
      rw [tourFrom, hturn]
      dsimp only
      rcases onward_cases name origin target hnext with
        ⟨rfl, hon⟩ | ⟨hne, message, hf, hon⟩ | ⟨hne, hf, hauto, hname, hon⟩ |
        ⟨hne, hf, m, step', hs', hon⟩
      · rw [hon]
        have hend : c.Ending name origin landed (left + 1) (.ok ()) [request] ([] ++ [landed]) :=
          .arrived hnone rfl
        exact ⟨[request], [landed], hleg, hend, hone⟩
      · rw [hon]
        have hend : c.Ending name origin target (left + 1) (.error (.deadEnd landed message))
            [request] ([] ++ [landed]) := .deadEnd hnone hnext hf rfl
        exact ⟨[request], [landed], hleg, hend, hone⟩
      · rw [hon]
        have hpassed : c.Passed target ([] ++ [landed]) := hnone.cons hne hnext hf
        exact ⟨[request], [landed], hleg, .stranded hpassed hnext hauto hname rfl, hone⟩
      · rw [hon]
        obtain ⟨requests, further, hrest, hend, hle⟩ := ih (p := q) hnext hs'
        exact ⟨request :: requests, landed :: further, hleg.append hrest,
          hend.behind hne hnext hf request, Nat.succ_le_succ hle⟩

/-! ## 4. Whole walks -/

/-- A macro of a mode declares a target. -/
def Declares (c : Console σ) (modeName name target : String) : Prop :=
  ∃ mode step, c.registry.get? modeName = some mode ∧ mode.macros.get? name = some step ∧
    step.target = some target

/-- A target that is declared is a mode. -/
theorem Declares.known {modeName : String} (h : c.Declares modeName name target) :
    ∃ mode, c.registry.get? target = some mode := by
  obtain ⟨mode, step, hm, hs, ht⟩ := h
  exact Registry.get?_of_target hm hs ht

theorem tour_cases (c : Console σ) (name : String) (p : Place σ) :
    (∃ cause, c.tour name p = (.error (.definition cause), p)) ∨
    ∃ mode step target, c.registry.get? p.mode = some mode ∧
      mode.macros.get? name = some step ∧ step.target = some target ∧
      c.tour name p =
        c.tourFrom name p.mode target (c.engine.maxHops + 1) name mode step p := by
  unfold tour
  cases hm : c.registry.get? p.mode with
  | none => exact .inl ⟨_, rfl⟩
  | some mode =>
    dsimp only
    by_cases he : mode.macros.isEmpty = true
    · rw [if_pos he]
      exact .inl ⟨_, rfl⟩
    · rw [if_neg he]
      cases hs : mode.macros.get? name with
      | none => exact .inl ⟨_, rfl⟩
      | some step =>
        dsimp only
        cases ht : step.target with
        | none => exact .inl ⟨_, rfl⟩
        | some target => exact .inr ⟨mode, step, target, rfl, hs, ht, rfl⟩

/-- **A walk lacks a definition before it does anything, or it has one of the ends of a loop.** -/
theorem walk_cases (c : Console σ) (name : String) (w : World σ) :
    (∃ cause w₁, (c.walk name).runOn w = some (.error (.definition cause), w₁) ∧
      w₁.place = w.place ∧ w₁.state.pager = w.state.pager) ∨
    ∃ target r w₁ requests landed, c.Declares w.state.mode name target ∧
      (c.walk name).runOn w = some (r, w₁) ∧ Leg w.place w₁.place requests landed ∧
      c.Ending name w.state.mode target (c.engine.maxHops + 1) r requests landed ∧
      requests.length ≤ c.engine.maxHops + 1 := by
  obtain ⟨w₁, hrun, hplace, hpager⟩ := c.comesTo_walk name w
  rcases c.tour_cases name w.place with ⟨cause, ht⟩ | ⟨mode, step, target, hm, hs, htarget, ht⟩
  · rw [ht] at hrun hplace
    exact .inl ⟨cause, w₁, hrun, hplace, hpager⟩
  · rw [ht] at hrun hplace
    obtain ⟨requests, landed, hleg, hend, hle⟩ :=
      ending_tourFrom (c := c) hm hs
    exact .inr ⟨target, _, w₁, requests, landed, ⟨mode, step, hm, hs, htarget⟩, hrun,
      hplace ▸ hleg, hend, hle⟩

/-- Behind a leg to a target that is declared the pager is installed without a fault, and nothing
    is moved by it. -/
theorem installPresentPager_of_leg {w₁ w' : World σ} {modeName : String} {p : Place σ}
    {requests : List Request} {front : List String} {r : Except Failure Unit}
    (hd : c.Declares modeName name target) (hleg : Leg p w₁.place requests (front ++ [target]))
    (h : c.installPresentPager.runOn w₁ = some (r, w')) :
    r = .ok () ∧ w'.state.mode = w₁.state.mode ∧ w'.state.history = w₁.state.history := by
  obtain ⟨mode, hm⟩ := hd.known
  have hmode : w₁.state.mode = target := by
    have hlast := hleg.mode
    rwa [List.getLast?_concat] at hlast
  rw [← hmode] at hm
  obtain ⟨hok, -, hstay, hkept⟩ := installPresentPager_cases hm h
  exact ⟨hok, hstay, hkept⟩

/-- A session that is in the same place with the same pager is in the same state. -/
theorem state_of_place {w w' : World σ} (hplace : w'.place = w.place)
    (hpager : w'.state.pager = w.state.pager) :
    w'.device = w.device ∧ w'.state = w.state ∧ deedsOf w'.journal = deedsOf w.journal := by
  obtain ⟨device, ⟨mode, strict, pager, history⟩, journal⟩ := w
  obtain ⟨device', ⟨mode', strict', pager', history'⟩, journal'⟩ := w'
  simp only [World.place, Place.mk.injEq] at hplace
  obtain ⟨rfl, rfl, rfl, rfl, hdeeds⟩ := hplace
  cases hpager
  exact ⟨rfl, rfl, hdeeds⟩

/-- A hop that was planned lacks no definition, unless the device says that it lacks one. -/
theorem HopFails.of_definition {cause : Misconfiguration} (h : c.HopFails (.definition cause)) :
    ∃ device request, (c.link.send device request).1 = .error (.definition cause) := by
  generalize hf : Failure.definition cause = f at h
  cases h with
  | @link device request g context h =>
    cases g <;> cases hf
    exact ⟨device, request, h⟩
  | range x offered context => cases hf
  | reported detail command => cases hf

/-- A console on a device that always answers with the second of the prompts offered: it goes to
    and fro between the modes `user` and `password`. -/
def bouncingConsole : Console Unit where
  link :=
    { send := fun device _ => (.ok ⟨"", "", 1, []⟩, device)
      sleep := fun device _ => device }
  registry := loginModes
  engine := {}

/-- A session in the mode `user` of that device. -/
def bouncingWorld : World Unit := { device := (), state := .start "user" }

/-- **A macro that fails for want of a definition has not begun.** If the device does not fail that
    way itself, nothing was sent or waited, and the session is as it was. So behind the first
    exchange no mode, macro, target or pager can turn out to be missing, however far the walk
    goes. -/
theorem untouched_of_definition
    (hlink : ∀ device request cause,
      (c.link.send device request).1 ≠ .error (.definition cause))
    {w w' : World σ} {cause : Misconfiguration}
    (h : (c.runMacro name).runOn w = some (.error (.definition cause), w')) :
    w'.device = w.device ∧ w'.state = w.state ∧ deedsOf w'.journal = deedsOf w.journal := by
  by_cases hname : w.state.mode = name
  · rw [runMacro, Act.runOn_bind_ok (Act.runOn_state w), if_pos hname] at h
    cases h
  rw [runOn_runMacro hname] at h
  rcases c.walk_cases name (begun name w) with
    ⟨cause', w₁, hwalk, hplace, hpager⟩ |
    ⟨target, r, w₁, requests, landed, hd, hwalk, hleg, hend, -⟩
  · rw [hwalk] at h
    cases h
    exact state_of_place (hplace.trans (place_note w _)) hpager
  · rw [hwalk] at h
    cases hend with
    | @arrived requests front passed count =>
      obtain ⟨hok, -⟩ := installPresentPager_of_leg hd hleg h
      cases hok
    | deadEnd passed hm hf count => cases h
    | stranded passed hm hauto hname' count => cases h
    | exhausted passed full count => cases h
    | failed passed hf count =>
      cases h
      obtain ⟨device, request, hsend⟩ := hf.of_definition
      exact absurd hsend (hlink device request cause)

/-- A macro that a mode lacks is not looked for on the device. -/
theorem untouched_of_definition_nowhere :
    ∃ w', (bouncingConsole.runMacro "nowhere").runOn bouncingWorld =
        some (.error (.definition (.noSuchMacro "nowhere" "user")), w') ∧
      w'.state = .start "user" ∧ deedsOf w'.journal = [] := by
  have hrun : ((bouncingConsole.runMacro "nowhere").runOn bouncingWorld).map (·.1) =
      some (.error (.definition (.noSuchMacro "nowhere" "user"))) := by rfl
  obtain ⟨⟨r, w'⟩, hw, hr⟩ := Option.map_eq_some_iff.mp hrun
  obtain rfl : r = .error (.definition (.noSuchMacro "nowhere" "user")) := hr
  obtain ⟨-, hstate, hdeeds⟩ :=
    untouched_of_definition (c := bouncingConsole) (fun _ _ _ h => by cases h) hw
  exact ⟨w', hw, hstate, hdeeds⟩

/-! ## 5. Tallies -/

/-- How many modes were entered for so many requests, by what a walk came to: one for each request,
    or one less if the last request failed or the device reported an error. A walk without a
    definition for its first hop has sent nothing. -/
def Tally (requests : List Request) (landed : List String) : Except Failure Unit → Prop
  | .ok () => landed.length = requests.length
  | .error (.deadEnd _ _) => landed.length = requests.length
  | .error (.chainEnded _ _ _ _) => landed.length = requests.length
  | .error (.tooManyHops _) => landed.length = requests.length
  | .error (.transport _ _ _) => landed.length + 1 = requests.length
  | .error (.reported _ _) => landed.length + 1 = requests.length
  | .error (.definition _) =>
    (landed = [] ∧ requests = []) ∨ landed.length + 1 = requests.length
  | .error _ => False

/-- On a device that fails only in two ways, hops fail only in three. -/
theorem HopFails.kind
    (hlink : ∀ device request f, (c.link.send device request).1 = .error f →
      f.isTransport ∨ ∃ cause, f = .definition cause)
    {f : Failure} (h : c.HopFails f) :
    (∃ context text buffer, f = .transport context text buffer) ∨
    (∃ cause, f = .definition cause) ∨ ∃ detail command, f = .reported detail command := by
  cases h with
  | @link device request f context h =>
    rcases hlink device request f h with hf | ⟨cause, rfl⟩
    · cases f with
      | transport context' text buffer => exact .inl ⟨context, text, buffer, rfl⟩
      | _ => exact absurd hf Bool.false_ne_true
    · exact .inr (.inl ⟨cause, rfl⟩)
  | range x offered context => exact .inl ⟨context, _, _, rfl⟩
  | reported detail command => exact .inr (.inr ⟨detail, command, rfl⟩)

/-- An end of a loop on such a device has its tally. -/
theorem Ending.tally
    (hlink : ∀ device request f, (c.link.send device request).1 = .error f →
      f.isTransport ∨ ∃ cause, f = .definition cause)
    {turns : Nat} {r : Except Failure Unit} {requests : List Request} {landed : List String}
    (h : c.Ending name origin target turns r requests landed) : Tally requests landed r := by
  have hlast : ∀ {front : List String} {m : String}, requests.length = front.length + 1 →
      (front ++ [m]).length = requests.length := by
    intro front m count
    rw [List.length_append, count, List.length_singleton]
  cases h with
  | arrived passed count => exact hlast count
  | deadEnd passed hm hf count => exact hlast count
  | stranded passed hm hauto hname count => exact hlast count
  | exhausted passed full count => exact count.symm
  | failed passed hf count =>
    rcases hf.kind hlink with ⟨_, _, _, rfl⟩ | ⟨_, rfl⟩ | ⟨_, _, rfl⟩
    · exact count.symm
    · exact .inr count.symm
    · exact count.symm

/-- **A walk stays within its limit, and its result says where it went.** Whatever the device
    answers, a walk ends after at most one request more than the limit of hops, with one mode
    entered for each request, or one less where the last of them came to nothing. One that succeeds
    has entered the declared target for the first time and last; one that was given too many hops
    has used all of them and has entered neither the target nor a dead end; one that is stranded is
    in a mode without a macro to go on with. The call comes to what its walk comes to, and the
    pager that is installed behind it moves nothing. -/
theorem walk_within_limit
    (hlink : ∀ device request f, (c.link.send device request).1 = .error f →
      f.isTransport ∨ ∃ cause, f = .definition cause)
    (w : World σ) (hname : w.state.mode ≠ name) :
    ∃ r w₁ requests landed,
      (c.walk name).runOn (begun name w) = some (r, w₁) ∧
      requestsOf w₁.journal = requestsOf w.journal ++ requests ∧
      w₁.state.history = w.state.history ++ landed ∧
      requests.length ≤ c.engine.maxHops + 1 ∧ Tally requests landed r ∧
      (r = .ok () → ∃ target front, c.Declares w.state.mode name target ∧
        w₁.state.mode = target ∧ landed = front ++ [target] ∧ target ∉ front) ∧
      (∀ limit, r = .error (.tooManyHops limit) →
        limit = c.engine.maxHops ∧ landed.length = c.engine.maxHops + 1 ∧
        ∃ target, c.Declares w.state.mode name target ∧ c.Passed target landed) ∧
      (∀ called origin target reached, r = .error (.chainEnded called origin target reached) →
        w₁.state.mode = reached ∧ ∃ mode, c.registry.get? reached = some mode ∧
          mode.macros.get? autoMacro = none ∧ mode.macros.get? name = none) ∧
      ((c.runMacro name).runOn w = match r with
        | .ok () => c.installPresentPager.runOn w₁
        | .error f => some (.error f, w₁)) ∧
      ∀ r' w', (c.runMacro name).runOn w = some (r', w') →
        r' = r ∧ w'.state.mode = w₁.state.mode ∧ w'.state.history = w₁.state.history := by
  have hcall := c.runOn_runMacro hname
  rcases c.walk_cases name (begun name w) with
    ⟨cause, w₁, hwalk, hplace, -⟩ | ⟨target, r, w₁, requests, landed, hd, hwalk, hleg, hend, hle⟩
  · rw [hwalk] at hcall
    have hstart : w₁.place = w.place := hplace.trans (place_note w _)
    have hsent : requestsOf w₁.journal = requestsOf w.journal := by
      have := congrArg (fun p : Place σ => requestsOf p.deeds) hstart
      simpa [World.place] using this
    have hhistory : w₁.state.history = w.state.history :=
      congrArg (fun p : Place σ => p.history) hstart
    refine ⟨_, w₁, [], [], hwalk, by rw [hsent, List.append_nil], by rw [hhistory, List.append_nil],
      Nat.zero_le _, .inl ⟨rfl, rfl⟩, (fun h => by cases h), (fun _ h => by cases h),
      (fun _ _ _ _ h => by cases h), hcall, fun r' w' hr' => ?_⟩
    rw [hcall] at hr'
    cases hr'
    exact ⟨rfl, rfl, rfl⟩
  · rw [hwalk] at hcall
    have hsent : requestsOf w₁.journal = requestsOf w.journal ++ requests := by
      have := hleg.sent
      simpa [World.place, begun] using this
    have hhistory : w₁.state.history = w.state.history ++ landed := hleg.history
    have hmode : w₁.state.mode = landed.getLast?.getD w.state.mode := hleg.mode
    refine ⟨r, w₁, requests, landed, hwalk, hsent, hhistory, hle, hend.tally hlink, ?_, ?_, ?_, ?_,
      ?_⟩
    · rintro rfl
      cases hend with
      | @arrived requests front passed count =>
        rw [List.getLast?_concat] at hmode
        exact ⟨target, front, hd, hmode, rfl, fun hin => (passed target hin).1 rfl⟩
    · rintro limit rfl
      cases hend with
      | exhausted passed full count => exact ⟨rfl, full, target, hd, passed⟩
      | failed passed hf count =>
        rcases hf.kind hlink with ⟨_, _, _, h⟩ | ⟨_, h⟩ | ⟨_, _, h⟩ <;> cases h
    · rintro called origin target' reached rfl
      cases hend with
      | @stranded requests front m mode passed hm hauto hmacro count =>
        rw [List.getLast?_concat] at hmode
        exact ⟨hmode, mode, hm, hauto, hmacro⟩
      | failed passed hf count =>
        rcases hf.kind hlink with ⟨_, _, _, h⟩ | ⟨_, h⟩ | ⟨_, _, h⟩ <;> cases h
    · rw [hcall]
      cases r <;> rfl
    · intro r' w' hr'
      rw [hcall] at hr'
      cases r with
      | error f =>
        cases hr'
        exact ⟨rfl, rfl, rfl⟩
      | ok u =>
        cases hend with
        | arrived passed count => exact installPresentPager_of_leg hd hleg hr'

/-- A device that goes to and fro is left after eleven hops, neither in the target nor in a dead
    end. -/
theorem walk_within_limit_bouncing :
    ∃ w₁ requests landed,
      (bouncingConsole.walk "enable").runOn (begun "enable" bouncingWorld) =
        some (.error (.tooManyHops 10), w₁) ∧
      requestsOf w₁.journal = requests ∧ w₁.state.history = "user" :: landed ∧
      requests.length = 11 ∧ landed.length = 11 ∧ "enable" ∉ landed := by
  have hresult : ((bouncingConsole.walk "enable").runOn (begun "enable" bouncingWorld)).map
      (·.1) = some (.error (.tooManyHops 10)) := by decide +kernel
  obtain ⟨r, w₁, requests, landed, hwalk, hsent, hhistory, -, htally, -, hlimit, -⟩ :=
    walk_within_limit (c := bouncingConsole) (fun _ _ _ h => by cases h) bouncingWorld
      (show bouncingWorld.state.mode ≠ "enable" by decide)
  rw [hwalk, Option.map_some, Option.some_inj] at hresult
  subst hresult
  obtain ⟨-, hfull, target, ⟨mode, step, hm, hs, ht⟩, hpassed⟩ := hlimit 10 rfl
  have hcount : landed.length = requests.length := htally
  obtain rfl : target = "enable" := by
    have hmode : bouncingConsole.registry.get? bouncingWorld.state.mode = loginModes.get? "user" :=
      rfl
    rw [hmode] at hm
    cases hm
    cases hs
    cases ht
    rfl
  exact ⟨w₁, requests, landed, hwalk, hsent, hhistory, hcount.symm.trans hfull, hfull,
    fun hin => (hpassed "enable" hin).1 rfl⟩

end Console

end DeviceCli
