import DeviceCli.Proofs.Session.Hop
import DeviceCli.Proofs.Session.Journal

/-!
# A walk is a loop

`Console.walk` is a recursion that changes the session as it goes, finds its target in its first
step, and looks at the target once more behind each recursive call. `Console.tour` is a loop: it
fixes the target before it starts, and after each hop it either stops or goes on with one step of
the mode reached. It knows of nothing but a `Place`: the device, where the session is, and what
has been sent and waited.

* `mode_of_tourFrom`: a loop that succeeds has stopped in the target, so the second look of the
  recursion finds nothing;
* `comesTo_walkFrom`: **the recursion follows the loop**, by induction on the hops left;
* `runMacro_eq_tour`: the walk of a whole call is the loop.
-/

namespace DeviceCli

/-! ## 1. Places -/

/-- Where a walk stands: the device, what a session knows of it, and what was sent and waited. -/
structure Place (σ : Type) where
  device : σ
  mode : String
  strict : Option String
  history : List String
  deeds : List Effect

/-- Where a session stands. -/
def World.place {σ : Type} (w : World σ) : Place σ :=
  ⟨w.device, w.state.mode, w.state.strict, w.state.history, deedsOf w.journal⟩

/-- The place behind one more hop. -/
def Place.enter {σ : Type} (p : Place σ) (mode : String) (strict : Option String) : Place σ :=
  { p with mode, strict, history := p.history ++ [mode] }

namespace Console

variable {σ : Type} (c : Console σ)

/-- The place after a wait that may be absent. -/
def waitAt (ms : Option Nat) (p : Place σ) : Place σ :=
  match ms with
  | some ms => { p with device := c.link.sleep p.device ms, deeds := p.deeds ++ [.slept ms] }
  | none => p

/-- The answer to a request, and the place after it. -/
def askAt (request : Request) (p : Place σ) : Except Failure Exchange × Place σ :=
  let (answer, device) := c.link.send p.device request
  (answer, { p with device, deeds := p.deeds ++ [.sent request] })

/-! ## 2. The loop -/

/-- One turn of the loop, by a step of a mode: waits, one exchange, waits, and enters the mode that
    the answer names. -/
def turn (macroName : String) (mode : Mode) (step : Step) (p : Place σ) :
    Except Failure String × Place σ :=
  let request : Request :=
    { text := step.outgoing c.engine.lineEnding
      prompts := c.sourcesOf step
      timeout := step.timeout.or c.engine.commandTimeout }
  let asked := c.askAt request (c.waitAt step.waitBefore p)
  let p := c.waitAt step.waitAfter asked.2
  match landing macroName mode step asked.1 with
  | .error f => (.error f, p)
  | .ok (landed, strict) => (.ok landed, p.enter landed strict)

/-- How a loop goes on. -/
inductive Onward where
  | stop (r : Except Failure Unit)
  | go (macroName : String) (mode : Mode) (step : Step)

/-- How the loop of a macro goes on from a mode that it has entered: it stops in the target and in a
    dead end, else it goes on with the macro `auto`, or else with its own. -/
def onward (name origin target landed : String) : Onward :=
  if landed = target then .stop (.ok ())
  else match c.registry.get? landed with
    | none => .stop (.error (.definition (.noSuchMode landed)))
    | some mode => match mode.fail with
      | some message => .stop (.error (.deadEnd landed message))
      | none => match mode.macros.get? autoMacro with
        | some step => .go autoMacro mode step
        | none => match mode.macros.get? name with
          | some step => .go name mode step
          | none => .stop (.error (.chainEnded name origin target landed))

/-- Turns from a place on, until the loop stops; `left` is how many are still allowed. -/
def tourFrom (name origin target : String) :
    Nat → String → Mode → Step → Place σ → Except Failure Unit × Place σ
  | 0, _, _, _, p => (.error (.tooManyHops c.engine.maxHops), p)
  | left + 1, macroName, mode, step, p => match c.turn macroName mode step p with
    | (.error f, p) => (.error f, p)
    | (.ok landed, p) => match c.onward name origin target landed with
      | .stop r => (r, p)
      | .go macroName mode step => tourFrom name origin target left macroName mode step p

/-- The loop of a macro from the place where it is called: its target is that of its first step. -/
def tour (name : String) (p : Place σ) : Except Failure Unit × Place σ :=
  match c.registry.get? p.mode with
  | none => (.error (.definition (.noSuchMode p.mode)), p)
  | some mode =>
    if mode.macros.isEmpty then (.error (.definition (.noMacros p.mode)), p)
    else match mode.macros.get? name with
      | none => (.error (.definition (.noSuchMacro name p.mode)), p)
      | some step => match step.target with
        | none => (.error (.definition (.noTarget name p.mode)), p)
        | some target =>
          c.tourFrom name p.mode target (c.engine.maxHops + 1) name mode step p

variable {c} {name origin target macroName landed : String} {mode : Mode} {step : Step}

/-- A turn that lands is in the mode where it landed. -/
theorem mode_of_turn {p q : Place σ} (h : c.turn macroName mode step p = (.ok landed, q)) :
    q.mode = landed := by
  rw [turn] at h
  split at h
  · cases h
  · cases h
    rfl

theorem onward_eq_stop_ok (h : c.onward name origin target landed = .stop (.ok ())) :
    landed = target := by
  rw [onward] at h
  split at h
  · assumption
  · repeat' split at h
    all_goals cases h

/-- **A loop that succeeds has stopped in its target.** -/
theorem mode_of_tourFrom {left : Nat} {p : Place σ}
    (h : (c.tourFrom name origin target left macroName mode step p).1 = .ok ()) :
    (c.tourFrom name origin target left macroName mode step p).2.mode = target := by
  induction left generalizing macroName mode step p with
  | zero => cases h
  | succ left ih =>
    rw [tourFrom] at h ⊢
    match hturn : c.turn macroName mode step p with
    | (.error f, q) =>
      rw [hturn] at h
      cases h
    | (.ok landed, q) =>
      rw [hturn] at h
      dsimp only at h ⊢
      cases ho : c.onward name origin target landed with
      | stop r =>
        rw [ho] at h
        obtain rfl : r = .ok () := h
        exact (mode_of_turn hturn).trans (onward_eq_stop_ok ho)
      | go macroName mode step =>
        rw [ho] at h
        exact ih h

/-! ## 3. The recursion -/

@[simp] theorem place_afterPause (ms : Option Nat) (w : World σ) :
    (c.afterPause ms w).place = c.waitAt ms w.place := by
  cases ms with
  | none => rfl
  | some ms => simp [afterPause, waitAt, World.place]

@[simp] theorem place_afterSend (request : Request) (w : World σ) :
    (c.afterSend request w).place = (c.askAt request w.place).2 := by
  simp [afterSend, askAt, World.place]

@[simp] theorem place_land (w : World σ) (landed : String) (strict : Option String) (depth : Nat) :
    (w.land landed strict depth).place = w.place.enter landed strict := by
  simp [World.land, World.place, SessionState.enter, Place.enter]

/-- A remark moves nothing. -/
@[simp] theorem place_note (w : World σ) (e : Event) :
    World.place { w with journal := w.journal ++ [.noted e] } = w.place := by
  simp [World.place]

/-- **A planned hop is a turn of the loop.** -/
theorem turn_place (c : Console σ) (macroName : String) (mode : Mode) (step : Step) (w : World σ)
    (t : String) (depth : Nat) :
    let plan : Plan := ⟨mode, step, t, c.sourcesOf step⟩
    c.turn macroName mode step w.place =
      match landing macroName mode step (c.answerOf plan w) with
      | .error f => (.error f, (c.afterPerform plan w).place)
      | .ok (landed, strict) =>
        (.ok landed, ((c.afterPerform plan w).land landed strict depth).place) := by
  intro plan
  have hanswer : (c.askAt (c.requestOf plan) (c.waitAt step.waitBefore w.place)).1 =
      c.answerOf plan w := by
    rw [← place_afterPause]
    rfl
  simp only [place_land, afterPerform, place_afterPause, place_afterSend, ← hanswer]
  rfl

/-- An action comes to a result in a place, and leaves the pager of the session alone. -/
def ComesTo (act : Act σ Unit) (w : World σ) (result : Except Failure Unit × Place σ) : Prop :=
  ∃ w', act.runOn w = some (result.1, w') ∧ w'.place = result.2 ∧
    w'.state.pager = w.state.pager

/-- The look at the target behind a walk that follows a loop finds nothing to complain of, since a
    loop that succeeds has stopped in its target. -/
theorem ComesTo.look {act : Act σ Unit} {chain : Chain} {w : World σ} {left : Nat} {p : Place σ}
    (h : ComesTo act w (c.tourFrom name origin target left macroName mode step p)) :
    ComesTo (act >>= fun _ => lookFor chain target) w
      (c.tourFrom name origin target left macroName mode step p) := by
  obtain ⟨w', hrun, hplace, hpager⟩ := h
  refine ⟨w', ?_, hplace, hpager⟩
  cases hr : (c.tourFrom name origin target left macroName mode step p).1 with
  | error f => exact Act.runOn_bind_error (hr ▸ hrun) _
  | ok u =>
    have hend : w'.state.mode = target := by
      rw [← mode_of_tourFrom hr, ← hplace]
      rfl
    rw [Act.runOn_bind_ok (hr ▸ hrun), lookFor, Act.runOn_bind_ok (Act.runOn_state w'),
      if_pos hend]
    rfl

/-- How the recursion goes on from a mode that it has entered, if its calls follow the loop. -/
theorem comesTo_onward (chain : Chain) (left : Nat) (target : String) {next : Mode} {w : World σ}
    (hmode : w.state.mode = landed) (hnext : c.registry.get? landed = some next)
    (ih : ∀ {m : String} {step : Step}, next.macros.get? m = some step →
      ComesTo (c.walkFrom chain left m (some target)) w
        (c.tourFrom chain.name chain.origin target left m next step w.place)) :
    ComesTo (c.goOn chain left target landed) w
      (match c.onward chain.name chain.origin target landed with
      | .stop r => (r, w.place)
      | .go m mode step =>
        c.tourFrom chain.name chain.origin target left m mode step w.place) := by
  unfold goOn
  by_cases hreach : landed = target
  · rw [if_pos hreach, onward, if_pos hreach]
    exact ⟨_, rfl, place_note w _, rfl⟩
  rw [if_neg hreach, onward, if_neg hreach, Registry.require_of_get? hnext, hnext]
  show ComesTo (match next.fail with
    | some message => Act.fail (.deadEnd landed message)
    | none => _) w _
  dsimp only
  cases hf : next.fail with
  | some message => exact ⟨w, rfl, rfl, rfl⟩
  | none =>
    rw [nextMacro, Keyed.contains, Keyed.contains]
    cases ha : next.macros.get? autoMacro with
    | some step => exact (ih ha).look
    | none =>
      cases hc : next.macros.get? chain.name with
      | some step => exact (ih hc).look
      | none =>
        refine ⟨w, ?_, rfl, rfl⟩
        show (lookFor chain target).runOn w = _
        rw [lookFor, Act.runOn_bind_ok (Act.runOn_state w), hmode, if_neg hreach]
        rfl

/-- **The recursion follows the loop**: from a session in a mode with the macro, it comes to the
    same result in the same place. -/
theorem comesTo_walkFrom (chain : Chain) (left : Nat) (first : Option String) (w : World σ)
    (hm : c.registry.get? w.state.mode = some mode)
    (hs : mode.macros.get? macroName = some step) (ht : first.or step.target = some target) :
    ComesTo (c.walkFrom chain left macroName first) w
      (c.tourFrom chain.name chain.origin target left macroName mode step w.place) := by
  induction left generalizing macroName mode step first w with
  | zero => exact ⟨w, rfl, rfl, rfl⟩
  | succ left ih =>
    let plan : Plan := ⟨mode, step, target, c.sourcesOf step⟩
    let depth := c.engine.maxHops - left
    have hplan : c.planOf w.state macroName first = .ok plan :=
      planOf_eq_ok_iff.mpr ⟨hm, hs, ht, rfl⟩
    have hhop := c.runOn_hop w macroName first depth
    have hturn := c.turn_place macroName mode step w target depth
    rw [hplan] at hhop
    rw [tourFrom, hturn]
    dsimp only at hhop ⊢
    cases hl : landing macroName mode step (c.answerOf plan w) with
    | error f =>
      rw [hl] at hhop
      exact ⟨_, Act.runOn_bind_error hhop _, rfl, by simp⟩
    | ok l =>
      obtain ⟨landed, strict⟩ := l
      rw [hl] at hhop
      obtain ⟨next, hnext⟩ := Registry.get?_of_mem_options hm hs (mem_options_of_landing hl)
      let w₁ := (c.afterPerform plan w).land landed strict depth
      have hmode : w₁.state.mode = landed := rfl
      have hkept : w₁.state.pager = w.state.pager := by
        show (c.afterPerform plan w).state.pager = _
        rw [state_afterPerform]
      obtain ⟨w', hrun, hplace, hpager⟩ := comesTo_onward chain left target hmode hnext
        fun hstep => ih (some target) w₁ hnext hstep rfl
      refine ⟨w', ?_, hplace, hpager.trans hkept⟩
      rw [walkFrom_succ, Act.runOn_bind_ok hhop]
      exact hrun

/-- A walk without a plan for its first hop is over before it began. -/
theorem comesTo_walk_of_error {w : World σ} {f : Failure}
    (h : c.planOf w.state name none = .error f) : ComesTo (c.walk name) w (.error f, w.place) := by
  refine ⟨w, ?_, rfl, rfl⟩
  have hhop := c.runOn_hop w name none (c.engine.maxHops - c.engine.maxHops)
  rw [h] at hhop
  rw [walk, Act.runOn_bind_ok (Act.runOn_state w), walkFrom, Act.runOn_bind_error hhop]

/-- **A walk comes to what its loop comes to.** -/
theorem comesTo_walk (c : Console σ) (name : String) (w : World σ) :
    ComesTo (c.walk name) w (c.tour name w.place) := by
  have hplan := c.planOf_eq w.state name none
  show ComesTo (c.walk name) w (match c.registry.get? w.state.mode with
    | none => _
    | some mode => _)
  cases hm : c.registry.get? w.state.mode with
  | none => exact comesTo_walk_of_error (by rw [hplan, hm]; rfl)
  | some mode =>
    rw [hm] at hplan
    dsimp only at hplan ⊢
    split
    · next he => exact comesTo_walk_of_error (by rw [hplan, if_pos he]; rfl)
    · next he =>
      rw [if_neg he] at hplan
      cases hs : mode.macros.get? name with
      | none => exact comesTo_walk_of_error (by rw [hplan, hs]; rfl)
      | some step =>
        rw [hs] at hplan
        dsimp only [Option.none_or] at hplan ⊢
        cases ht : step.target with
        | none => exact comesTo_walk_of_error (by rw [hplan, ht]; rfl)
        | some target =>
          obtain ⟨w', hrun, hend⟩ := comesTo_walkFrom ⟨name, w.state.mode⟩
            (c.engine.maxHops + 1) none w hm hs ht
          refine ⟨w', ?_, hend⟩
          rw [walk, Act.runOn_bind_ok (Act.runOn_state w)]
          exact hrun

/-- **The walk of a call is its loop.** From any session that is not in a mode of the macro's name,
    whatever the device answers, the walk comes to the result of the loop where the loop ends, and
    has sent and waited what the loop has. A call that fails stays there; another one goes on with
    the pager of the mode reached. -/
theorem runMacro_eq_tour (w : World σ) (h : w.state.mode ≠ name) :
    let begun : World σ :=
      { w with
        journal := w.journal ++
          [.noted (.engine "Running CLI macro" [("macro_name", name), ("mode", w.state.mode)])] }
    ∃ w', (c.walk name).runOn begun = some ((c.tour name w.place).1, w') ∧
      w'.place = (c.tour name w.place).2 ∧ w'.state.pager = w.state.pager ∧
      (c.runMacro name).runOn w = match (c.tour name w.place).1 with
        | .error f => some (.error f, w')
        | .ok () => c.installPresentPager.runOn w' := by
  intro begun
  obtain ⟨w', hrun, hplace, hpager⟩ := c.comesTo_walk name begun
  rw [place_note] at hrun hplace
  refine ⟨w', hrun, hplace, hpager, ?_⟩
  rw [runMacro, Act.runOn_bind_ok (Act.runOn_state w), if_neg h,
    Act.runOn_bind_ok (Act.runOn_note w _ _)]
  cases hr : (c.tour name w.place).1 with
  | error f => exact Act.runOn_bind_error (hr ▸ hrun) _
  | ok u => exact Act.runOn_bind_ok (hr ▸ hrun) _

/-- A call that is asked for a password on its way goes on with the macro `auto`. -/
theorem runMacro_eq_tour_login :
    "user" ≠ "enable" ∧
    ∃ w', w'.place = ⟨[], "enable", some "core", ["user", "password", "enable"],
        [.sent ⟨"enable\r", ["#", "Password:"], none⟩, .sent ⟨"secret\r", ["#", ">"], none⟩]⟩ ∧
      (loginConsole.runMacro "enable").runOn loginWorld =
        loginConsole.installPresentPager.runOn w' := by
  have hmode : loginWorld.state.mode ≠ "enable" := by decide
  obtain ⟨w', -, hplace, -, hrun⟩ := runMacro_eq_tour (c := loginConsole) loginWorld hmode
  exact ⟨by decide, w', hplace.trans (by rfl), hrun.trans (by rfl)⟩

end Console

end DeviceCli
