import DeviceCli.Proofs.Session.Pager
import DeviceCli.Proofs.Session.Pages

/-!
# What a command waits for

A command waits for the prompt of the mode it is executed in. Where the last hop showed a name, the
prompt is pinned to that name, until a command that changes the prompt is executed; this may have
been long ago, in a macro that failed or in a command that avoids paging.

* `Reads`, `Sends`: what a command has sent after some rounds, whether or not it ever ends;
* `sent_of_execute`: what it has sent where it ends;
* `Course`: what happens in a session, hop by hop and command by command, as far as it bears on the
  prompts;
* `tells_runMacro`, `tells_runCommand`: each call takes such a course;
* `PinnedTo`: the last hop showed a name, and no command since then has changed the prompt;
* `prompts_of_course`: **what each request of a command offers**, by the course before it.
-/

namespace DeviceCli

namespace Console

variable {σ α β : Type} {c : Console σ}

/-! ## 1. Rounds -/

/-- What some rounds of reading have sent, and the session behind them. -/
inductive Reads (c : Console σ) (r : Reading) :
    String → String → Nat → World σ → List Request → World σ → Prop
  | last {text collected n w result v}
      (h : (c.readPage r text collected n).runOn w = some (result, v)) :
      Reads c r text collected n w [r.request c text] v
  | next {text collected n w text' collected' u requests v}
      (h : (c.readPage r text collected n).runOn w = some (.ok (.more text' collected'), u))
      (rest : Reads c r text' collected' (n + 1) u requests v) :
      Reads c r text collected n w (r.request c text :: requests) v

/-- A round sends one request and leaves the state of the session alone. -/
theorem sent_readPage {r : Reading} {text collected : String} {n : Nat} {w v : World σ}
    {result : Except Failure Round}
    (h : (c.readPage r text collected n).runOn w = some (result, v)) :
    v.state = w.state ∧ requestsOf v.journal = requestsOf w.journal ++ [r.request c text] := by
  have hafter : requestsOf (c.afterSend (r.request c text) w).journal =
      requestsOf w.journal ++ [r.request c text] := requestsOf_append _ _
  rw [readPage, Act.runOn_bind, c.runOn_exchange_inContext r text w] at h
  cases hx : c.answerTo (r.request c text) w >>= inRange r.prompts.length with
  | error f =>
    rw [hx] at h
    cases h
    exact ⟨rfl, hafter⟩
  | ok x =>
    rw [hx] at h
    dsimp only [Except.mapError] at h
    cases hr : r.response with
    | none =>
      rw [hr] at h
      cases h
      exact ⟨rfl, hafter⟩
    | some response =>
      rw [hr] at h
      dsimp only at h
      by_cases hone : x.matchIndex = 1
      · rw [if_pos hone, Act.runOn_bind_ok (Act.runOn_note _ _ _)] at h
        cases h
        refine ⟨rfl, ?_⟩
        rw [requestsOf_append, hafter, requestsOf_noted, List.append_nil]
      · rw [if_neg hone] at h
        cases h
        exact ⟨rfl, hafter⟩

/-- All rounds offer the same prompts. -/
theorem Reads.sent {r : Reading} {text collected : String} {n : Nat} {w v : World σ}
    {requests : List Request} (h : c.Reads r text collected n w requests v) :
    v.state = w.state ∧ requestsOf v.journal = requestsOf w.journal ++ requests ∧
      ∀ request ∈ requests, request.prompts = r.prompts := by
  induction h with
  | last h =>
    obtain ⟨hstate, hsent⟩ := sent_readPage h
    refine ⟨hstate, hsent, fun request hr => ?_⟩
    rw [List.mem_singleton.mp hr]
    rfl
  | next h rest ih =>
    obtain ⟨hstate, hsent⟩ := sent_readPage h
    obtain ⟨hstate', hsent', hprompts⟩ := ih
    refine ⟨hstate'.trans hstate, ?_, fun request hr => ?_⟩
    · rw [hsent', hsent, List.append_assoc]
      rfl
    · rcases List.mem_cons.mp hr with rfl | hr
      · rfl
      · exact hprompts request hr

/-- Reading that comes to an end has gone through some rounds. -/
theorem reads_of_readPagesOn {r : Reading} {text collected : String} {n : Nat} {w v : World σ}
    {result : Except Failure String}
    (h : c.readPagesOn r text collected n w = some (result, v)) :
    ∃ requests, c.Reads r text collected n w requests v := by
  refine readPagesOn.partial_correctness c r
    (fun text collected n w p => ∃ requests, c.Reads r text collected n w requests p.2)
    ?_ text collected n w _ h
  intro read ih text collected n w p hp
  rcases hrun : (c.readPage r text collected n).runOn w with _ | ⟨f | round, u⟩
  · rw [hrun] at hp
    cases hp
  · rw [hrun] at hp
    cases hp
    exact ⟨_, .last hrun⟩
  · rw [hrun] at hp
    cases round with
    | done output =>
      cases hp
      exact ⟨_, .last hrun⟩
    | more text' collected' =>
      obtain ⟨requests, hreads⟩ := ih _ _ _ _ _ hp
      exact ⟨_, .next hrun hreads⟩

/-- What is sent behind a page is the response to it. -/
theorem response_of_more {r : Reading} {text collected text' collected' : String} {n : Nat}
    {w v : World σ}
    (h : (c.readPage r text collected n).runOn w = some (.ok (.more text' collected'), v)) :
    r.response = some text' := by
  obtain ⟨x, u, -, hround⟩ := Act.ok_of_runOn_bind h
  cases hr : r.response with
  | none =>
    rw [hr] at hround
    cases hround
  | some response =>
    rw [hr] at hround
    dsimp only at hround
    by_cases hone : x.matchIndex = 1
    · rw [if_pos hone, Act.runOn_bind_ok (Act.runOn_note _ _ _)] at hround
      cases hround
      rfl
    · rw [if_neg hone] at hround
      cases hround

/-- Some rounds send a text, and behind it only responses. -/
theorem Reads.eq_requests {r : Reading} {text collected : String} {n : Nat} {w v : World σ}
    {requests : List Request} (h : c.Reads r text collected n w requests v) :
    ∃ pages, requests = r.requests c text pages := by
  induction h with
  | last h => exact ⟨0, (Reading.requests_zero _ _ _).symm⟩
  | next h rest ih =>
    obtain ⟨pages, rfl⟩ := ih
    exact ⟨pages + 1, (Reading.requests_succ (response_of_more h) pages).symm⟩

end Console

/-! ## 2. Executions -/

/-- A command that is executed in a mode, and the session in which its execution begins. It belongs
    to a call that may have been given another mode than the present one. -/
structure Execution (σ : Type) where
  text : String
  override : Option CommandMode
  mode : Mode
  options : CommandOptions
  start : World σ

namespace Execution

variable {σ : Type}

/-- The command or its mode changes the prompt. -/
def clears (x : Execution σ) : Bool := x.options.clearPrompt || x.mode.clearPrompt

/-- The state of the session while the command is executed. -/
def state (x : Execution σ) : SessionState := Console.commandState x.mode x.options x.start.state

theorem strict_state (x : Execution σ) :
    x.state.strict = if x.clears then none else x.start.state.strict := by
  unfold state Console.commandState clears
  split <;> rfl

end Execution

namespace Console

variable {σ α β : Type} {c : Console σ}

/-- What a command has sent after some rounds of its execution, and the session behind them. -/
def Sends (c : Console σ) (x : Execution σ) : List Request → World σ → Prop :=
  c.Reads (commandReading x.text x.mode x.options x.state) (c.outgoing x.text x.options) "" 0
    { x.start with state := x.state }

/-- An execution that ends has sent what some rounds send. -/
theorem sends_of_execute {x : Execution σ} {r : Except Failure String} {v : World σ}
    (h : (c.execute x.text x.mode x.options).runOn x.start = some (r, v)) :
    v.state = x.state ∧ ∃ requests, c.Sends x requests v ∧
      requestsOf v.journal = requestsOf x.start.journal ++ requests := by
  cases hread : c.readPagesOn
      (commandReading x.text x.mode x.options (commandState x.mode x.options x.start.state))
      (c.outgoing x.text x.options) "" 0
      { x.start with state := commandState x.mode x.options x.start.state } with
  | none =>
    rw [runOn_execute, Act.runOn_bind, runOn_readPages, hread] at h
    cases h
  | some p =>
    obtain ⟨result, u⟩ := p
    rw [runOn_execute_of_readPagesOn hread] at h
    cases h
    obtain ⟨requests, hreads⟩ := reads_of_readPagesOn hread
    obtain ⟨hstate, hsent, -⟩ := hreads.sent
    exact ⟨hstate, requests, hreads, hsent⟩

/-- **What a command sends** that comes to an end: its text, and responses to pages. -/
theorem sent_of_execute {text : String} {mode : Mode} {options : CommandOptions} {w v : World σ}
    {r : Except Failure String} (h : (c.execute text mode options).runOn w = some (r, v)) :
    v.state = commandState mode options w.state ∧ ∃ pages, requestsOf v.journal =
      requestsOf w.journal ++
        c.pageRequests text mode options (commandState mode options w.state) pages := by
  let x : Execution σ := ⟨text, none, mode, options, w⟩
  obtain ⟨hstate, requests, hsends, hsent⟩ := sends_of_execute (x := x) h
  obtain ⟨pages, rfl⟩ := Reads.eq_requests hsends
  rw [requests_commandReading] at hsent
  exact ⟨hstate, pages, hsent⟩

/-! ## 3. Courses -/

end Console

/-- What bears on the prompts of a session. -/
inductive Happening (σ : Type) where
  /-- a hop was completed; its answer captured this text, if any, as its first group -/
  | landed (captured : Option String)
  /-- the execution of a command began -/
  | began (x : Execution σ)

namespace Console

variable {σ α β : Type} {c : Console σ}

/-- The mode in which the commands of a call are executed: the one that the call was given, or else
    the present one. -/
def modeFor (c : Console σ) (override : Option CommandMode) (s : SessionState) : Option Mode :=
  match override with
  | some override => c.overriding override
  | none => c.registry.get? s.mode

theorem modeFor_congr {override : Option CommandMode} {s t : SessionState} (h : t.mode = s.mode) :
    c.modeFor override t = c.modeFor override s := by
  unfold modeFor
  rw [h]

/-- What happens in a session from one point on, in order, up to a session that it comes to, or to
    none where the execution of a command never ends. Hops and executions are those of the
    console. -/
inductive Course (c : Console σ) : World σ → List (Happening σ) → Option (World σ) → Prop
  | stop (w) : Course c w [] (some w)
  | noted {w hs last} (e : Event)
      (rest : Course c { w with journal := w.journal ++ [.noted e] } hs last) : Course c w hs last
  | installed {w hs last} (pager : Option InstalledPager)
      (rest : Course c { w with state := { w.state with pager } } hs last) : Course c w hs last
  | stayed {w v name target depth f hs last}
      (h : (c.hop name target depth).runOn w = some (.error f, v)) (rest : Course c v hs last) :
      Course c w hs last
  | landed {w v name target depth p plan answer hs last}
      (hplan : c.planOf w.state name target = .ok plan) (hanswer : c.answerOf plan w = .ok answer)
      (h : (c.hop name target depth).runOn w = some (.ok p, v)) (rest : Course c v hs last) :
      Course c w (.landed (answer.group? 1) :: hs) last
  | executed {x r v hs last} (hmode : c.modeFor x.override x.start.state = some x.mode)
      (h : (c.execute x.text x.mode x.options).runOn x.start = some (r, v))
      (rest : Course c v hs last) : Course c x.start (.began x :: hs) last
  | unending {x} (hmode : c.modeFor x.override x.start.state = some x.mode)
      (h : (c.execute x.text x.mode x.options).runOn x.start = none) :
      Course c x.start [.began x] none

theorem Course.append {u v : World σ} {hs hs' : List (Happening σ)} {last : Option (World σ)}
    (h : c.Course u hs (some v)) (h' : c.Course v hs' last) : c.Course u (hs ++ hs') last := by
  generalize hmid : some v = mid at h
  induction h with
  | stop w =>
    cases hmid
    exact h'
  | noted e rest ih => exact .noted e (ih hmid)
  | installed pager rest ih => exact .installed pager (ih hmid)
  | stayed h rest ih => exact .stayed h (ih hmid)
  | landed hplan hanswer h rest ih => exact .landed hplan hanswer h (ih hmid)
  | executed hmode h rest ih => exact .executed hmode h (ih hmid)
  | unending hmode h => cases hmid

/-- A hop that is completed pins the prompt to what its answer captured. -/
theorem strict_of_hop {w v : World σ} {name : String} {target : Option String} {depth : Nat}
    {p : String × String} {plan : Plan} {answer : Exchange}
    (hplan : c.planOf w.state name target = .ok plan) (hanswer : c.answerOf plan w = .ok answer)
    (h : (c.hop name target depth).runOn w = some (.ok p, v)) :
    v.state.strict = answer.group? 1 := by
  rcases hop_cases h with
    ⟨f, -, hr, -⟩ | ⟨plan', hplan', ⟨f, -, hr, -⟩ | ⟨landed, strict, hl, -, rfl⟩⟩
  · cases hr
  · cases hr
  · rw [hplan] at hplan'
    cases hplan'
    rw [hanswer] at hl
    exact strict_of_landing hl

/-- A hop that fails leaves the state of the session alone. -/
theorem state_of_hop {w v : World σ} {name : String} {target : Option String} {depth : Nat}
    {f : Failure} (h : (c.hop name target depth).runOn w = some (.error f, v)) :
    v.state = w.state := by
  rcases hop_cases h with ⟨f, -, -, rfl⟩ | ⟨plan, -, ⟨f, -, -, rfl⟩ | ⟨landed, strict, -, hr, -⟩⟩
  · rfl
  · exact state_afterPerform w
  · cases hr

/-! ## 4. The course of a call -/

/-- What an action comes to in a session is what some course from there comes to, with executions
    for a call that was given a certain mode. -/
def Tells (c : Console σ) (override : Option CommandMode) (act : Act σ α) (w : World σ) : Prop :=
  ∃ hs, c.Course w hs ((act.runOn w).map (·.2)) ∧ ∀ x, .began x ∈ hs → x.override = override

namespace Tells

variable {override : Option CommandMode} {act : Act σ α} {w : World σ}

theorem of_course {hs : List (Happening σ)} {last : Option (Except Failure α × World σ)}
    (hrun : act.runOn w = last) (h : c.Course w hs (last.map (·.2)))
    (hov : ∀ x, .began x ∈ hs → x.override = override) : c.Tells override act w := by
  subst hrun
  exact ⟨hs, h, hov⟩

theorem nothing (r : Except Failure α) (hrun : act.runOn w = some (r, w)) :
    c.Tells override act w :=
  of_course hrun (.stop w) fun _ hx => absurd hx List.not_mem_nil

theorem note (message : String) (fields : List (String × String)) (w : World σ) :
    c.Tells override (Act.note message fields) w :=
  of_course (Act.runOn_note w message fields) (.noted _ (.stop _))
    fun _ hx => absurd hx List.not_mem_nil

theorem install (pager : Option InstalledPager) (w : World σ) :
    c.Tells override (Act.modifyState fun s => { s with pager }) w :=
  of_course (Act.runOn_modifyState w _) (.installed pager (.stop _))
    fun _ hx => absurd hx List.not_mem_nil

/-- One action after another: what stops the first, or keeps it from ending, does so to both. -/
theorem bind {next : α → Act σ β} (h : c.Tells override act w)
    (hnext : ∀ a v, act.runOn w = some (.ok a, v) → c.Tells override (next a) v) :
    c.Tells override (act >>= next) w := by
  obtain ⟨hs, hcourse, hov⟩ := h
  cases hact : act.runOn w with
  | none =>
    rw [hact] at hcourse
    exact of_course (by rw [Act.runOn_bind, hact]) hcourse hov
  | some p =>
    obtain ⟨r, v⟩ := p
    rw [hact] at hcourse
    cases r with
    | error f => exact of_course (Act.runOn_bind_error hact next) hcourse hov
    | ok a =>
      obtain ⟨hs', hcourse', hov'⟩ := hnext a v hact
      refine of_course (Act.runOn_bind_ok hact next) (hcourse.append hcourse') fun x hx => ?_
      rcases List.mem_append.mp hx with hx | hx
      · exact hov x hx
      · exact hov' x hx

/-- A check, and what follows if it finds no fault. -/
theorem lift_bind {r : Except Failure α} {next : α → Act σ β}
    (hnext : ∀ a, r = .ok a → c.Tells override (next a) w) :
    c.Tells override (Act.lift r >>= next) w := by
  refine .bind (.nothing r (Act.runOn_lift w r)) fun a v hv => ?_
  rw [Act.runOn_lift] at hv
  cases hv
  exact hnext a rfl

theorem attempt (h : c.Tells override act w) : c.Tells override act.attempt w := by
  obtain ⟨hs, hcourse, hov⟩ := h
  refine of_course (Act.runOn_attempt w act) ?_ hov
  cases hact : act.runOn w with
  | none =>
    rw [hact] at hcourse
    exact hcourse
  | some p =>
    rw [hact] at hcourse
    exact hcourse

end Tells

theorem tells_hop (override : Option CommandMode) (name : String) (target : Option String)
    (depth : Nat) (w : World σ) : c.Tells override (c.hop name target depth) w := by
  have hnone : ∀ captured x, Happening.began x ∈ [(.landed captured : Happening σ)] →
      x.override = override := fun captured x hx => by cases List.mem_singleton.mp hx
  have hhop := c.runOn_hop w name target depth
  cases hplan : c.planOf w.state name target with
  | error f =>
    rw [hplan] at hhop
    exact .nothing _ hhop
  | ok plan =>
    rw [hplan] at hhop
    dsimp only at hhop
    cases hl : landing name plan.mode plan.step (c.answerOf plan w) with
    | error f =>
      rw [hl] at hhop
      exact .of_course hhop (.stayed hhop (.stop _)) fun _ hx => absurd hx List.not_mem_nil
    | ok l =>
      obtain ⟨landed, strict⟩ := l
      rw [hl] at hhop
      cases ha : c.answerOf plan w with
      | error f =>
        rw [ha] at hl
        cases hl
      | ok answer =>
        exact .of_course hhop (.landed hplan ha hhop (.stop _)) (hnone _)

theorem tells_walkFrom (override : Option CommandMode) (chain : Chain) (left : Nat) (name : String)
    (target : Option String) (w : World σ) :
    c.Tells override (c.walkFrom chain left name target) w := by
  have hlook : ∀ (target : String) (v : World σ), c.Tells override (lookFor chain target) v := by
    intro target v
    refine .bind (.nothing _ (Act.runOn_state v)) fun s u _ => ?_
    split
    · exact .nothing _ (Act.runOn_pure u ())
    · exact .nothing _ (Act.runOn_fail u _)
  induction left generalizing name target w with
  | zero => exact .nothing _ (Act.runOn_fail w _)
  | succ left ih =>
    rw [walkFrom_succ]
    refine .bind (tells_hop override name target _ w) fun (target, landed) v _ => ?_
    dsimp only
    unfold goOn
    split
    · exact .note _ _ v
    refine .lift_bind fun mode _ => ?_
    cases mode.fail with
    | some message => exact .nothing _ (Act.runOn_fail v _)
    | none =>
      dsimp only
      cases nextMacro mode chain.name with
      | none => exact hlook target v
      | some next => exact .bind (ih next (some target) v) fun _ u _ => hlook target u

/-- The execution of a command is a course of its own. -/
theorem course_execute {override : Option CommandMode} (text : String) {mode : Mode}
    (options : CommandOptions) {w : World σ} (hmode : c.modeFor override w.state = some mode) :
    c.Course w [.began ⟨text, override, mode, options, w⟩]
      (((c.execute text mode options).runOn w).map (·.2)) := by
  let x : Execution σ := ⟨text, override, mode, options, w⟩
  cases hrun : (c.execute text mode options).runOn w with
  | none => exact Course.unending (x := x) hmode hrun
  | some p => exact Course.executed (x := x) hmode hrun (.stop p.2)

theorem tells_execute {override : Option CommandMode} (text : String) {mode : Mode}
    (options : CommandOptions) {w : World σ} (hmode : c.modeFor override w.state = some mode) :
    c.Tells override (c.execute text mode options) w := by
  refine .of_course rfl (course_execute text options hmode) fun x hx => ?_
  cases List.mem_singleton.mp hx
  rfl

theorem tells_runAvoid {override : Option CommandMode} {mode : Mode} (label : String)
    (commands : List String) {w : World σ} (hmode : c.modeFor override w.state = some mode) :
    c.Tells override (c.runAvoid mode label commands) w := by
  induction commands generalizing w with
  | nil => exact .nothing _ (Act.runOn_pure w ())
  | cons command rest ih =>
    refine .bind (.attempt (tells_execute command {} hmode)) fun outcome v hv => ?_
    -- a command stays in its mode, so the next one has the same
    have hstill := (keeps_execute still_calm.toQuiet command mode {}).attempt w _ v hv
    have hnext : c.modeFor override v.state = some mode := (modeFor_congr hstill.1).trans hmode
    cases outcome with
    | ok output => exact ih hnext
    | error f =>
      refine .bind (.note _ _ v) fun _ u hu => ?_
      cases hu
      exact ih hnext

theorem tells_installPager {override : Option CommandMode} {mode : Mode} (label : String)
    {w : World σ} (hmode : c.modeFor override w.state = some mode) :
    c.Tells override (c.installPager mode label) w := by
  refine .bind (.install none w) fun _ v hv => ?_
  cases hv
  cases mode.pager with
  | none => exact .nothing _ (Act.runOn_pure _ ())
  | some pager =>
    refine .lift_bind fun _ _ => ?_
    dsimp only
    cases installable pager with
    | none => exact tells_runAvoid label pager.avoid ((modeFor_congr rfl).trans hmode)
    | some active =>
      refine .bind (.install (some active) _) fun _ v hv => ?_
      cases hv
      exact tells_runAvoid label pager.avoid ((modeFor_congr rfl).trans hmode)

/-- **A macro takes a course** of hops, and of commands in the mode that it led to. -/
theorem tells_runMacro (c : Console σ) (name : String) (w : World σ) :
    c.Tells none (c.runMacro name) w := by
  refine .bind (.nothing _ (Act.runOn_state w)) fun s v hv => ?_
  cases hv
  split
  · exact .nothing _ (Act.runOn_pure w ())
  refine .bind (.note _ _ w) fun _ v _ => ?_
  have hwalk : c.Tells none (c.walk name) v :=
    .bind (.nothing _ (Act.runOn_state v)) fun s u _ => tells_walkFrom none _ _ name none u
  refine .bind hwalk fun _ v _ => ?_
  refine .bind (.nothing _ (Act.runOn_state v)) fun s u hu => ?_
  cases hu
  refine .lift_bind fun mode hmode => tells_installPager _ ?_
  exact Registry.get?_of_require hmode

/-- The mode of a command is that for its call. -/
theorem modeFor_of_effectiveMode {options : CommandOptions} {mode : Mode} {w v : World σ}
    (h : (c.effectiveMode options).runOn w = some (.ok mode, v)) :
    c.modeFor options.mode v.state = some mode := by
  cases ho : options.mode with
  | none =>
    rw [runOn_effectiveMode_present ho] at h
    obtain ⟨hrequire, rfl⟩ := Prod.mk.inj (Option.some.inj h)
    exact Registry.get?_of_require hrequire
  | some override =>
    cases hm : c.overriding override with
    | none =>
      obtain ⟨f, hrefused⟩ := runOn_effectiveMode_unknown ho hm w
      cases hrefused.symm.trans h
    | some given =>
      rw [runOn_effectiveMode_applied ho hm] at h
      obtain ⟨_, u, -, hpure⟩ := Act.ok_of_runOn_bind h
      cases hpure
      exact hm

theorem tells_effectiveMode (c : Console σ) (options : CommandOptions) (w : World σ) :
    c.Tells options.mode (c.effectiveMode options) w := by
  rw [effectiveMode]
  cases options.mode with
  | none =>
    refine .bind (.nothing _ (Act.runOn_state w)) fun s v _ => ?_
    exact .nothing _ (Act.runOn_lift v _)
  | some override =>
    cases override with
    | inline mode =>
      exact .bind (tells_installPager _ rfl) fun _ v _ => .nothing _ (Act.runOn_pure v mode)
    | named name =>
      refine .lift_bind fun mode hm => ?_
      have hmode : c.modeFor (some (.named name)) w.state = some mode :=
        Registry.get?_of_require hm
      exact .bind (tells_installPager name hmode) fun _ v _ => .nothing _ (Act.runOn_pure v mode)

/-- **A command takes a course** of commands in its mode: those that avoid paging there, where the
    mode is another one than the present, and then itself. -/
theorem tells_runCommand (c : Console σ) (text : String) (options : CommandOptions)
    (w : World σ) :
    ∃ hs, c.Course w hs (((c.runCommand text options).runOn w).map (·.2)) ∧
      (∀ x, .began x ∈ hs → x.override = options.mode) ∧
      ∀ mode v, (c.effectiveMode options).runOn w = some (.ok mode, v) →
        .began ⟨text, options.mode, mode, options, v⟩ ∈ hs := by
  obtain ⟨hs, hcourse, hov⟩ := c.tells_effectiveMode options w
  cases heff : (c.effectiveMode options).runOn w with
  | none =>
    rw [heff] at hcourse
    refine ⟨hs, ?_, hov, fun mode v h => by cases h⟩
    rw [runCommand, Act.runOn_bind, heff]
    exact hcourse
  | some p =>
    obtain ⟨r, v⟩ := p
    rw [heff] at hcourse
    cases r with
    | error f =>
      refine ⟨hs, ?_, hov, fun mode v h => by cases h⟩
      rw [runCommand, Act.runOn_bind_error heff]
      exact hcourse
    | ok mode =>
      have hmode := modeFor_of_effectiveMode heff
      refine ⟨hs ++ [.began ⟨text, options.mode, mode, options, v⟩], ?_, fun x hx => ?_, ?_⟩
      · rw [runCommand, Act.runOn_bind_ok heff]
        exact hcourse.append (course_execute text options hmode)
      · rcases List.mem_append.mp hx with hx | hx
        · exact hov x hx
        · cases List.mem_singleton.mp hx
          rfl
      · intro mode' v' h
        cases h
        exact List.mem_append_right hs List.mem_cons_self

/-! ## 5. Pinned prompts -/

/-- What the prompt is pinned to behind something that happened. -/
def pinBehind (pin : Option String) : Happening σ → Option String
  | .landed captured => captured
  | .began x => if x.clears then none else pin

/-- The last hop showed a name, and no command that began since then has changed the prompt. -/
def PinnedTo (before : List (Happening σ)) (shown : String) : Prop :=
  ∃ front back, before = front ++ .landed (some shown) :: back ∧
    ∀ e ∈ back, ∃ x : Execution σ, e = .began x ∧ x.clears = false

/-- **The prompt stays pinned to a name** exactly as long as nothing unpins it. -/
theorem foldl_pinBehind_eq_some_iff (before : List (Happening σ)) (shown : String) :
    before.foldl pinBehind none = some shown ↔ PinnedTo before shown := by
  induction before using List.reverseRecOn with
  | nil =>
    constructor
    · intro h
      cases h
    · rintro ⟨front, back, h, -⟩
      exact absurd h.symm (List.append_ne_nil_of_right_ne_nil _ (List.cons_ne_nil _ _))
  | append_singleton before e ih =>
    rw [List.foldl_append]
    constructor
    · intro h
      cases e with
      | landed captured =>
        obtain rfl : captured = some shown := h
        exact ⟨before, [], rfl, fun e he => absurd he List.not_mem_nil⟩
      | began x =>
        change (if x.clears then none else before.foldl pinBehind none) = some shown at h
        split at h
        · cases h
        · next hclears =>
          obtain ⟨front, back, rfl, hback⟩ := ih.mp h
          refine ⟨front, back ++ [.began x], by simp, fun e he => ?_⟩
          rcases List.mem_append.mp he with he | he
          · exact hback e he
          · exact ⟨x, List.mem_singleton.mp he, by simpa using hclears⟩
    · rintro ⟨front, back, h, hback⟩
      rcases List.eq_nil_or_concat back with rfl | ⟨back, e', rfl⟩
      · obtain ⟨-, he⟩ := List.append_inj' h rfl
        cases he
        rfl
      · have h' : before ++ [e] = (front ++ .landed (some shown) :: back) ++ [e'] := by
          rw [h]
          simp
        obtain ⟨hfront, he⟩ := List.append_inj' h' rfl
        cases he
        obtain ⟨x, rfl, hclears⟩ := hback e (by simp)
        change (if x.clears then none else before.foldl pinBehind none) = some shown
        rw [if_neg (by simp [hclears])]
        exact ih.mpr ⟨front, back, hfront, fun e he => hback e (by simp [he])⟩

/-- An execution begins in the mode for its call, with the prompt pinned by what happened before. -/
theorem Course.start {w : World σ} {hs : List (Happening σ)} {last : Option (World σ)}
    (h : c.Course w hs last) {before after : List (Happening σ)} {x : Execution σ}
    (hhs : hs = before ++ .began x :: after) :
    c.modeFor x.override x.start.state = some x.mode ∧
      x.start.state.strict = before.foldl pinBehind w.state.strict := by
  induction h generalizing before with
  | stop w => exact absurd hhs.symm (List.append_ne_nil_of_right_ne_nil _ (List.cons_ne_nil _ _))
  | noted e rest ih => exact ih hhs
  | installed pager rest ih => exact ih hhs
  | stayed h rest ih =>
    rw [← state_of_hop h]
    exact ih hhs
  | landed hplan hanswer h rest ih =>
    cases before with
    | nil => cases hhs
    | cons e before =>
      obtain ⟨rfl, hrest⟩ := List.cons.inj hhs
      rw [List.foldl_cons]
      change _ ∧ _ = before.foldl pinBehind (Exchange.group? _ 1)
      rw [← strict_of_hop hplan hanswer h]
      exact ih hrest
  | executed hmode h rest ih =>
    cases before with
    | nil =>
      obtain ⟨hx, -⟩ := List.cons.inj hhs
      cases hx
      exact ⟨hmode, rfl⟩
    | cons e before =>
      obtain ⟨rfl, hrest⟩ := List.cons.inj hhs
      rw [List.foldl_cons]
      change _ ∧ _ = before.foldl pinBehind (if Execution.clears _ then none else _)
      rw [← Execution.strict_state, ← (sends_of_execute h).1]
      exact ih hrest
  | unending hmode h =>
    cases before with
    | nil =>
      obtain ⟨hx, -⟩ := List.cons.inj hhs
      cases hx
      exact ⟨hmode, rfl⟩
    | cons e before =>
      obtain ⟨-, hrest⟩ := List.cons.inj hhs
      exact absurd hrest.symm (List.append_ne_nil_of_right_ne_nil _ (List.cons_ne_nil _ _))

/-! ## 6. Requests -/

/-- A request of a hop. -/
def HopRequest (c : Console σ) (request : Request) : Prop :=
  ∃ s name target plan, c.planOf s name target = .ok plan ∧ request = c.requestOf plan

theorem requestsOf_afterPause (ms : Option Nat) (w : World σ) :
    requestsOf (c.afterPause ms w).journal = requestsOf w.journal := by
  cases ms with
  | none => rfl
  | some ms => exact (requestsOf_append _ _).trans (List.append_nil _)

theorem sent_of_hop {w v : World σ} {name : String} {target : Option String} {depth : Nat}
    {r : Except Failure (String × String)} (h : (c.hop name target depth).runOn w = some (r, v)) :
    ∃ requests, requestsOf v.journal = requestsOf w.journal ++ requests ∧
      ∀ request ∈ requests, c.HopRequest request := by
  have hperform : ∀ plan : Plan, requestsOf (c.afterPerform plan w).journal =
      requestsOf w.journal ++ [c.requestOf plan] := by
    intro plan
    rw [afterPerform, requestsOf_afterPause, afterSend, requestsOf_append, requestsOf_afterPause,
      requestsOf_sent]
  have hhop : ∀ plan, c.planOf w.state name target = .ok plan →
      ∀ request ∈ [c.requestOf plan], c.HopRequest request :=
    fun plan hplan request hr =>
      ⟨w.state, name, target, plan, hplan, List.mem_singleton.mp hr⟩
  rcases hop_cases h with
    ⟨f, -, -, rfl⟩ | ⟨plan, hplan, ⟨f, -, -, rfl⟩ | ⟨landed, strict, -, -, rfl⟩⟩
  · exact ⟨[], (List.append_nil _).symm, fun _ hr => absurd hr List.not_mem_nil⟩
  · exact ⟨_, hperform plan, hhop plan hplan⟩
  · refine ⟨[c.requestOf plan], ?_, hhop plan hplan⟩
    rw [World.land, requestsOf_append, hperform, requestsOf_noted, List.append_nil]

/-- A request of a hop, or of an execution that is among what happened. -/
def SentIn (c : Console σ) (hs : List (Happening σ)) (request : Request) : Prop :=
  c.HopRequest request ∨ ∃ x sent v, .began x ∈ hs ∧ c.Sends x sent v ∧ request ∈ sent

theorem SentIn.cons {hs : List (Happening σ)} {request : Request} (h : c.SentIn hs request)
    (e : Happening σ) : c.SentIn (e :: hs) request := by
  rcases h with hhop | ⟨x, sent, v, hx, hsends, hr⟩
  · exact .inl hhop
  · exact .inr ⟨x, sent, v, List.mem_cons_of_mem e hx, hsends, hr⟩

/-- What was sent on the way to one session and from there to another one. -/
theorem sentIn_append {u v w : World σ} {hs : List (Happening σ)} {first more : List Request}
    (hfirst : requestsOf u.journal = requestsOf w.journal ++ first)
    (hmore : requestsOf v.journal = requestsOf u.journal ++ more)
    (hin : ∀ request ∈ first, c.SentIn hs request) (hin' : ∀ request ∈ more, c.SentIn hs request) :
    ∃ requests, requestsOf v.journal = requestsOf w.journal ++ requests ∧
      ∀ request ∈ requests, c.SentIn hs request := by
  refine ⟨first ++ more, by rw [hmore, hfirst, List.append_assoc], fun request hr => ?_⟩
  rcases List.mem_append.mp hr with hr | hr
  · exact hin request hr
  · exact hin' request hr

/-- Whatever is sent in a course is sent by a hop or by one of its executions. -/
theorem Course.sent {w v : World σ} {hs : List (Happening σ)} (h : c.Course w hs (some v)) :
    ∃ requests, requestsOf v.journal = requestsOf w.journal ++ requests ∧
      ∀ request ∈ requests, c.SentIn hs request := by
  generalize hlast : some v = last at h
  induction h with
  | stop w =>
    cases hlast
    exact ⟨[], (List.append_nil _).symm, fun _ hr => absurd hr List.not_mem_nil⟩
  | noted e rest ih =>
    obtain ⟨requests, hsent, hall⟩ := ih hlast
    refine ⟨requests, ?_, hall⟩
    rw [hsent, requestsOf_append, requestsOf_noted, List.append_nil]
  | installed pager rest ih => exact ih hlast
  | stayed h rest ih =>
    obtain ⟨first, hfirst, hhop⟩ := sent_of_hop h
    obtain ⟨requests, hsent, hall⟩ := ih hlast
    exact sentIn_append hfirst hsent (fun request hr => .inl (hhop request hr)) hall
  | landed hplan hanswer h rest ih =>
    obtain ⟨first, hfirst, hhop⟩ := sent_of_hop h
    obtain ⟨requests, hsent, hall⟩ := ih hlast
    exact sentIn_append hfirst hsent (fun request hr => .inl (hhop request hr))
      fun request hr => (hall request hr).cons _
  | @executed x r u hs last hmode h rest ih =>
    obtain ⟨-, first, hsends, hfirst⟩ := sends_of_execute h
    obtain ⟨requests, hsent, hall⟩ := ih hlast
    exact sentIn_append hfirst hsent
      (fun request hr => .inr ⟨x, first, u, List.mem_cons_self, hsends, hr⟩)
      fun request hr => (hall request hr).cons _
  | unending hmode h => cases hlast

/-- What a request of an execution offers, by what happened before: first the prompt of the mode,
    pinned to the name that the last hop showed, if nothing has changed the prompt since then and
    the execution does not do so itself; and behind it only the prompt of the pager. -/
def Offers (before : List (Happening σ)) (x : Execution σ) (request : Request) : Prop :=
  ∃ first,
    request.prompts = first :: (x.start.state.pager.map (·.detect.source)).toList ∧
    (∀ shown, PinnedTo before shown → x.clears = false → first = x.mode.prompt.pinned shown) ∧
    ((¬ ∃ shown, PinnedTo before shown ∧ x.clears = false) → first = x.mode.prompt.source)

theorem offeredPrompts_eq (mode : Mode) (s : SessionState) :
    offeredPrompts mode s =
      (match s.strict with
        | some shown => mode.prompt.pinned shown
        | none => mode.prompt.source) :: (s.pager.map (·.detect.source)).toList := by
  unfold offeredPrompts
  cases s.pager <;> rfl

/-- The prompts of an execution are those that what happened before asks for. -/
theorem offers_of_sends {before : List (Happening σ)} {x : Execution σ} {requests : List Request}
    {v : World σ} (hstrict : x.start.state.strict = before.foldl pinBehind none)
    (h : c.Sends x requests v) {request : Request} (hr : request ∈ requests) :
    Offers before x request := by
  have hprompts : request.prompts = offeredPrompts x.mode x.state := h.sent.2.2 request hr
  rw [offeredPrompts_eq, x.strict_state, Execution.state, pager_commandState] at hprompts
  refine ⟨_, hprompts, fun shown hpin hclears => ?_, fun hno => ?_⟩
  · rw [hclears, if_neg Bool.false_ne_true, hstrict, (foldl_pinBehind_eq_some_iff _ _).mpr hpin]
  · by_cases hclears : x.clears = true
    · rw [if_pos hclears]
    · have hfalse : x.clears = false := Bool.eq_false_iff.mpr hclears
      rw [if_neg hclears, hstrict]
      cases hpin : before.foldl pinBehind none with
      | none => rfl
      | some shown =>
        exact absurd ⟨shown, (foldl_pinBehind_eq_some_iff _ _).mp hpin, hfalse⟩ hno

/-- **What each request of a command offers.** Every call in a session takes it a course further,
    with commands executed in the mode for that call, and whatever was sent is of a hop or of an
    execution in the course. And each request of an execution, whether or not the execution ends,
    offers what the course before it asks for. -/
theorem prompts_of_course {initial : String} {device : σ} {opened : World σ}
    (hopen : c.openSession initial device = .ok opened) :
    (∀ hs w, c.Course opened hs (some w) →
      (∀ name, ∃ more,
        c.Course opened (hs ++ more) (((c.runMacro name).runOn w).map (·.2)) ∧
        ∀ x, .began x ∈ more → x.override = none) ∧
      (∀ text options, ∃ more,
        c.Course opened (hs ++ more) (((c.runCommand text options).runOn w).map (·.2)) ∧
        (∀ x, .began x ∈ more → x.override = options.mode) ∧
        ∀ mode v, (c.effectiveMode options).runOn w = some (.ok mode, v) →
          .began ⟨text, options.mode, mode, options, v⟩ ∈ more) ∧
      ∀ request ∈ requestsOf w.journal, c.SentIn hs request) ∧
    ∀ before x after last, c.Course opened (before ++ .began x :: after) last →
      c.modeFor x.override x.start.state = some x.mode ∧
      ∀ requests v, c.Sends x requests v → ∀ request ∈ requests, Offers before x request := by
  have hnew : opened.state.strict = none ∧ requestsOf opened.journal = [] := by
    rw [openSession] at hopen
    cases hm : c.registry.require initial with
    | error f =>
      rw [hm] at hopen
      cases hopen
    | ok mode =>
      rw [hm] at hopen
      cases hopen
      exact ⟨rfl, rfl⟩
  refine ⟨fun hs w hcourse => ⟨fun name => ?_, fun text options => ?_, ?_⟩,
    fun before x after last hcourse => ?_⟩
  · obtain ⟨more, hmore, hov⟩ := c.tells_runMacro name w
    exact ⟨more, hcourse.append hmore, hov⟩
  · obtain ⟨more, hmore, hov, hself⟩ := c.tells_runCommand text options w
    exact ⟨more, hcourse.append hmore, hov, hself⟩
  · obtain ⟨requests, hsent, hall⟩ := hcourse.sent
    rw [hsent, hnew.2, List.nil_append]
    exact hall
  · obtain ⟨hmode, hstrict⟩ := hcourse.start rfl
    rw [hnew.1] at hstrict
    exact ⟨hmode, fun requests v hsends request hr => offers_of_sends hstrict hsends hr⟩

/-- A login that is asked for a password shows the name of the device only at its end. The command
    behind it waits for that name. -/
theorem prompts_of_course_login :
    ∃ (x : Execution (List (Except Failure Exchange)))
      (last : Option (World (List (Except Failure Exchange))))
      (v : World (List (Except Failure Exchange))),
      loginConsole.openSession "user" loginWorld.device = .ok loginWorld ∧
      loginConsole.Course loginWorld [.landed none, .landed (some "core"), .began x] last ∧
      x.text = "show" ∧ loginConsole.Sends x [⟨"show\r", ["(core)"], none⟩] v ∧
      Offers [.landed none, .landed (some "core")] x ⟨"show\r", ["(core)"], none⟩ := by
  have hopened : loginConsole.openSession "user" loginWorld.device = .ok loginWorld := by rfl
  let mode : Mode := { prompt := ⟨"#", default⟩ }
  let asked : Exchange := ⟨"", "Password:", 1, [some "Password:"]⟩
  let shown : Exchange := ⟨"", "core#", 0, [some "core#", some "core"]⟩
  have hlogin : ∃ w, loginConsole.Course loginWorld
      [.landed (asked.group? 1), .landed (shown.group? 1)] (some w) ∧
      loginConsole.modeFor none w.state = some mode ∧
      w.state.strict = some "core" ∧ w.state.pager = none ∧ w.device = [] :=
    ⟨_, @Course.landed _ _ loginWorld _ "enable" none 0 _ _ asked _ _ rfl rfl rfl
      (@Course.landed _ _ _ _ "auto" (some "enable") 1 _ _ shown _ _ rfl rfl rfl (.stop _)),
      rfl, rfl, rfl, rfl⟩
  obtain ⟨⟨device, ⟨present, strict, pager, history⟩, journal⟩, hcourse, hmode, hs, hp, hd⟩ :=
    hlogin
  cases hs
  cases hp
  cases hd
  have hall := hcourse.append (course_execute "show" {} hmode)
  have hpinned : mode.prompt.pinned "core" = "(core)" := by decide +kernel
  have hsends : ∃ v, loginConsole.Sends
      ⟨"show", none, mode, {}, ⟨[], ⟨present, some "core", none, history⟩, journal⟩⟩
      [⟨"show\r", [mode.prompt.pinned "core"], none⟩] v := ⟨_, .last rfl⟩
  obtain ⟨v, hsends⟩ := hsends
  obtain ⟨-, hoffers⟩ := (prompts_of_course hopened).2 _ _ [] _ hall
  have hoffer := hoffers _ v hsends _ List.mem_cons_self
  rw [hpinned] at hsends hoffer
  exact ⟨_, _, v, hopened, hall, rfl, hsends, hoffer⟩

end Console

end DeviceCli
