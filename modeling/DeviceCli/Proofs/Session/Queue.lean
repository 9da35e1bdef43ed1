import DeviceCli.Proofs.Device.Queue
import DeviceCli.Proofs.Session.Avoid

/-!
# Calls on a scripted device

The pages of a command have no limit of their own, and that of a walk may be as large as one likes.
But on a scripted device each answer takes a reply from the queue, and a command or a walk whose
request is not answered is over. So every call comes to an end, and the replies that wait when it
begins bound what it sends.

* `execute_ends`: a command comes to an end, and what it sends is a stretch;
* `CarriesOut`: commands that are executed one after the other, each with a stretch of its own;
* `Walks`: a walk that comes to an end, and whose requests are one stretch;
* `macroErrands`, `commandErrands`: the commands that a call executes;
* `calls_within_queue`: **every call ends, and sends no more than the replies allow.**
-/

namespace DeviceCli.Console

/-- A console on a scripted device. -/
def scripted (registry : Registry) (engine : Engine) : Console Scripted :=
  ⟨Scripted.link, registry, engine⟩

variable (registry : Registry) (engine : Engine)

/-! ## 1. Pages -/

/-- A command has no more pages than there are replies: by induction on those that wait, since each
    page takes one. -/
theorem exists_pages (c : Console Scripted) (r : Reading) (text : String) (d : Scripted) :
    ∃ (pages : List Exchange) (last : Except Failure Exchange),
      (∀ page ∈ pages, page.matchIndex = 1) ∧
      (∀ x, last = .ok x → x.matchIndex = 1 → r.response = none) ∧
      Scripted.link.answers (r.requests c text pages.length) d = pages.map .ok ++ [last] := by
  induction hpending : d.pending using Nat.strong_induction_on generalizing text d with
  | _ n ih =>
    by_cases hpage : ∃ page response, (d.send (r.request c text)).1 = .ok page ∧
        page.matchIndex = 1 ∧ r.response = some response
    · obtain ⟨page, response, hanswer, hone, hresponse⟩ := hpage
      have htaken := Scripted.pending_of_send_ok hanswer
      obtain ⟨pages, last, hpages, hlast, hanswers⟩ :=
        ih _ (by omega) response (d.send (r.request c text)).2 rfl
      refine ⟨page :: pages, last, List.forall_mem_cons.mpr ⟨hone, hpages⟩, hlast, ?_⟩
      rw [List.length_cons, Reading.requests_succ hresponse]
      show (d.send (r.request c text)).1 :: _ = _
      rw [hanswer]
      exact congrArg _ hanswers
    · refine ⟨[], (d.send (r.request c text)).1, fun _ h => absurd h List.not_mem_nil, ?_, ?_⟩
      · intro x hx hone
        cases hresponse : r.response with
        | none => rfl
        | some response => exact absurd ⟨x, response, hx, hone, hresponse⟩ hpage
      · rw [List.length_nil, Reading.requests_zero]
        rfl

/-- Requests of which all but the last are answered are a stretch. -/
theorem stretch_of_answers {requests : List Request} {pages : List Exchange}
    {last : Except Failure Exchange} {d : Scripted}
    (h : Scripted.link.answers requests d = pages.map .ok ++ [last]) :
    Scripted.Stretch d requests (Scripted.link.sendAll requests d) := by
  induction pages generalizing requests d with
  | nil =>
    cases requests with
    | nil => cases h
    | cons request rest =>
      obtain ⟨hlast, hrest⟩ := List.cons.inj h
      have hnone : rest = [] := by
        have hlength := congrArg List.length hrest
        rw [Link.length_answers] at hlength
        exact List.eq_nil_of_length_eq_zero hlength
      subst hnone
      have hanswer : (d.send request).1 = last := hlast
      cases last with
      | ok x => exact .served (.sent hanswer (.stop _))
      | error f => exact .failed (.stop d) hanswer (.stop _)
  | cons page pages ih =>
    cases requests with
    | nil => cases h
    | cons request rest =>
      obtain ⟨hpage, hrest⟩ := List.cons.inj h
      have hserved : Scripted.Served d [request] (d.send request).2 := .sent hpage (.stop _)
      exact hserved.stretch (ih hrest)

/-- **A command comes to an end**, and what it sends is a stretch: its text, and a response for each
    page. -/
theorem execute_ends (text : String) (mode : Mode) (options : CommandOptions)
    (w : World Scripted) :
    ∃ r v pages, ((scripted registry engine).execute text mode options).runOn w = some (r, v) ∧
      v.state = commandState mode options w.state ∧
      Scripted.Stretch w.device
        ((scripted registry engine).pageRequests text mode options
          (commandState mode options w.state) pages) v.device := by
  let c := scripted registry engine
  let s := commandState mode options w.state
  obtain ⟨pages, last, hpages, hlast, hanswers⟩ :=
    exists_pages c (commandReading text mode options s) (c.outgoing text options) w.device
  obtain ⟨v, hread, hdevice, hstate, -⟩ : ∃ v,
      c.readPagesOn (commandReading text mode options s) (c.outgoing text options) "" 0
        { w with state := s } = some (_, v) ∧ _ :=
    readPagesOn_eq (offers_commandReading text mode options s) hpages hlast hanswers
  have hstretch := stretch_of_answers hanswers
  rw [requests_commandReading] at hdevice hstretch
  refine ⟨_, v, pages.length, runOn_execute_of_readPagesOn hread, hstate, ?_⟩
  rw [hdevice]
  exact hstretch

/-! ## 2. Commands in a row -/

/-- A command that a call executes: its text, the mode in which it runs, and how. -/
structure Errand where
  text : String
  mode : Mode
  options : CommandOptions

/-- **Commands that are executed one after the other**, whatever becomes of each. What one sends,
    its text and responses to pages, is a stretch; the next one finds the device and the state of
    the session that it has left. -/
inductive CarriesOut (c : Console Scripted) :
    World Scripted → List Errand → List (List Request) → World Scripted → Prop
  | nil (w) : CarriesOut c w [] [] w
  | cons {x rest w r u w' pages parts v}
      (h : (c.execute x.text x.mode x.options).runOn w = some (r, u))
      (hsent : Scripted.Stretch w.device (c.pageRequests x.text x.mode x.options
        (commandState x.mode x.options w.state) pages) u.device)
      (hdevice : w'.device = u.device) (hstate : w'.state = u.state)
      (hrest : CarriesOut c w' rest parts v) :
      CarriesOut c w (x :: rest) (c.pageRequests x.text x.mode x.options
        (commandState x.mode x.options w.state) pages :: parts) v

section CarriesOut

variable {c : Console Scripted} {w u v : World Scripted} {errands more : List Errand}
  {parts others : List (List Request)}

theorem CarriesOut.append (h : c.CarriesOut w errands parts u) (h' : c.CarriesOut u more others v) :
    c.CarriesOut w (errands ++ more) (parts ++ others) v := by
  induction h with
  | nil w => exact h'
  | cons h hsent hdevice hstate hrest ih => exact .cons h hsent hdevice hstate (ih h')

theorem CarriesOut.length_eq (h : c.CarriesOut w errands parts v) : parts.length = errands.length := by
  induction h with
  | nil w => rfl
  | cons h hsent hdevice hstate hrest ih => exact congrArg (· + 1) ih

theorem CarriesOut.stretches (h : c.CarriesOut w errands parts v) :
    Scripted.Stretches w.device parts v.device := by
  induction h with
  | nil w => exact .nil w.device
  | cons h hsent hdevice hstate hrest ih =>
    rw [hdevice] at ih
    exact .cons hsent ih

end CarriesOut

/-- A command is carried out. -/
theorem carries_execute (x : Errand) (w : World Scripted) :
    ∃ r v parts, ((scripted registry engine).execute x.text x.mode x.options).runOn w =
        some (r, v) ∧ (scripted registry engine).CarriesOut w [x] parts v := by
  obtain ⟨r, v, pages, hrun, -, hsent⟩ :=
    execute_ends registry engine x.text x.mode x.options w
  exact ⟨r, v, _, hrun, .cons hrun hsent rfl rfl (.nil v)⟩

/-! ## 3. Pagers -/

/-- A command of a pager. -/
def avoidErrand (mode : Mode) (command : String) : Errand := ⟨command, mode, {}⟩

/-- The commands that are executed where the pager of a mode is installed, or none at all if that
    pager is refused. -/
def installErrands (mode : Mode) (label : String) : Option (List Errand) :=
  match mode.pager with
  | none => some []
  | some pager => match pager.validate label with
    | .error _ => none
    | .ok _ => some (pager.avoid.map (avoidErrand mode))

theorem carries_runAvoid (mode : Mode) (label : String) (commands : List String)
    (w : World Scripted) :
    ∃ v parts, ((scripted registry engine).runAvoid mode label commands).runOn w =
        some (.ok (), v) ∧
      (scripted registry engine).CarriesOut w (commands.map (avoidErrand mode)) parts v := by
  induction commands generalizing w with
  | nil => exact ⟨w, [], rfl, .nil w⟩
  | cons command rest ih =>
    obtain ⟨r, u, pages, hrun, -, hsent⟩ :=
      execute_ends registry engine command mode {} w
    obtain ⟨v, parts, hruns, hcarries⟩ := ih (attempted label command u r)
    have hdevice : (attempted label command u r).device = u.device := by
      cases r <;> rfl
    have hstate : (attempted label command u r).state = u.state := state_attempted command u r
    exact ⟨v, _, (runOn_runAvoid_cons hrun).trans hruns,
      .cons (x := avoidErrand mode command) hrun hsent hdevice hstate hcarries⟩

/-- A pager that is refused has nothing sent. -/
theorem installPager_of_refused {mode : Mode} {label : String}
    (h : installErrands mode label = none) (w : World Scripted) :
    ∃ f v, ((scripted registry engine).installPager mode label).runOn w = some (.error f, v) ∧
      v.device = w.device := by
  unfold installErrands at h
  rw [runOn_installPager]
  cases hp : mode.pager with
  | none =>
    rw [hp] at h
    cases h
  | some pager =>
    rw [hp] at h
    dsimp only at h ⊢
    cases hv : pager.validate label with
    | error cause => exact ⟨_, _, rfl, rfl⟩
    | ok _ =>
      rw [hv] at h
      cases h

/-- Another one is installed, and the commands that avoid paging are carried out. -/
theorem installPager_of_errands {mode : Mode} {label : String} {errands : List Errand}
    (h : installErrands mode label = some errands) (w : World Scripted) :
    ∃ u v parts, ((scripted registry engine).installPager mode label).runOn w =
        some (.ok (), v) ∧
      u.device = w.device ∧ (scripted registry engine).CarriesOut u errands parts v := by
  unfold installErrands at h
  rw [runOn_installPager]
  cases hp : mode.pager with
  | none =>
    rw [hp] at h
    cases h
    exact ⟨withPager w none, _, [], rfl, rfl, .nil _⟩
  | some pager =>
    rw [hp] at h
    dsimp only at h ⊢
    cases hv : pager.validate label with
    | error cause =>
      rw [hv] at h
      cases h
    | ok _ =>
      rw [hv] at h
      cases h
      obtain ⟨v, parts, hruns, hcarries⟩ :=
        carries_runAvoid registry engine mode label pager.avoid
          (withPager w (installable pager))
      exact ⟨withPager w (installable pager), v, parts, hruns, rfl, hcarries⟩

/-! ## 4. Walks -/

/-- **A walk comes to an end**, and what it sends is a stretch of requests of hops. -/
def Walks (c : Console Scripted) (act : Act Scripted Unit) (w : World Scripted) : Prop :=
  ∃ r v requests, act.runOn w = some (r, v) ∧ Scripted.Stretch w.device requests v.device ∧
    ∀ request ∈ requests, c.HopRequest request

/-- One that leaves the device alone. -/
theorem Walks.still {c : Console Scripted} {act : Act Scripted Unit} {w v : World Scripted}
    {r : Except Failure Unit} (h : act.runOn w = some (r, v)) (hdevice : v.device = w.device) :
    c.Walks act w := by
  refine ⟨r, v, [], h, ?_, fun _ hr => absurd hr List.not_mem_nil⟩
  rw [hdevice]
  exact .served (.stop w.device)

/-- A check, and what follows if it finds no fault. -/
theorem Walks.lift_bind {c : Console Scripted} {α : Type} {r : Except Failure α}
    {next : α → Act Scripted Unit} {w : World Scripted}
    (hnext : ∀ a, r = .ok a → c.Walks (next a) w) : c.Walks (Act.lift r >>= next) w := by
  cases r with
  | error f => exact .still (Act.runOn_bind_error (Act.runOn_lift w (.error f)) next) rfl
  | ok a =>
    obtain ⟨r, v, requests, hrun, hsent⟩ := hnext a rfl
    exact ⟨r, v, requests, (Act.runOn_bind_ok (Act.runOn_lift w (.ok a)) next).trans hrun, hsent⟩

/-- A look at where a walk has come to an end sends nothing. -/
theorem runOn_lookFor (chain : Chain) (target : String) (w : World Scripted) :
    ∃ r, (lookFor chain target).runOn w = some (r, w) := by
  rw [lookFor, Act.runOn_bind_ok (Act.runOn_state w)]
  by_cases hmode : w.state.mode = target
  · rw [if_pos hmode]
    exact ⟨.ok (), Act.runOn_pure w ()⟩
  · rw [if_neg hmode]
    exact ⟨.error _, Act.runOn_fail w _⟩

theorem Walks.look {c : Console Scripted} {act : Act Scripted Unit} {w : World Scripted}
    (chain : Chain) (target : String) (h : c.Walks act w) :
    c.Walks (act >>= fun _ => lookFor chain target) w := by
  obtain ⟨r, v, requests, hrun, hstretch, hhops⟩ := h
  cases r with
  | error f => exact ⟨_, v, requests, Act.runOn_bind_error hrun _, hstretch, hhops⟩
  | ok u =>
    obtain ⟨r, hlook⟩ := runOn_lookFor chain target v
    exact ⟨r, v, requests, (Act.runOn_bind_ok hrun _).trans hlook, hstretch, hhops⟩

theorem served_afterPause (ms : Option Nat) (w : World Scripted) :
    Scripted.Served w.device [] ((scripted registry engine).afterPause ms w).device := by
  cases ms with
  | none => exact .stop w.device
  | some ms => exact .slept ms (.stop _)

/-- The request of a hop is all that it sends, and it is answered or not. -/
theorem stretch_afterPerform (plan : Plan) (w : World Scripted) :
    let c := scripted registry engine
    Scripted.Stretch w.device [c.requestOf plan] (c.afterPerform plan w).device ∧
      ∀ x, c.answerOf plan w = .ok x →
        Scripted.Served w.device [c.requestOf plan] (c.afterPerform plan w).device := by
  intro c
  have hbefore : Scripted.Served w.device [] (c.afterPause plan.step.waitBefore w).device :=
    served_afterPause registry engine plan.step.waitBefore w
  have hafter : Scripted.Served
      (c.afterSend (c.requestOf plan) (c.afterPause plan.step.waitBefore w)).device []
      (c.afterPerform plan w).device := served_afterPause registry engine plan.step.waitAfter _
  have hserved : ∀ x, c.answerOf plan w = .ok x →
      Scripted.Served w.device [c.requestOf plan] (c.afterPerform plan w).device := by
    intro x hx
    exact hbefore.append (.sent hx hafter)
  refine ⟨?_, hserved⟩
  cases h : c.answerOf plan w with
  | ok x => exact .served (hserved x h)
  | error f => exact .failed hbefore h hafter

/-- A hop that lands has been answered. -/
theorem answer_of_landing {name : String} {mode : Mode} {step : Step}
    {answer : Except Failure Exchange} {place : String × Option String}
    (h : landing name mode step answer = .ok place) : ∃ x, answer = .ok x := by
  cases answer with
  | ok x => exact ⟨x, rfl⟩
  | error f => cases h

/-- What follows a hop, if what is left of the walk comes to an end. -/
theorem walks_goOn (c : Console Scripted) (chain : Chain) (left : Nat) (target landed : String)
    (w : World Scripted) (ih : ∀ next, c.Walks (c.walkFrom chain left next (some target)) w) :
    c.Walks (c.goOn chain left target landed) w := by
  unfold goOn
  by_cases hreach : landed = target
  · rw [if_pos hreach]
    exact .still (Act.runOn_note w _ _) rfl
  rw [if_neg hreach]
  refine .lift_bind fun mode _ => ?_
  cases mode.fail with
  | some message => exact .still (Act.runOn_fail w _) rfl
  | none =>
    dsimp only
    cases nextMacro mode chain.name with
    | some next => exact (ih next).look chain target
    | none =>
      obtain ⟨r, hlook⟩ := runOn_lookFor chain target w
      exact .still hlook rfl

/-- By induction on the hops that are left. A hop that is not answered is the last one, and behind
    one that is, the rest of the walk follows. -/
theorem walks_walkFrom (chain : Chain) (left : Nat) (name : String) (target : Option String)
    (w : World Scripted) :
    (scripted registry engine).Walks
      ((scripted registry engine).walkFrom chain left name target) w := by
  let c := scripted registry engine
  induction left generalizing name target w with
  | zero => exact .still (Act.runOn_fail w _) rfl
  | succ left ih =>
    have hhop := c.runOn_hop w name target (engine.maxHops - left)
    cases hplan : c.planOf w.state name target with
    | error f =>
      rw [hplan] at hhop
      exact .still (Act.runOn_bind_error hhop _) rfl
    | ok plan =>
      have hrequest : c.HopRequest (c.requestOf plan) :=
        ⟨w.state, name, target, plan, hplan, rfl⟩
      obtain ⟨hsent, hserved⟩ := stretch_afterPerform registry engine plan w
      rw [hplan] at hhop
      dsimp only at hhop
      cases hl : landing name plan.mode plan.step (c.answerOf plan w) with
      | error f =>
        rw [hl] at hhop
        exact ⟨.error f, _, _, Act.runOn_bind_error hhop _, hsent,
          List.forall_mem_singleton.mpr hrequest⟩
      | ok place =>
        obtain ⟨landed, strict⟩ := place
        rw [hl] at hhop
        obtain ⟨x, hx⟩ := answer_of_landing hl
        obtain ⟨r, v, requests, hrun, hstretch, hhops⟩ :=
          walks_goOn c chain left plan.target landed
            ((c.afterPerform plan w).land landed strict (engine.maxHops - left))
            (fun next => ih next (some plan.target) _)
        refine ⟨r, v, c.requestOf plan :: requests, ?_, ?_,
          List.forall_mem_cons.mpr ⟨hrequest, hhops⟩⟩
        · rw [walkFrom_succ]
          exact (Act.runOn_bind_ok hhop _).trans hrun
        · exact (hserved x hx).stretch hstretch

/-! ## 5. Calls -/

/-- The commands that a macro executes: those that its walk leads to, if it succeeds. -/
def macroErrands (c : Console Scripted) (name : String) (w : World Scripted) : List Errand :=
  if w.state.mode = name then []
  else match (c.walk name).runOn (begun name w) with
    | some (.ok _, u) => match c.registry.get? u.state.mode with
      | some mode => (installErrands mode u.state.mode).getD []
      | none => []
    | _ => []

/-- The commands that a command of a script comes with, itself the last. One that is given a mode
    whose pager is refused is not executed, and neither is one whose mode does not exist. -/
def commandErrands (c : Console Scripted) (text : String) (options : CommandOptions)
    (s : SessionState) : List Errand :=
  match options.mode with
  | none => match c.registry.get? s.mode with
    | some mode => [⟨text, mode, options⟩]
    | none => []
  | some override => match c.overriding override with
    | some mode => match installErrands mode (overridingLabel override) with
      | some avoid => avoid ++ [⟨text, mode, options⟩]
      | none => []
    | none => []

/-- A macro walks, and then its commands are carried out. -/
theorem runMacro_ends (name : String) (w : World Scripted) :
    let c := scripted registry engine
    ∃ r u v walked parts, (c.runMacro name).runOn w = some (r, v) ∧
      Scripted.Stretch w.device walked u.device ∧
      (∀ request ∈ walked, c.HopRequest request) ∧
      c.CarriesOut u (c.macroErrands name w) parts v := by
  intro c
  unfold macroErrands
  by_cases hname : w.state.mode = name
  · rw [if_pos hname]
    refine ⟨.ok (), w, w, [], [], ?_, .served (.stop _), fun _ h => absurd h List.not_mem_nil,
      .nil w⟩
    rw [runMacro, Act.runOn_bind_ok (Act.runOn_state w), if_pos hname]
    rfl
  rw [if_neg hname, runOn_runMacro hname]
  obtain ⟨r, u, walked, hrun, hstretch, hhops⟩ :=
    walks_walkFrom registry engine ⟨name, w.state.mode⟩
      (engine.maxHops + 1) name none (begun name w)
  have hwalk : (c.walk name).runOn (begun name w) = some (r, u) := hrun
  rw [hwalk]
  cases r with
  | error f => exact ⟨.error f, u, u, walked, [], rfl, hstretch, hhops, .nil u⟩
  | ok _ =>
    dsimp only
    rw [installPresentPager, Act.runOn_bind_ok (Act.runOn_state u)]
    cases hmode : c.registry.get? u.state.mode with
    | none =>
      rw [Registry.require, hmode]
      exact ⟨_, u, u, walked, [], rfl, hstretch, hhops, .nil u⟩
    | some mode =>
      rw [Registry.require_of_get? hmode]
      show ∃ r u' v walked parts, (c.installPager mode u.state.mode).runOn u = some (r, v) ∧ _
      dsimp only
      cases herrands : installErrands mode u.state.mode with
      | none =>
        obtain ⟨f, v, hinstall, hdevice⟩ :=
          installPager_of_refused registry engine herrands u
        exact ⟨.error f, v, v, walked, [], hinstall, hdevice ▸ hstretch, hhops, .nil v⟩
      | some errands =>
        obtain ⟨u', v, parts, hinstall, hdevice, hcarries⟩ :=
          installPager_of_errands registry engine herrands u
        exact ⟨.ok (), u', v, walked, parts, hinstall, hdevice ▸ hstretch, hhops, hcarries⟩

/-- A command of a script is the last of the commands that it comes with. -/
theorem runCommand_ends (text : String) (options : CommandOptions) (w : World Scripted) :
    let c := scripted registry engine
    ∃ r u v parts, (c.runCommand text options).runOn w = some (r, v) ∧ u.device = w.device ∧
      c.CarriesOut u (c.commandErrands text options w.state) parts v := by
  intro c
  unfold commandErrands
  rw [runCommand]
  cases hoptions : options.mode with
  | none =>
    have heffective := runOn_effectiveMode_present (c := c) hoptions w
    dsimp only
    cases hmode : c.registry.get? w.state.mode with
    | none =>
      rw [Registry.require, hmode] at heffective
      exact ⟨_, w, w, [], Act.runOn_bind_error heffective _, rfl, .nil w⟩
    | some mode =>
      rw [Registry.require_of_get? hmode] at heffective
      obtain ⟨r, v, parts, hrun, hcarries⟩ :=
        carries_execute registry engine ⟨text, mode, options⟩ w
      exact ⟨r, w, v, parts, (Act.runOn_bind_ok heffective _).trans hrun, rfl, hcarries⟩
  | some override =>
    dsimp only
    cases hmode : c.overriding override with
    | none =>
      obtain ⟨f, heffective⟩ := runOn_effectiveMode_unknown hoptions hmode w
      exact ⟨_, w, w, [], Act.runOn_bind_error heffective _, rfl, .nil w⟩
    | some mode =>
      have heffective := runOn_effectiveMode_applied hoptions hmode w
      dsimp only
      cases herrands : installErrands mode (overridingLabel override) with
      | none =>
        obtain ⟨f, v, hinstall, hdevice⟩ :=
          installPager_of_refused registry engine herrands w
        have hrefused := heffective.trans (Act.runOn_bind_error hinstall _)
        exact ⟨.error f, v, v, [], Act.runOn_bind_error hrefused _, hdevice, .nil v⟩
      | some avoid =>
        obtain ⟨u, u', parts, hinstall, hdevice, havoid⟩ :=
          installPager_of_errands registry engine herrands w
        have happlied := heffective.trans (Act.runOn_bind_ok hinstall _)
        obtain ⟨r, v, more, hrun, hcarries⟩ :=
          carries_execute registry engine ⟨text, mode, options⟩ u'
        exact ⟨r, u, v, parts ++ more, (Act.runOn_bind_ok happlied _).trans hrun, hdevice,
          havoid.append hcarries⟩

/-- **Every call on a scripted device ends, and sends no more than the replies allow.** A macro
    sends the requests of its walk, and then what its commands send; a command of a script what it
    and the commands before it send. Each of these is a stretch: a send that finds no reply, or one
    in which none of its prompts is found, is the last of the walk or of the command it belongs to.
    So there is at most one such send for the walk and one for each command, and every other send
    takes a reply. -/
theorem calls_within_queue (registry : Registry) (engine : Engine) (w : World Scripted) :
    let c := scripted registry engine
    (∀ name, ∃ r u v walked parts, (c.runMacro name).runOn w = some (r, v) ∧
      Scripted.Stretch w.device walked u.device ∧
      (∀ request ∈ walked, c.HopRequest request) ∧
      c.CarriesOut u (c.macroErrands name w) parts v ∧
      v.device.sent = w.device.sent ++ (walked ++ parts.flatten) ∧
      (walked ++ parts.flatten).length ≤
        w.device.pending + (c.macroErrands name w).length + 1) ∧
    (∀ text options, ∃ r u v parts, (c.runCommand text options).runOn w = some (r, v) ∧
      u.device = w.device ∧
      c.CarriesOut u (c.commandErrands text options w.state) parts v ∧
      v.device.sent = w.device.sent ++ parts.flatten ∧
      parts.flatten.length ≤
        w.device.pending + (c.commandErrands text options w.state).length) ∧
    ∀ d front request back e, Scripted.Stretch d (front ++ request :: back) e →
      ∃ m, Scripted.Served d front m ∧ (m.Unmatched request → back = []) := by
  intro c
  refine ⟨?_, ?_, ?_⟩
  · intro name
    obtain ⟨r, u, v, walked, parts, hrun, hwalked, hhops, hcarries⟩ :=
      runMacro_ends registry engine name w
    have hstretches : Scripted.Stretches w.device (walked :: parts) v.device :=
      .cons hwalked hcarries.stretches
    have hlength := hstretches.length_le
    rw [List.length_cons, hcarries.length_eq] at hlength
    exact ⟨r, u, v, walked, parts, hrun, hwalked, hhops, hcarries, hstretches.record, hlength⟩
  · intro text options
    obtain ⟨r, u, v, parts, hrun, hdevice, hcarries⟩ :=
      runCommand_ends registry engine text options w
    have hstretches : Scripted.Stretches w.device parts v.device :=
      hdevice ▸ hcarries.stretches
    have hlength := hstretches.length_le
    rw [hcarries.length_eq] at hlength
    exact ⟨r, u, v, parts, hrun, hdevice, hcarries, hstretches.record, hlength⟩
  · intro d front request back e h
    exact h.ends

end DeviceCli.Console
