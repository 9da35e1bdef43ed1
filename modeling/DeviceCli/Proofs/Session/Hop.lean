import DeviceCli.Proofs.Mode.Sound
import DeviceCli.Session.Walk

/-!
# One hop of a walk

A hop is planned from what the session knows, then performed, and what it comes to follows from the
answer of the device alone.

* `planOf_eq_ok_iff`: the plans there are; a macro of a mode of the registry never lacks a prompt;
* `landing`: what a hop comes to, by the answer to its request;
* `runOn_hop`: **a hop in one equation**, and `hop_cases`: its three outcomes.
-/

namespace DeviceCli

/-- A session that enters a mode in a walk. -/
def World.land {σ : Type} (w : World σ) (mode : String) (strict : Option String) (depth : Nat) :
    World σ :=
  { w with
    state := w.state.enter mode strict
    journal := w.journal ++ [.noted (Console.hopEvent w.state.mode mode depth)] }

namespace Console

variable {σ : Type} (c : Console σ)

/-! ## 1. Plans -/

/-- The prompts of the modes that a step may lead to, as far as there are such modes. -/
def sourcesOf (step : Step) : List String :=
  step.options.filterMap fun option => (c.registry.get? option).map (·.prompt.source)

theorem promptsOf_eq {options : List String}
    (h : ∀ option ∈ options, ∃ mode, c.registry.get? option = some mode) :
    c.promptsOf options =
        .ok (options.filterMap fun option => (c.registry.get? option).map (·.prompt.source)) ∧
      (options.filterMap fun option =>
        (c.registry.get? option).map (·.prompt.source)).length = options.length := by
  induction options with
  | nil => exact ⟨rfl, rfl⟩
  | cons option rest ih =>
    obtain ⟨mode, hm⟩ := h option List.mem_cons_self
    obtain ⟨hp, hl⟩ := ih fun o ho => h o (List.mem_cons_of_mem _ ho)
    rw [promptsOf, Registry.require_of_get? hm, hp]
    simp [hm, hl, bind, Except.bind, pure, Except.pure]

/-- A plan fails with the first of four things that the definitions may lack, and with nothing
    else: the prompts of a step's options are all there. -/
theorem planOf_eq (s : SessionState) (name : String) (target : Option String) :
    c.planOf s name target = match c.registry.get? s.mode with
      | none => .error (.definition (.noSuchMode s.mode))
      | some mode =>
        if mode.macros.isEmpty then .error (.definition (.noMacros s.mode))
        else match mode.macros.get? name with
          | none => .error (.definition (.noSuchMacro name s.mode))
          | some step => match target.or step.target with
            | none => .error (.definition (.noTarget name s.mode))
            | some target => .ok ⟨mode, step, target, c.sourcesOf step⟩ := by
  rw [planOf, Registry.require]
  cases hm : c.registry.get? s.mode with
  | none => rfl
  | some mode =>
    show (stepOf mode s.mode name).mapError Failure.definition >>= _ = _
    rw [stepOf]
    by_cases he : mode.macros.isEmpty = true
    · simp only [he, if_true]
      rfl
    · simp only [he, Bool.false_eq_true, if_false]
      cases hs : mode.macros.get? name with
      | none => rfl
      | some step =>
        show (targetOf target step s.mode name).mapError Failure.definition >>= _ =
          match target.or step.target with
          | none => .error (.definition (.noTarget name s.mode))
          | some target => Except.ok (Plan.mk mode step target (c.sourcesOf step))
        rw [targetOf]
        cases ht : target.or step.target with
        | none => rfl
        | some t =>
          have hp := (c.promptsOf_eq fun _ => Registry.get?_of_mem_options hm hs).1
          show c.promptsOf step.options >>= _ = _
          rw [hp]
          rfl

variable {c} {s : SessionState} {name : String} {target : Option String} {plan : Plan}

/-- **The plans of hops**: the mode is the present one, the step its macro, the target the one that
    is given or else that of the step, and each option of the step has its prompt. -/
theorem planOf_eq_ok_iff :
    c.planOf s name target = .ok plan ↔
      c.registry.get? s.mode = some plan.mode ∧ plan.mode.macros.get? name = some plan.step ∧
      target.or plan.step.target = some plan.target ∧ plan.prompts = c.sourcesOf plan.step := by
  rw [planOf_eq]
  constructor
  · intro h
    split at h
    · cases h
    · next mode hm =>
      split at h
      · cases h
      · split at h
        · cases h
        · next step hs =>
          split at h
          · cases h
          · next t ht =>
            cases h
            exact ⟨hm, hs, ht, rfl⟩
  · obtain ⟨mode, step, t, prompts⟩ := plan
    rintro ⟨hm, hs, ht, hp⟩
    simp only at hm hs ht hp
    have he : ¬ mode.macros.isEmpty = true := fun he => by
      have : mode.macros.entries = [] := by simpa [Keyed.isEmpty] using he
      simp [Keyed.get?, this] at hs
    simp only [hm, he, hs, ht, hp]
    rfl

theorem length_prompts (h : c.planOf s name target = .ok plan) :
    plan.prompts.length = plan.step.options.length := by
  obtain ⟨hm, hs, -, hp⟩ := planOf_eq_ok_iff.mp h
  rw [hp]
  exact (c.promptsOf_eq fun _ => Registry.get?_of_mem_options hm hs).2

/-! ## 2. Performing a plan -/

/-- What the planned hop sends. -/
def requestOf (c : Console σ) (plan : Plan) : Request :=
  ⟨plan.step.outgoing c.engine.lineEnding, plan.prompts,
    plan.step.timeout.or c.engine.commandTimeout⟩

/-- The answer that the planned hop gets. -/
def answerOf (c : Console σ) (plan : Plan) (w : World σ) : Except Failure Exchange :=
  c.answerTo (c.requestOf plan) (c.afterPause plan.step.waitBefore w)

/-- A session after the waits and the exchange of the planned hop. -/
def afterPerform (c : Console σ) (plan : Plan) (w : World σ) : World σ :=
  c.afterPause plan.step.waitAfter
    (c.afterSend (c.requestOf plan) (c.afterPause plan.step.waitBefore w))

@[simp] theorem state_afterPerform (w : World σ) : (c.afterPerform plan w).state = w.state := by
  simp [afterPerform]

theorem runOn_perform (name : String) (w : World σ) :
    (c.perform plan.step name plan.prompts).runOn w =
      some ((c.answerOf plan w >>= inRange plan.prompts.length).mapError
        (Failure.inContext (macroContext name)), c.afterPerform plan w) := by
  rw [perform, Act.runOn_bind_ok (c.runOn_pause w _), Act.runOn_bind, Act.runOn_attempt,
    runOn_exchange]
  show (_ : Act σ Exchange).runOn _ = _
  rw [Act.runOn_bind_ok (c.runOn_pause _ _), Act.runOn_lift]
  rfl

/-- What a hop comes to by the answer to its request: a failure, or the mode entered and the text
    that its prompt is pinned to. -/
def landing (name : String) (mode : Mode) (step : Step) :
    Except Failure Exchange → Except Failure (String × Option String)
  | .error f => .error (f.inContext (macroContext name))
  | .ok x => match step.options[x.matchIndex]? with
    | none => .error ((outOfRange x step.options.length).inContext (macroContext name))
    | some landed => match mode.error.bind (·.detail? x.output) with
      | some detail => .error (.reported detail (step.cmd.getD ""))
      | none => .ok (landed, x.group? 1)

theorem mem_options_of_landing {macroName landed : String} {mode : Mode} {step : Step}
    {answer : Except Failure Exchange} {strict : Option String}
    (h : landing macroName mode step answer = .ok (landed, strict)) : landed ∈ step.options := by
  cases answer with
  | error f => cases h
  | ok x =>
    rw [landing] at h
    split at h
    · cases h
    · next hx =>
      split at h
      · cases h
      · cases h
        exact List.mem_of_getElem? hx

/-- The checks of a hop come to its landing. -/
theorem landing_eq (h : c.planOf s name target = .ok plan) (name' : String)
    (answer : Except Failure Exchange) :
    landing name' plan.mode plan.step answer = (do
      let x ← (answer >>= inRange plan.prompts.length).mapError
        (Failure.inContext (macroContext name'))
      stepError plan.mode plan.step x.output
      pure (plan.step.options.getD x.matchIndex "", x.group? 1)) := by
  rw [length_prompts h]
  cases answer with
  | error f => rfl
  | ok x =>
    show landing name' plan.mode plan.step (.ok x) =
      (do
        let x ← (inRange plan.step.options.length x).mapError
          (Failure.inContext (macroContext name'))
        stepError plan.mode plan.step x.output
        pure (plan.step.options.getD x.matchIndex "", x.group? 1))
    by_cases hx : x.matchIndex < plan.step.options.length
    · have hl : plan.step.options.getD x.matchIndex "" = plan.step.options[x.matchIndex] := by
        simp [hx]
      rw [inRange, if_pos hx, landing, List.getElem?_eq_getElem hx]
      show _ = stepError plan.mode plan.step x.output >>= fun _ =>
        pure (plan.step.options.getD x.matchIndex "", x.group? 1)
      rw [hl, stepError]
      cases plan.mode.error with
      | none => rfl
      | some pattern =>
        simp only [Option.bind_some]
        cases pattern.detail? x.output <;> rfl
    · rw [inRange, if_neg hx, landing, List.getElem?_eq_none (Nat.le_of_not_lt hx)]
      rfl

/-- **A hop in one equation.** Without a plan nothing happens; with one, all that counts is what
    the device answers. -/
theorem runOn_hop (w : World σ) (name : String) (target : Option String) (depth : Nat) :
    (c.hop name target depth).runOn w = match c.planOf w.state name target with
      | .error f => some (.error f, w)
      | .ok plan => match landing name plan.mode plan.step (c.answerOf plan w) with
        | .error f => some (.error f, c.afterPerform plan w)
        | .ok (landed, strict) =>
          some (.ok (plan.target, landed), (c.afterPerform plan w).land landed strict depth) := by
  rw [hop, Act.runOn_bind_ok (Act.runOn_state w), Act.runOn_bind, Act.runOn_lift]
  cases hp : c.planOf w.state name target with
  | error f => rfl
  | ok plan =>
    dsimp only
    rw [Act.runOn_bind, runOn_perform, landing_eq hp]
    cases (c.answerOf plan w >>= inRange plan.prompts.length).mapError
      (Failure.inContext (macroContext name)) with
    | error f => rfl
    | ok x =>
      dsimp only
      rw [Act.runOn_bind, Act.runOn_lift]
      show _ = match (do
        stepError plan.mode plan.step x.output
        pure (plan.step.options.getD x.matchIndex "", x.group? 1) : Except Failure _) with
        | .error f => _
        | .ok (landed, strict) => _
      cases stepError plan.mode plan.step x.output with
      | error f => rfl
      | ok u =>
        rw [← state_afterPerform w]
        rfl

/-- The outcomes of a hop: there is no plan for it, it fails as planned, or it lands. -/
theorem hop_cases {w v : World σ} {depth : Nat} {r : Except Failure (String × String)}
    (h : (c.hop name target depth).runOn w = some (r, v)) :
    (∃ f, c.planOf w.state name target = .error f ∧ r = .error f ∧ v = w) ∨
    ∃ plan, c.planOf w.state name target = .ok plan ∧
      ((∃ f, landing name plan.mode plan.step (c.answerOf plan w) = .error f ∧ r = .error f ∧
          v = c.afterPerform plan w) ∨
        ∃ landed strict,
          landing name plan.mode plan.step (c.answerOf plan w) = .ok (landed, strict) ∧
          r = .ok (plan.target, landed) ∧ v = (c.afterPerform plan w).land landed strict depth) := by
  rw [runOn_hop] at h
  cases hp : c.planOf w.state name target with
  | error f =>
    rw [hp] at h
    cases h
    exact .inl ⟨f, rfl, rfl, rfl⟩
  | ok plan =>
    rw [hp] at h
    dsimp only at h
    cases hl : landing name plan.mode plan.step (c.answerOf plan w) with
    | error f =>
      rw [hl] at h
      cases h
      exact .inr ⟨plan, rfl, .inl ⟨f, hl, rfl, rfl⟩⟩
    | ok l =>
      rw [hl] at h
      cases h
      exact .inr ⟨plan, rfl, .inr ⟨_, _, hl, rfl, rfl⟩⟩

/-- The text that a prompt is pinned to is what the answer captured. -/
theorem strict_of_landing {macroName landed : String} {mode : Mode} {step : Step} {x : Exchange}
    {strict : Option String} (h : landing macroName mode step (.ok x) = .ok (landed, strict)) :
    strict = x.group? 1 := by
  rw [landing] at h
  split at h
  · cases h
  · split at h
    · cases h
    · cases h
      rfl

/-! ## 3. A login -/

/-- The modes of a device that may ask for a password on the way to its mode `enable`. -/
def loginModes : Registry where
  modes := Keyed.ofList
    [ ("enable", { prompt := ⟨"#", default⟩ }),
      ("password",
        { prompt := ⟨"Password:", default⟩
          macros := Keyed.ofList
            [("auto", { cmd := some "secret", options := ["enable", "user"] })] }),
      ("user",
        { prompt := ⟨">", default⟩
          macros := Keyed.ofList
            [("enable",
              { cmd := some "enable", options := ["enable", "password"],
                target := some "enable" })] }) ]
  valid := by rfl

/-- A console on that device. -/
def loginConsole : Console (List (Except Failure Exchange)) := ⟨Link.canned, loginModes, {}⟩

/-- A session that was opened in the mode `user` of that device, which is going to ask for the
    password once. -/
def loginWorld : World (List (Except Failure Exchange)) where
  device :=
    [ .ok ⟨"", "Password:", 1, [some "Password:"]⟩,
      .ok ⟨"", "core#", 0, [some "core#", some "core"]⟩ ]
  state := .start "user"
  journal := [.noted (.engine "Opening CLI session" [("mode", "user")])]

end Console

end DeviceCli
