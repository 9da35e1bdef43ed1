import DeviceCli.Session.Command

/-!
# Walking between modes

A macro sends a text and finds the device in one of several modes. Where that is not yet the target
of the first macro, the walk goes on with the macro `auto` of the mode reached, or else with the
macro of the first one's name, up to a limit of hops.

* `Console.hop` is one such step, `Console.walk` the walk, `Console.runMacro` the whole call;
* `Console.goOn` is what follows a hop.
-/

namespace DeviceCli

/-- What a walk keeps in mind: the macro that was asked for, and the mode where it began. -/
structure Chain where
  name : String
  origin : String

namespace Console

variable {σ : Type} (c : Console σ)

/-! ## 1. One hop -/

/-- The step of a macro in a mode, or what is missing. -/
def stepOf (mode : Mode) (modeName name : String) : Except Misconfiguration Step :=
  if mode.macros.isEmpty then .error (.noMacros modeName)
  else match mode.macros.get? name with
    | some step => .ok step
    | none => .error (.noSuchMacro name modeName)

/-- The target of a walk: the one it has, or that of its first step. -/
def targetOf (target : Option String) (step : Step) (modeName name : String) :
    Except Misconfiguration String :=
  match target.or step.target with
  | some target => .ok target
  | none => .error (.noTarget name modeName)

/-- The prompts of the modes that a step may lead to, in order. -/
def promptsOf : List String → Except Failure (List String)
  | [] => .ok []
  | option :: rest => do
    let mode ← c.registry.require option
    pure (mode.prompt.source :: (← promptsOf rest))

/-- What a hop is about to do: by which step of which mode it goes, offering which prompts, and
    where its walk is to end. -/
structure Plan where
  mode : Mode
  step : Step
  target : String
  prompts : List String

/-- The plan of a hop by a macro from the present mode. -/
def planOf (s : SessionState) (name : String) (target : Option String) : Except Failure Plan := do
  let mode ← c.registry.require s.mode
  let step ← (stepOf mode s.mode name).mapError .definition
  let target ← (targetOf target step s.mode name).mapError .definition
  let prompts ← c.promptsOf step.options
  pure { mode, step, target, prompts }

/-- The context of a failure while a macro runs. -/
def macroContext (name : String) : String := s!"error while running CLI macro '{name}'"

/-- Runs a step: waits, sends, waits. The second wait is kept also when the exchange fails. -/
def perform (step : Step) (name : String) (prompts : List String) : Act σ Exchange := do
  c.pause step.waitBefore
  let sent ← Act.attempt (c.exchange (step.outgoing c.engine.lineEnding) prompts step.timeout)
  c.pause step.waitAfter
  Act.lift (sent.mapError (Failure.inContext (macroContext name)))

/-- The failure that the error pattern of the mode left finds in an output. -/
def stepError (mode : Mode) (step : Step) (output : String) : Except Failure Unit :=
  match mode.error with
  | none => .ok ()
  | some pattern => match pattern.detail? output with
    | some detail => .error (.reported detail (step.cmd.getD ""))
    | none => .ok ()

/-- What is noted when a hop has reached a mode. -/
def hopMessage : String := "CLI mode changed"

/-- The event of a hop from a mode to another one. -/
def hopEvent (left landed : String) (depth : Nat) : Event :=
  .engine hopMessage [("from", left), ("to", landed), ("depth", toString depth)]

/-- One hop by a macro: the target of the walk, and the mode where the device is now. -/
def hop (name : String) (target : Option String) (depth : Nat) : Act σ (String × String) := do
  let s ← Act.state
  let plan ← Act.lift (c.planOf s name target)
  let x ← c.perform plan.step name plan.prompts
  Act.lift (stepError plan.mode plan.step x.output)
  -- an exchange names one of the prompts offered, and there is one for each option
  let landed := plan.step.options.getD x.matchIndex ""
  Act.modifyState fun st => st.enter landed (x.group? 1)
  Act.record (.noted (hopEvent s.mode landed depth))
  pure (plan.target, landed)

/-! ## 2. The walk -/

/-- The macro to go on with in a mode: `auto`, or the one that was asked for. -/
def nextMacro (mode : Mode) (name : String) : Option String :=
  if mode.macros.contains autoMacro then some autoMacro
  else if mode.macros.contains name then some name
  else none

/-- Walks by a macro until the target is reached; `left` is how many hops are still allowed. -/
def walkFrom (chain : Chain) : Nat → String → Option String → Act σ Unit
  | 0, _, _ => Act.fail (.tooManyHops c.engine.maxHops)
  | left + 1, name, target => do
    let (target, landed) ← c.hop name target (c.engine.maxHops - left)
    if landed = target then
      Act.note "Reached target mode" [("mode", landed)]
    else
      let mode ← Act.lift (c.registry.require landed)
      match mode.fail with
      | some message => Act.fail (.deadEnd landed message)
      | none =>
        match nextMacro mode chain.name with
        | some next => walkFrom chain left next (some target)
        | none => pure ()
        let s ← Act.state
        if s.mode = target then pure ()
        else Act.fail (.chainEnded chain.name chain.origin target s.mode)

/-- A look at where a walk has come to an end: in its target, or elsewhere. -/
def lookFor (chain : Chain) (target : String) : Act σ Unit := do
  let s ← Act.state
  if s.mode = target then pure ()
  else Act.fail (.chainEnded chain.name chain.origin target s.mode)

/-- How a walk goes on in a mode that it has entered. -/
def goOn (chain : Chain) (left : Nat) (target landed : String) : Act σ Unit :=
  if landed = target then Act.note "Reached target mode" [("mode", landed)]
  else do
    let mode ← Act.lift (c.registry.require landed)
    match mode.fail with
    | some message => Act.fail (.deadEnd landed message)
    | none =>
      match nextMacro mode chain.name with
      | some next =>
        c.walkFrom chain left next (some target)
        lookFor chain target
      | none => lookFor chain target

/-- A walk is one hop, and the rest of it goes on where the hop has led. -/
theorem walkFrom_succ (chain : Chain) (left : Nat) (name : String) (target : Option String) :
    c.walkFrom chain (left + 1) name target =
      c.hop name target (c.engine.maxHops - left) >>= fun (target, landed) =>
        c.goOn chain left target landed := by
  rw [walkFrom]
  rfl

/-- The whole walk by a macro from the present mode. -/
def walk (name : String) : Act σ Unit := do
  let s ← Act.state
  c.walkFrom ⟨name, s.mode⟩ (c.engine.maxHops + 1) name none

/-- Installs the pager of the present mode. -/
def installPresentPager : Act σ Unit := do
  let s ← Act.state
  let mode ← Act.lift (c.registry.require s.mode)
  c.installPager mode s.mode

/-- Runs a macro, and installs the pager of the mode it leads to. A macro with the name of the
    present mode does nothing. -/
def runMacro (name : String) : Act σ Unit := do
  let s ← Act.state
  if s.mode = name then pure ()
  else
    Act.note "Running CLI macro" [("macro_name", name), ("mode", s.mode)]
    c.walk name
    c.installPresentPager

end Console

end DeviceCli
