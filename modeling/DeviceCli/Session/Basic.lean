import DeviceCli.Device.Link
import DeviceCli.Mode.Registry
import DeviceCli.Settings.Profile

/-!
# Sessions

A session drives a device over a connection. It knows in which mode the device is, how the prompt
of that mode is pinned to the name that the device showed there, which pager is installed, and
through which modes it went.

* `SessionState` is what changes, `Console` what stays the same during a session;
* `Act` is an action of a session: it may fail, and what it did before it failed stays done; it may
  also never end;
* the journal of a session lists all that it sent, slept and noted, in order.
-/

namespace DeviceCli

/-! ## 1. State -/

/-- A pager in use: what to look for and what to answer. -/
structure InstalledPager where
  detect : Pattern
  response : String
  deriving Inhabited

/-- What a session knows of its device. -/
structure SessionState where
  mode : String
  /-- the text that the prompt's first group is pinned to -/
  strict : Option String := none
  pager : Option InstalledPager := none
  /-- the modes the session has been in, the present one last -/
  history : List String
  deriving Inhabited

namespace SessionState

/-- The state of a session that begins in a mode. -/
def start (mode : String) : SessionState := { mode, history := [mode] }

/-- The state after the device went into a mode and showed a name there. -/
def enter (s : SessionState) (mode : String) (strict : Option String) : SessionState :=
  { s with mode, strict, history := s.history ++ [mode] }

end SessionState

/-- A remark about what happens: of the engine, with named values, or of a script. -/
inductive Event where
  | engine (message : String) (fields : List (String × String))
  | script (message : String)
  deriving DecidableEq, Inhabited

/-- One thing that a session did. -/
inductive Effect where
  | sent (request : Request)
  | slept (ms : Nat)
  | noted (event : Event)
  deriving DecidableEq, Inhabited

/-- A session with its device. -/
structure World (σ : Type) where
  device : σ
  state : SessionState
  journal : List Effect := []

/-- The events among the things a session did. -/
def eventsOf (journal : List Effect) : List Event :=
  journal.filterMap fun
    | .noted event => some event
    | _ => none

/-! ## 2. Actions -/

/-- An action of a session. It comes to a result or a failure, or to nothing: a device that never
    stops asking for the next page keeps it waiting for good. -/
abbrev Act (σ : Type) := ExceptT Failure (StateT (World σ) Option)

namespace Act

variable {σ α : Type}

/-- The action that fails. -/
def fail (f : Failure) : Act σ α := throw f

/-- The action of a result that is known already. -/
def lift (r : Except Failure α) : Act σ α :=
  match r with
  | .ok a => pure a
  | .error f => fail f

/-- The state of the session. -/
def state : Act σ SessionState := do return (← get).state

/-- Changes the state of the session. -/
def modifyState (f : SessionState → SessionState) : Act σ Unit :=
  modify fun w => { w with state := f w.state }

/-- Enters something into the journal. -/
def record (e : Effect) : Act σ Unit := modify fun w => { w with journal := w.journal ++ [e] }

/-- Notes an event. -/
def note (message : String) (fields : List (String × String)) : Act σ Unit :=
  record (.noted (.engine message fields))

/-- Tells a failure in another context, where it is one of the transport. -/
def inContext (context : String) (act : Act σ α) : Act σ α :=
  tryCatch act fun f => fail (f.inContext context)

/-- Runs an action and reports its failure as a result; what it did stays done. -/
def attempt (act : Act σ α) : Act σ (Except Failure α) :=
  tryCatch (do return .ok (← act)) fun f => return .error f

/-- Runs an action on a session. Nothing comes of one that never ends. -/
def runOn (act : Act σ α) (w : World σ) : Option (Except Failure α × World σ) := act.run.run w

section Run

variable {β : Type} (w : World σ)

@[simp] theorem runOn_pure (a : α) : (pure a : Act σ α).runOn w = some (.ok a, w) := rfl

@[simp] theorem runOn_fail (f : Failure) : (fail f : Act σ α).runOn w = some (.error f, w) := rfl

@[simp] theorem runOn_lift (r : Except Failure α) : (lift r : Act σ α).runOn w = some (r, w) := by
  cases r <;> rfl

@[simp] theorem runOn_get : (get : Act σ (World σ)).runOn w = some (.ok w, w) := rfl

@[simp] theorem runOn_set (w' : World σ) : (set w' : Act σ PUnit).runOn w = some (.ok ⟨⟩, w') := rfl

@[simp] theorem runOn_modify (f : World σ → World σ) :
    (modify f : Act σ PUnit).runOn w = some (.ok ⟨⟩, f w) := rfl

@[simp] theorem runOn_state : state.runOn w = some (.ok w.state, w) := rfl

@[simp] theorem runOn_modifyState (f : SessionState → SessionState) :
    (modifyState f).runOn w = some (.ok ⟨⟩, { w with state := f w.state }) := rfl

@[simp] theorem runOn_record (e : Effect) :
    (record e).runOn w = some (.ok ⟨⟩, { w with journal := w.journal ++ [e] }) := rfl

@[simp] theorem runOn_note (message : String) (fields : List (String × String)) :
    (note message fields).runOn w =
      some (.ok ⟨⟩, { w with journal := w.journal ++ [.noted (.engine message fields)] }) := rfl

/-- One action after another: what stops the first stops both. -/
theorem runOn_bind (act : Act σ α) (next : α → Act σ β) :
    (act >>= next).runOn w = match act.runOn w with
      | some (.ok a, w') => (next a).runOn w'
      | some (.error f, w') => some (.error f, w')
      | none => none := by
  show (act.run.run w).bind _ = _
  cases h : act.run.run w with
  | none => simp [runOn, h]
  | some p =>
    obtain ⟨r, w'⟩ := p
    cases r <;> simp [runOn, h] <;> rfl

theorem runOn_bind_ok {act : Act σ α} {w w' : World σ} {a : α} (h : act.runOn w = some (.ok a, w'))
    (next : α → Act σ β) : (act >>= next).runOn w = (next a).runOn w' := by
  rw [runOn_bind, h]

theorem runOn_bind_error {act : Act σ α} {w w' : World σ} {f : Failure}
    (h : act.runOn w = some (.error f, w')) (next : α → Act σ β) :
    (act >>= next).runOn w = some (.error f, w') := by
  rw [runOn_bind, h]

/-- What comes to something has failed in its first part, or it comes to what its second part comes
    to. -/
theorem runOn_bind_cases {act : Act σ α} {next : α → Act σ β} {w w' : World σ}
    {r : Except Failure β} (h : (act >>= next).runOn w = some (r, w')) :
    (∃ f, act.runOn w = some (.error f, w') ∧ r = .error f) ∨
    ∃ a v, act.runOn w = some (.ok a, v) ∧ (next a).runOn v = some (r, w') := by
  rw [runOn_bind] at h
  split at h
  · next a v hact => exact .inr ⟨a, v, hact, h⟩
  · next f v hact =>
    cases h
    exact .inl ⟨f, hact, rfl⟩
  · cases h

/-- What succeeds has succeeded in both of its parts. -/
theorem ok_of_runOn_bind {act : Act σ α} {next : α → Act σ β} {w w' : World σ} {b : β}
    (h : (act >>= next).runOn w = some (.ok b, w')) :
    ∃ a v, act.runOn w = some (.ok a, v) ∧ (next a).runOn v = some (.ok b, w') := by
  rcases runOn_bind_cases h with ⟨f, -, hf⟩ | hok
  · cases hf
  · exact hok

theorem runOn_tryCatch (act : Act σ α) (handler : Failure → Act σ α) :
    (tryCatch act handler).runOn w = match act.runOn w with
      | some (.ok a, w') => some (.ok a, w')
      | some (.error f, w') => (handler f).runOn w'
      | none => none := by
  show (act.run.run w).bind _ = _
  cases h : act.run.run w with
  | none => simp [runOn, h]
  | some p =>
    obtain ⟨r, w'⟩ := p
    cases r <;> simp [runOn, h] <;> rfl

/-- An attempt succeeds with what the action came to. -/
@[simp] theorem runOn_attempt (act : Act σ α) :
    (attempt act).runOn w = (act.runOn w).map fun p => (.ok p.1, p.2) := by
  rw [attempt, runOn_tryCatch, runOn_bind]
  match act.runOn w with
  | none => rfl
  | some (.ok a, w') => rfl
  | some (.error f, w') => rfl

@[simp] theorem runOn_inContext (context : String) (act : Act σ α) :
    (inContext context act).runOn w =
      (act.runOn w).map fun p => (p.1.mapError (Failure.inContext context), p.2) := by
  rw [inContext, runOn_tryCatch]
  match act.runOn w with
  | none => rfl
  | some (.ok a, w') => rfl
  | some (.error f, w') => rfl

end Run

end Act

/-! ## 3. Consoles -/

/-- What stays the same during a session: the connection, the modes and the settings. -/
structure Console (σ : Type) where
  link : Link σ
  registry : Registry
  engine : Engine

namespace Console

variable {σ : Type} (c : Console σ)

/-- Opens a session in a mode. -/
def openSession (initial : String) (device : σ) : Except Failure (World σ) := do
  let _ ← c.registry.require initial
  pure
    { device
      state := .start initial
      journal := [.noted (.engine "Opening CLI session" [("mode", initial)])] }

/-- The console of a profile. -/
def ofProfile (link : Link σ) (p : Profile) : Console σ := ⟨link, p.modes, p.engine⟩

/-- Lets so many milliseconds pass. -/
def sleep (ms : Nat) : Act σ Unit := do
  modify fun w => { w with device := c.link.sleep w.device ms }
  Act.record (.slept ms)

/-- Lets so many milliseconds pass, which must not be negative. -/
def sleepFor (ms : Int) : Act σ Unit :=
  if ms < 0 then Act.fail (.argument (.sleepDuration ms)) else c.sleep ms.toNat

/-- A wait that may be absent. -/
def pause : Option Nat → Act σ Unit
  | some ms => c.sleep ms
  | none => pure ()

/-- Sends a request as it is. -/
def transmit (request : Request) : Act σ Exchange := do
  let w ← get
  let (answer, device) := c.link.send w.device request
  set { w with device, journal := w.journal ++ [Effect.sent request] }
  Act.lift answer

/-- The failure of an answer that names a prompt which was not offered. -/
def outOfRange (x : Exchange) (offered : Nat) : Failure :=
  .transport "invalid transport reply"
    s!"match index {x.matchIndex} out of range for {offered} prompts" (some x.fullOutput)

/-- An answer, if it names one of the prompts offered. -/
def inRange (offered : Nat) (x : Exchange) : Except Failure Exchange :=
  if x.matchIndex < offered then .ok x else .error (outOfRange x offered)

/-- Sends a text and waits for one of some prompts, for the time given or else the time that the
    settings allow. -/
def exchange (text : String) (prompts : List String) (timeout : Option Nat) : Act σ Exchange := do
  let x ← c.transmit ⟨text, prompts, timeout.or c.engine.commandTimeout⟩
  Act.lift (inRange prompts.length x)

/-! ## 4. What sending and waiting leave behind -/

/-- What a device answers to a request in a session. -/
def answerTo (request : Request) (w : World σ) : Except Failure Exchange :=
  (c.link.send w.device request).1

/-- A session after a request. -/
def afterSend (request : Request) (w : World σ) : World σ :=
  { w with
    device := (c.link.send w.device request).2
    journal := w.journal ++ [.sent request] }

/-- A session after a wait that may be absent. -/
def afterPause (ms : Option Nat) (w : World σ) : World σ :=
  match ms with
  | some ms =>
    { w with
      device := c.link.sleep w.device ms
      journal := w.journal ++ [.slept ms] }
  | none => w

section Run

variable (w : World σ)

@[simp] theorem state_afterSend (request : Request) : (c.afterSend request w).state = w.state := rfl

@[simp] theorem state_afterPause (ms : Option Nat) : (c.afterPause ms w).state = w.state := by
  cases ms <;> rfl

@[simp] theorem runOn_pause (ms : Option Nat) :
    (c.pause ms).runOn w = some (.ok (), c.afterPause ms w) := by
  cases ms <;> rfl

@[simp] theorem runOn_transmit (request : Request) :
    (c.transmit request).runOn w = some (c.answerTo request w, c.afterSend request w) := by
  rw [transmit, Act.runOn_bind_ok (Act.runOn_get w)]
  exact Act.runOn_lift _ _

/-- **An exchange** sends one request, whatever comes of it. -/
@[simp] theorem runOn_exchange (text : String) (prompts : List String) (timeout : Option Nat) :
    (c.exchange text prompts timeout).runOn w =
      let request : Request := ⟨text, prompts, timeout.or c.engine.commandTimeout⟩
      some (c.answerTo request w >>= inRange prompts.length, c.afterSend request w) := by
  rw [exchange, Act.runOn_bind, runOn_transmit]
  cases h : c.answerTo ⟨text, prompts, timeout.or c.engine.commandTimeout⟩ w with
  | ok x =>
    simp only [Act.runOn_lift, h]
    rfl
  | error f =>
    simp only [h]
    rfl

end Run

end Console

end DeviceCli
