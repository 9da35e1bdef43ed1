import DeviceCli.Driver.Diagnostic
import DeviceCli.Session.Walk

/-!
# Routines of a driver

A `Routine` is what a driver does during a visit to a device, as a tree: it ends, or it makes a
call and goes on according to what the call came to. All that it can do is in the type of its
calls, so what is proved for every tree holds for every driver.

* `CollectRoutine` collects data: it works on the session, the device and the configuration;
* `DiagnoseRoutine` carries out one diagnostic: it works on the session, on the device without its
  collections, and on the results;
* `Routine.run` runs a tree, given how to perform a call.

A routine may leave remarks for whoever runs it. They are kept whatever becomes of the routine.
-/

namespace DeviceCli

/-- A routine over calls of type `κ` with answers of type `ρ`, which leaves remarks of type `τ`. -/
inductive Routine (κ : Type) (ρ : κ → Type) (τ : Type) where
  | done
  | failed (f : Failure)
  | remark (r : τ) (next : Routine κ ρ τ)
  | call (c : κ) (next : Except Failure (ρ c) → Routine κ ρ τ)

/-! ## 1. Calls -/

/-- A call to the session. -/
inductive SessionCall where
  | runMacro (name : String)
  | command (text : String) (options : CommandOptions)
  | sleep (ms : Int)
  | state
  | debug (message : String)
  | transmit (request : Request)

/-- What a call to the session answers. -/
def SessionCall.Answer : SessionCall → Type
  | command _ _ => String
  | state => SessionState
  | transmit _ => Exchange
  | _ => Unit

/-- A call to the store of the device. -/
inductive DeviceCall where
  | set (key : String) (value : Attribute)
  | setJson (key : String) (value : Json)
  | add (name : String) (value : Attribute)
  | addJson (name : String) (value : Json)
  | get (key : String)

/-- What a call to the store of the device answers. -/
def DeviceCall.Answer : DeviceCall → Type
  | get _ => Option Attribute
  | _ => Unit

/-- A call to the store of the configuration. -/
inductive ConfigCall where
  | set (key : String) (value : Attribute)
  | setJson (key : String) (value : Json)
  | download (key method file : String) (store : Option String)

/-- A call to the results of diagnostics. -/
inductive ResultCall where
  /-- the result of the diagnostic that is carried out -/
  | set (value : Attribute)
  /-- the result of a diagnostic by name -/
  | setKey (key : String) (value : Attribute)

/-- A call of a routine that collects data. -/
inductive CollectCall where
  | session (c : SessionCall)
  | device (c : DeviceCall)
  | config (c : ConfigCall)

/-- What such a call answers. -/
def CollectCall.Answer : CollectCall → Type
  | session c => c.Answer
  | device c => c.Answer
  | config _ => Unit

/-- A call of a routine that carries out a diagnostic. -/
inductive DiagnoseCall where
  | session (c : SessionCall)
  | device (c : DeviceCall)
  | result (c : ResultCall)

/-- What such a call answers. -/
def DiagnoseCall.Answer : DiagnoseCall → Type
  | session c => c.Answer
  | device c => c.Answer
  | result _ => Unit

/-- A routine that collects data. -/
abbrev CollectRoutine := Routine CollectCall CollectCall.Answer

/-- A routine that carries out a diagnostic. -/
abbrev DiagnoseRoutine := Routine DiagnoseCall DiagnoseCall.Answer

/-! ## 2. The stage of a routine -/

/-- What a routine works on: the session, the device, another store, and its remarks so far. -/
structure Stage (σ κ τ : Type) where
  world : World σ
  device : DeviceStore
  other : κ
  remarks : List τ := []

/-- An action on a stage. It may fail, and what it did before it failed stays done; like an action
    of the session it may also never end. -/
abbrev StageAct (σ κ τ : Type) := ExceptT Failure (StateT (Stage σ κ τ) Option)

namespace StageAct

variable {σ κ τ α : Type}

/-- An action of the session. -/
def onSession (act : Act σ α) : StageAct σ κ τ α :=
  ExceptT.mk fun s => (act.runOn s.world).map fun (result, world) => (result, { s with world })

/-- The action that fails. -/
def fail (f : Failure) : StageAct σ κ τ α := throw f

/-- Replaces the store of the device, unless that is refused. -/
def onDevice (change : DeviceStore → Except Failure DeviceStore) : StageAct σ κ τ Unit := do
  let s ← get
  match change s.device with
  | .ok device => set { s with device }
  | .error f => fail f

/-- Replaces the other store, unless that is refused. -/
def onOther (change : κ → Except Failure κ) : StageAct σ κ τ Unit := do
  let s ← get
  match change s.other with
  | .ok other => set { s with other }
  | .error f => fail f

/-- Leaves a remark. -/
def leave (r : τ) : StageAct σ κ τ Unit := modify fun s => { s with remarks := s.remarks ++ [r] }

/-- Runs an action and reports its failure as a result; what it did stays done. -/
def attempt (act : StageAct σ κ τ α) : StageAct σ κ τ (Except Failure α) :=
  tryCatch (do return .ok (← act)) fun f => return .error f

end StageAct

/-! ## 3. Performing calls -/

/-- Performs a call to the session. -/
def SessionCall.perform {σ : Type} (c : Console σ) : (call : SessionCall) → Act σ call.Answer
  | runMacro name => c.runMacro name
  | command text options => c.runCommand text options
  | sleep ms => c.sleepFor ms
  | state => Act.state
  | debug message => Act.record (.noted (.script message))
  | transmit request => c.transmit request

/-- Performs a call to the store of the device. -/
def DeviceCall.perform {σ κ τ : Type} (access : Access) :
    (call : DeviceCall) → StageAct σ κ τ call.Answer
  | set key value => StageAct.onDevice fun d => d.set key value
  | setJson key value => StageAct.onDevice fun d => d.setJson key value
  | add name value => StageAct.onDevice fun d => d.add access name value
  | addJson name value => StageAct.onDevice fun d => d.addJson access name value
  | get key => do return (← MonadState.get).device.get? key

/-- The event of a download. -/
def Download.event (d : Download) : Event :=
  .engine "Downloading file from device"
    [("key", d.key), ("method", d.method.name), ("file", d.remote)]

/-- Performs a call to the store of the configuration. -/
def ConfigCall.perform {σ τ : Type} : ConfigCall → StageAct σ ConfigStore τ Unit
  | set key value => StageAct.onOther fun s => s.set key value
  | setJson key value => StageAct.onOther fun s => s.setJson key value
  | download key method file store =>
    match Download.make key method file store with
    | .error f => StageAct.fail f
    | .ok d => do
      StageAct.onSession (Act.record (.noted d.event))
      StageAct.onOther fun s => .ok (s.request d)

/-- Performs a call to the results, while a diagnostic is carried out. -/
def ResultCall.perform {σ τ : Type} (current : String) :
    ResultCall → StageAct σ DiagnosticStore τ Unit
  | set value => StageAct.onOther fun s => .ok (s.setResult current value)
  | setKey key value => StageAct.onOther fun s => s.setKey key value

/-- Performs a call of a routine that collects data. -/
def CollectCall.perform {σ τ : Type} (c : Console σ) :
    (call : CollectCall) → StageAct σ ConfigStore τ call.Answer
  | session call => StageAct.onSession (call.perform c)
  | device call => call.perform .full
  | config call => call.perform

/-- Performs a call of a routine that carries out a diagnostic. -/
def DiagnoseCall.perform {σ τ : Type} (c : Console σ) (current : String) :
    (call : DiagnoseCall) → StageAct σ DiagnosticStore τ call.Answer
  | session call => StageAct.onSession (call.perform c)
  | device call => call.perform .setOnly
  | result call => call.perform current

/-! ## 4. Running routines -/

/-- Runs a routine, given how to perform its calls. -/
def Routine.run {κ : Type} {ρ : κ → Type} {σ ι τ : Type} (perform : (c : κ) → StageAct σ ι τ (ρ c)) :
    Routine κ ρ τ → StageAct σ ι τ Unit
  | done => pure ()
  | failed f => StageAct.fail f
  | remark r next => do
    StageAct.leave r
    next.run perform
  | call c next => do
    let outcome ← StageAct.attempt (perform c)
    (next outcome).run perform

end DeviceCli
