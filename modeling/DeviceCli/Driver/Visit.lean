import DeviceCli.Driver.Routine

/-!
# Visits to a device

A visit opens a session in the mode that the protocol starts in, and runs one job of a driver on
it: a snapshot, a free run, or the diagnostics that are pending.

* A snapshot and a run need a store for the configuration, diagnostics one for their results. Where
  the mode or the store is missing, nothing has been done.
* Only a snapshot makes the device store forget what it held.
* `Console.runDiagnostics` runs diagnostics in order, on one session, until one fails.
* There is nothing left of a visit that never ends.
-/

namespace DeviceCli

/-- What a driver is asked to do. -/
inductive Job where
  | snapshot | run | diagnostics
  deriving DecidableEq, Inhabited

namespace Job

/-- The name of a job. -/
def name : Job → String
  | snapshot => "snapshot"
  | run => "run"
  | diagnostics => "diagnostics"

/-- The job of exactly that name. -/
def named? : String → Option Job
  | "snapshot" => some snapshot
  | "run" => some run
  | "diagnostics" => some diagnostics
  | _ => none

/-- The job of that name, or a failure. -/
def parse (s : String) : Except Failure Job :=
  match named? s with
  | some j => .ok j
  | none => .error (.argument (.unknownFunction s))

end Job

/-- The routines for one type of device. Only that for snapshots has to be there. -/
structure Driver (τ : Type) where
  snapshot : CollectRoutine τ
  run : CollectRoutine τ := .failed (.definition .noRunRoutine)
  /-- the routine for a scripted diagnostic, by the name of the diagnostic -/
  diagnose : String → DiagnoseRoutine τ :=
    fun current => .failed (.definition (.noDiagnoseRoutine current))

/-- The stores that a visit writes to. -/
structure Stores where
  device : DeviceStore := {}
  config : Option ConfigStore := none
  diagnostics : Option DiagnosticStore := none
  deriving Inhabited

/-- What is left of a visit. -/
structure Visit (σ τ : Type) where
  result : Except Failure Unit
  device : σ
  journal : List Effect
  stores : Stores
  remarks : List τ

namespace Console

variable {σ τ : Type} (c : Console σ)

/-! ## 1. Diagnostics -/

/-- Carries out a diagnostic. -/
def runDiagnostic (driver : Driver τ) (d : Diagnostic) : StageAct σ DiagnosticStore τ Unit := do
  StageAct.onSession (Act.note "Running diagnostic" [("diagnostic", d.name)])
  match d.task with
  | .simple mode command =>
    StageAct.onSession (c.runMacro mode)
    let output ← StageAct.onSession (c.command command)
    (ResultCall.set (.text output)).perform d.name
  | .scripted => (driver.diagnose d.name).run (DiagnoseCall.perform c d.name)

/-- Carries out diagnostics in order, until one fails. -/
def runDiagnostics (driver : Driver τ) : List Diagnostic → StageAct σ DiagnosticStore τ Unit
  | [] => pure ()
  | d :: rest => do
    c.runDiagnostic driver d
    runDiagnostics driver rest

/-! ## 2. Visits -/

/-- A visit that ends before its job begins. -/
def refusedVisit (cause : Misconfiguration) (world : World σ) (stores : Stores) : Visit σ τ where
  result := .error (.definition cause)
  device := world.device
  journal := world.journal
  stores := stores
  remarks := []

/-- The visit that runs a routine on a stage; `keep` puts its stores back. There is none if the
    routine never ends. -/
def visitOn {κ : Type} (keep : DeviceStore → κ → Stores) (act : StageAct σ κ τ Unit)
    (stage : Stage σ κ τ) : Option (Visit σ τ) :=
  (act.run.run stage).map fun (result, stage) =>
    { result
      device := stage.world.device
      journal := stage.world.journal
      stores := keep stage.device stage.other
      remarks := stage.remarks }

/-- The visit in a session that has been opened. -/
def visitOpen (driver : Driver τ) (job : Job) (world : World σ) (stores : Stores) :
    Option (Visit σ τ) :=
  match job with
  | .snapshot => match stores.config with
    | none => some (refusedVisit .snapshotWithoutStore world stores)
    | some config =>
      visitOn (fun device config => { stores with device, config := some config })
        (driver.snapshot.run (CollectCall.perform c))
        { world, device := stores.device.reset, other := config }
  | .run => match stores.config with
    | none => some (refusedVisit .runWithoutStore world stores)
    | some config =>
      visitOn (fun device config => { stores with device, config := some config })
        (driver.run.run (CollectCall.perform c))
        { world, device := stores.device, other := config }
  | .diagnostics => match stores.diagnostics with
    | none => some (refusedVisit .diagnosticsWithoutStore world stores)
    | some diagnostics =>
      visitOn (fun device diagnostics => { stores with device, diagnostics := some diagnostics })
        (c.runDiagnostics driver diagnostics.pending)
        { world, device := stores.device, other := diagnostics }

/-- Visits a device: opens a session in a mode and runs a job of a driver. -/
def visit (protocol : String) (job : Job) (driver : Driver τ) (device : σ) (stores : Stores) :
    Option (Visit σ τ) :=
  match c.openSession protocol device with
  | .error f => some { result := .error f, device, journal := [], stores, remarks := [] }
  | .ok world =>
    let opening := Effect.noted
      (.engine "Running driver function" [("function", job.name), ("protocol", protocol)])
    c.visitOpen driver job { world with journal := world.journal ++ [opening] } stores

end Console

end DeviceCli
