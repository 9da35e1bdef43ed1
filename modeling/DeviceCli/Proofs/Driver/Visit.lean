import DeviceCli.Proofs.Driver.Writes
import DeviceCli.Proofs.Session.Journal

/-!
# What a visit does to the stores

A visit is refused before its job begins, or its job runs. One that is refused has done nothing: the
stores are as they were, the device store is not reset, and nothing was sent. Otherwise the stores
hold what they held when the job began and what the calls that succeeded wrote to them, whatever
became of the job in the end.

* `Console.Refused`: why a visit is refused;
* `Diagnostic.routine`: every diagnostic is a routine, simple ones too;
* `Console.InTurn`: diagnostics in turn, each with the calls that it made;
* `Console.Visited`: what is left of a visit whose job ran, in terms of the calls that were made;
* `Console.visit_settled`: **a visit is refused, or its job ran**.
-/

namespace DeviceCli

/-! ## 1. Diagnostics as routines -/

/-- A diagnostic as a routine. A simple one goes to its mode, gives its command and stores what that
    showed, and fails where one of the three does. -/
def Diagnostic.routine {τ : Type} (driver : Driver τ) (d : Diagnostic) : DiagnoseRoutine τ :=
  match d.task with
  | .simple mode command =>
    .insist (.session (.runMacro mode)) fun _ =>
    .insist (.session (.command command {})) fun (output : String) =>
    .insist (.result (.set (.text output))) fun _ => .done
  | .scripted => driver.diagnose d.name

namespace Console

variable {σ τ : Type} {c : Console σ} {driver : Driver τ}

theorem runOn_session (current : String) (call : SessionCall) (s : Stage σ DiagnosticStore τ) :
    (DiagnoseCall.perform c current (.session call)).runOn s =
      ((call.perform c).runOn s.world).map fun p => (p.1, { s with world := p.2 }) := rfl

/-- **A diagnostic is announced, and then its routine is run.** -/
theorem runOn_runDiagnostic (d : Diagnostic) (s : Stage σ DiagnosticStore τ) :
    (c.runDiagnostic driver d).runOn s =
      ((d.routine driver).run (DiagnoseCall.perform c d.name)).runOn (announced s d) := by
  cases htask : d.task with
  | scripted =>
    rw [runOn_runDiagnostic_scripted htask, Diagnostic.routine, htask]
  | simple mode command =>
    have hwalk := runOn_session (c := c) d.name (.runMacro mode) (announced s d)
    have hcommand := fun w =>
      runOn_session (c := c) d.name (.command command {}) { announced s d with world := w }
    rw [runOn_runDiagnostic_simple htask, Diagnostic.routine, htask]
    match hwalked : (c.runMacro mode).runOn (announced s d).world with
    | none => exact (Routine.insist_none (hwalk.trans (congrArg (Option.map _) hwalked))).symm
    | some (.error f, v) =>
      exact (Routine.insist_error (hwalk.trans (congrArg (Option.map _) hwalked))).symm
    | some (.ok (), v) =>
      refine .trans ?_ (Routine.insist_ok (hwalk.trans (congrArg (Option.map _) hwalked))).symm
      match hshown : (c.command command).runOn v with
      | none =>
        simp only [hshown]
        exact (Routine.insist_none ((hcommand v).trans (congrArg (Option.map _) hshown))).symm
      | some (.error f, w) =>
        simp only [hshown]
        exact (Routine.insist_error ((hcommand v).trans (congrArg (Option.map _) hshown))).symm
      | some (.ok output, w) =>
        simp only [hshown]
        refine .trans ?_
          (Routine.insist_ok ((hcommand v).trans (congrArg (Option.map _) hshown))).symm
        rfl

/-! ## 2. Diagnostics in turn -/

/-- The calls that a diagnostic made, with its name. -/
abbrev Turn := String × Trace DiagnoseCall.Answer

/-- **Diagnostics in turn**, each with the calls that it made. The first one that fails is the last
    one to have its turn. -/
inductive InTurn (c : Console σ) (driver : Driver τ) :
    List Diagnostic → Stage σ DiagnosticStore τ → List Turn → Except Failure Unit →
      Stage σ DiagnosticStore τ → Prop
  | nil (s : Stage σ DiagnosticStore τ) : InTurn c driver [] s [] (.ok ()) s
  | failed {d : Diagnostic} {rest : List Diagnostic} {s t : Stage σ DiagnosticStore τ}
      {made : Trace DiagnoseCall.Answer} {f : Failure}
      (path : (d.routine driver).Path (DiagnoseCall.perform c d.name) (announced s d) made
        (.error f) t) :
      InTurn c driver (d :: rest) s [(d.name, made)] (.error f) t
  | cons {d : Diagnostic} {rest : List Diagnostic} {s m t : Stage σ DiagnosticStore τ}
      {made : Trace DiagnoseCall.Answer} {turns : List Turn} {outcome : Except Failure Unit}
      (path : (d.routine driver).Path (DiagnoseCall.perform c d.name) (announced s d) made
        (.ok ()) m)
      (then_ : InTurn c driver rest m turns outcome t) :
      InTurn c driver (d :: rest) s ((d.name, made) :: turns) outcome t

/-- What is in the store of the device after some diagnostics. -/
def keptDevice (turns : List Turn) (d : DeviceStore) : DeviceStore :=
  turns.foldl (fun d turn => turn.2.kept DiagnoseCall.writeDevice d) d

/-- What is in the results after some diagnostics. -/
def keptResults (turns : List Turn) (s : DiagnosticStore) : DiagnosticStore :=
  turns.foldl (fun s turn => turn.2.kept (DiagnoseCall.writeResults turn.1) s) s

/-- **Diagnostics are run in turn**, by induction on what is to be run. -/
theorem diagnose_iff_inTurn {list : List Diagnostic} {s t : Stage σ DiagnosticStore τ}
    {outcome : Except Failure Unit} :
    c.diagnose driver list s = some (outcome, t) ↔
      ∃ turns, InTurn c driver list s turns outcome t := by
  induction list generalizing s with
  | nil =>
    constructor
    · intro h
      cases h
      exact ⟨[], .nil _⟩
    · rintro ⟨turns, hturns⟩
      cases hturns
      rfl
  | cons d rest ih =>
    rw [diagnose_cons, runOn_runDiagnostic]
    constructor
    · intro h
      split at h
      · next m hfirst =>
        obtain ⟨made, path⟩ := Routine.runOn_run_iff.mp hfirst
        obtain ⟨turns, hturns⟩ := ih.mp h
        exact ⟨(d.name, made) :: turns, .cons path hturns⟩
      · next f m hfirst =>
        cases h
        obtain ⟨made, path⟩ := Routine.runOn_run_iff.mp hfirst
        exact ⟨[(d.name, made)], .failed path⟩
      · cases h
    · rintro ⟨turns, hturns⟩
      cases hturns with
      | failed path => rw [Routine.runOn_run_iff.mpr ⟨_, path⟩]
      | cons path then_ =>
        rw [Routine.runOn_run_iff.mpr ⟨_, path⟩]
        exact ih.mpr ⟨_, then_⟩

/-- The stores after diagnostics in turn hold what their calls wrote. -/
theorem InTurn.kept {list : List Diagnostic} {s t : Stage σ DiagnosticStore τ} {turns : List Turn}
    {outcome : Except Failure Unit} (h : InTurn c driver list s turns outcome t) :
    t.device = keptDevice turns s.device ∧ t.other = keptResults turns s.other := by
  have hpath : ∀ {d : Diagnostic} {s t : Stage σ DiagnosticStore τ} {made : Trace _} {outcome},
      (d.routine driver).Path (DiagnoseCall.perform c d.name) (announced s d) made outcome t →
        t.device = made.kept DiagnoseCall.writeDevice s.device ∧
          t.other = made.kept (DiagnoseCall.writeResults d.name) s.other := by
    intro d s t made outcome path
    obtain ⟨hdevice, hresults⟩ := DiagnoseCall.writes (τ := τ) c d.name
    exact ⟨path.kept hdevice fun _ _ => rfl, path.kept hresults fun _ _ => rfl⟩
  induction h with
  | nil s => exact ⟨rfl, rfl⟩
  | failed path => exact hpath path
  | @cons d rest s m t made turns outcome path _ ih =>
    obtain ⟨hdevice, hresults⟩ := hpath path
    rw [hdevice, hresults] at ih
    exact ih

theorem resets_keptDevice (turns : List Turn) (d : DeviceStore) :
    (keptDevice turns d).resets = d.resets := by
  induction turns generalizing d with
  | nil => rfl
  | cons turn turns ih => exact (ih _).trans (DiagnoseCall.resets_kept turn.2 d)

/-! ## 3. Visits -/

/-- **Why a visit is refused before its job begins**: there is no such mode, or the job has no store
    to write to. -/
inductive Refused (registry : Registry) (protocol : String) (stores : Stores) :
    Job → Misconfiguration → Prop
  | mode {job : Job} (hmode : registry.get? protocol = none) :
      Refused registry protocol stores job (.noSuchMode protocol)
  | snapshot (hmode : registry.get? protocol ≠ none) (hstore : stores.config = none) :
      Refused registry protocol stores .snapshot .snapshotWithoutStore
  | run (hmode : registry.get? protocol ≠ none) (hstore : stores.config = none) :
      Refused registry protocol stores .run .runWithoutStore
  | diagnostics (hmode : registry.get? protocol ≠ none) (hstore : stores.diagnostics = none) :
      Refused registry protocol stores .diagnostics .diagnosticsWithoutStore

/-- The session when a job begins: it is in the mode of the protocol, and has noted that it was
    opened and what it is for. -/
def readyFor (protocol : String) (job : Job) (device : σ) : World σ where
  device := device
  state := .start protocol
  journal :=
    [.noted (.engine "Opening CLI session" [("mode", protocol)]),
      .noted (.engine "Running driver function" [("function", job.name), ("protocol", protocol)])]

/-- **What is left of a visit whose job ran.** The result is that of the job, and the stores hold
    what the calls that succeeded wrote to them.

    * A snapshot begins with a device store that has been reset once, and with the configuration as
      it was.
    * A run and diagnostics begin with all stores as they were. -/
inductive Visited (c : Console σ) (protocol : String) (driver : Driver τ) (device : σ)
    (stores : Stores) : Job → Visit σ τ → Prop
  | snapshot {config : ConfigStore} {made : Trace CollectCall.Answer}
      {outcome : Except Failure Unit} {t : Stage σ ConfigStore τ}
      (hconfig : stores.config = some config)
      (path : driver.snapshot.Path (CollectCall.perform c)
        { world := readyFor protocol .snapshot device
          device :=
            { attributes := Keyed.empty, collections := Keyed.empty
              resets := stores.device.resets + 1 }
          other := config } made outcome t) :
      Visited c protocol driver device stores .snapshot
        { result := outcome
          device := t.world.device
          journal := t.world.journal
          stores :=
            { device := made.kept CollectCall.writeDevice
                { attributes := Keyed.empty, collections := Keyed.empty
                  resets := stores.device.resets + 1 }
              config := some (made.kept CollectCall.writeConfig config)
              diagnostics := stores.diagnostics }
          remarks := t.remarks }
  | run {config : ConfigStore} {made : Trace CollectCall.Answer} {outcome : Except Failure Unit}
      {t : Stage σ ConfigStore τ} (hconfig : stores.config = some config)
      (path : driver.run.Path (CollectCall.perform c)
        { world := readyFor protocol .run device, device := stores.device, other := config }
        made outcome t) :
      Visited c protocol driver device stores .run
        { result := outcome
          device := t.world.device
          journal := t.world.journal
          stores :=
            { device := made.kept CollectCall.writeDevice stores.device
              config := some (made.kept CollectCall.writeConfig config)
              diagnostics := stores.diagnostics }
          remarks := t.remarks }
  | diagnostics {results : DiagnosticStore} {turns : List Turn} {outcome : Except Failure Unit}
      {t : Stage σ DiagnosticStore τ} (hresults : stores.diagnostics = some results)
      (inTurn : InTurn c driver results.pending
        { world := readyFor protocol .diagnostics device, device := stores.device, other := results }
        turns outcome t) :
      Visited c protocol driver device stores .diagnostics
        { result := outcome
          device := t.world.device
          journal := t.world.journal
          stores :=
            { device := keptDevice turns stores.device
              config := stores.config
              diagnostics := some (keptResults turns results) }
          remarks := t.remarks }

section Visit

variable {protocol : String} {device : σ} {stores : Stores} {job : Job}

/-- The session in which a job begins or is refused. -/
theorem visit_of_mode (hmode : c.registry.get? protocol ≠ none) :
    c.visit protocol job driver device stores =
      c.visitOpen driver job (readyFor protocol job device) stores := by
  obtain ⟨mode, hmode⟩ := Option.ne_none_iff_exists'.mp hmode
  rw [visit, openSession, Registry.require_of_get? hmode]
  rfl

/-- A visit that is refused has done nothing. -/
theorem visit_of_refused {cause : Misconfiguration}
    (h : Refused c.registry protocol stores job cause) :
    ∃ v, c.visit protocol job driver device stores = some v ∧
      v.result = .error (.definition cause) ∧ v.stores = stores ∧ v.device = device ∧
      deedsOf v.journal = [] ∧ v.remarks = [] := by
  cases h with
  | mode hmode =>
    rw [visit, openSession, Registry.require, hmode]
    exact ⟨_, rfl, rfl, rfl, rfl, rfl, rfl⟩
  | snapshot hmode hstore | run hmode hstore | diagnostics hmode hstore =>
    rw [visit_of_mode hmode]
    unfold visitOpen
    dsimp only
    rw [hstore]
    exact ⟨_, rfl, rfl, rfl, rfl, rfl, rfl⟩

/-- What is left of a visit that ran an action on a stage. -/
theorem visitOn_eq_some_iff {κ : Type} {keep : DeviceStore → κ → Stores}
    {act : StageAct σ κ τ Unit} {s : Stage σ κ τ} {v : Visit σ τ} :
    visitOn keep act s = some v ↔ ∃ outcome t, act.runOn s = some (outcome, t) ∧
      v = { result := outcome, device := t.world.device, journal := t.world.journal
            stores := keep t.device t.other, remarks := t.remarks } := by
  unfold visitOn
  rw [Option.map_eq_some_iff]
  constructor
  · rintro ⟨⟨outcome, t⟩, hrun, rfl⟩
    exact ⟨outcome, t, hrun, rfl⟩
  · rintro ⟨outcome, t, hrun, rfl⟩
    exact ⟨(outcome, t), hrun, rfl⟩

/-- What is left of a visit that collected data. -/
theorem visitOn_collect_iff {keep : DeviceStore → ConfigStore → Stores}
    {routine : CollectRoutine τ} {s : Stage σ ConfigStore τ} {v : Visit σ τ} :
    visitOn keep (routine.run (CollectCall.perform c)) s = some v ↔
      ∃ made outcome t, routine.Path (CollectCall.perform c) s made outcome t ∧
        v = { result := outcome, device := t.world.device, journal := t.world.journal
              stores := keep (made.kept CollectCall.writeDevice s.device)
                (made.kept CollectCall.writeConfig s.other)
              remarks := t.remarks } := by
  obtain ⟨hdevice, hconfig⟩ := CollectCall.writes (τ := τ) c
  rw [visitOn_eq_some_iff]
  constructor
  · rintro ⟨outcome, t, hrun, rfl⟩
    obtain ⟨made, path⟩ := Routine.runOn_run_iff.mp hrun
    refine ⟨made, outcome, t, path, ?_⟩
    rw [path.kept hdevice fun _ _ => rfl, path.kept hconfig fun _ _ => rfl]
  · rintro ⟨made, outcome, t, path, rfl⟩
    refine ⟨outcome, t, Routine.runOn_run_iff.mpr ⟨made, path⟩, ?_⟩
    rw [path.kept hdevice fun _ _ => rfl, path.kept hconfig fun _ _ => rfl]

/-- What is left of a visit that ran diagnostics. -/
theorem visitOn_diagnostics_iff {keep : DeviceStore → DiagnosticStore → Stores}
    {list : List Diagnostic} {s : Stage σ DiagnosticStore τ} {v : Visit σ τ} :
    visitOn keep (c.runDiagnostics driver list) s = some v ↔
      ∃ turns outcome t, InTurn c driver list s turns outcome t ∧
        v = { result := outcome, device := t.world.device, journal := t.world.journal
              stores := keep (keptDevice turns s.device) (keptResults turns s.other)
              remarks := t.remarks } := by
  rw [visitOn_eq_some_iff]
  constructor
  · rintro ⟨outcome, t, hrun, rfl⟩
    obtain ⟨turns, inTurn⟩ := diagnose_iff_inTurn.mp hrun
    refine ⟨turns, outcome, t, inTurn, ?_⟩
    rw [inTurn.kept.1, inTurn.kept.2]
  · rintro ⟨turns, outcome, t, inTurn, rfl⟩
    refine ⟨outcome, t, diagnose_iff_inTurn.mpr ⟨turns, inTurn⟩, ?_⟩
    rw [inTurn.kept.1, inTurn.kept.2]

/-- A visit that is not refused runs its job, one case for each kind. -/
theorem visit_eq_some_iff (h : ∀ cause, ¬ Refused c.registry protocol stores job cause)
    (v : Visit σ τ) :
    c.visit protocol job driver device stores = some v ↔
      Visited c protocol driver device stores job v := by
  have hmode : c.registry.get? protocol ≠ none := fun hmode => h _ (.mode hmode)
  rw [visit_of_mode hmode]
  unfold visitOpen
  cases job with
  | snapshot =>
    obtain ⟨config, hconfig⟩ := Option.ne_none_iff_exists'.mp fun hnone =>
      h _ (.snapshot hmode hnone)
    simp only [hconfig]
    rw [visitOn_collect_iff]
    constructor
    · rintro ⟨made, outcome, t, path, rfl⟩
      exact .snapshot hconfig path
    · intro hvisited
      cases hvisited with
      | snapshot hconfig' path =>
        cases hconfig.symm.trans hconfig'
        exact ⟨_, _, _, path, rfl⟩
  | run =>
    obtain ⟨config, hconfig⟩ := Option.ne_none_iff_exists'.mp fun hnone => h _ (.run hmode hnone)
    simp only [hconfig]
    rw [visitOn_collect_iff]
    constructor
    · rintro ⟨made, outcome, t, path, rfl⟩
      exact .run hconfig path
    · intro hvisited
      cases hvisited with
      | run hconfig' path =>
        cases hconfig.symm.trans hconfig'
        exact ⟨_, _, _, path, rfl⟩
  | diagnostics =>
    obtain ⟨results, hresults⟩ := Option.ne_none_iff_exists'.mp fun hnone =>
      h _ (.diagnostics hmode hnone)
    simp only [hresults]
    rw [visitOn_diagnostics_iff]
    constructor
    · rintro ⟨turns, outcome, t, inTurn, rfl⟩
      exact .diagnostics hresults inTurn
    · intro hvisited
      cases hvisited with
      | diagnostics hresults' inTurn =>
        cases hresults.symm.trans hresults'
        exact ⟨_, _, _, inTurn, rfl⟩

/-- Only a snapshot resets the device store, and does so once. -/
theorem resets_of_visited {v : Visit σ τ} (h : Visited c protocol driver device stores job v) :
    v.stores.device.resets = stores.device.resets + if job = .snapshot then 1 else 0 := by
  cases h with
  | snapshot hconfig path => exact CollectCall.resets_kept _ _
  | run hconfig path => exact CollectCall.resets_kept _ _
  | diagnostics hresults inTurn => exact resets_keptDevice _ _

end Visit

/-- **A visit is refused, or its job ran**, for every registry, protocol, job, driver and all stores.

    * It is refused where there is no such mode or where the job has no store to write to. Then no
      store is changed or reset, and nothing was sent or waited for.
    * Otherwise there is something left of it if and only if the job comes to an end. The job begins
      with all stores as they were, but that a snapshot has reset the device store. The result is
      that of the job; and the stores hold what they held when it began and what the calls that
      succeeded wrote to them, whatever the result is.
    * The device store is reset once by a snapshot, and never by anything else. -/
theorem visit_settled (c : Console σ) (protocol : String) (job : Job) (driver : Driver τ)
    (device : σ) (stores : Stores) :
    (∀ cause, Refused c.registry protocol stores job cause →
      ∃ v, c.visit protocol job driver device stores = some v ∧
        v.result = .error (.definition cause) ∧ v.stores = stores ∧ v.device = device ∧
        deedsOf v.journal = [] ∧ v.remarks = []) ∧
    ((∀ cause, ¬ Refused c.registry protocol stores job cause) →
      ∀ v, c.visit protocol job driver device stores = some v ↔
        Visited c protocol driver device stores job v) ∧
    ∀ v, Visited c protocol driver device stores job v →
      v.stores.device.resets = stores.device.resets + if job = .snapshot then 1 else 0 :=
  ⟨fun _ h => visit_of_refused h, visit_eq_some_iff, fun _ h => resets_of_visited h⟩

/-- A driver whose snapshot sets an attribute, and then asks for a wait that there cannot be. -/
def hastyDriver : Driver Unit where
  snapshot := .insist (.device (.set "version" (.text "15"))) fun _ =>
    .insist (.session (.sleep (-1))) fun _ => .done

/-- The snapshot of that driver fails. What was known before it is gone, and the attribute that it
    had set is kept; without a store for the configuration nothing is gone. -/
theorem visit_settled_hasty :
    let known : DeviceStore := DeviceStore.put "model" (.text "old") {}
    (∃ v, loginConsole.visit "user" .snapshot hastyDriver []
        { device := known, config := some {} } = some v ∧
      v.result = .error (.argument (.sleepDuration (-1))) ∧
      v.stores.device.attributes.entries = [("version", .text "15")] ∧
      v.stores.device.resets = 1) ∧
    ∃ v, loginConsole.visit "user" .snapshot hastyDriver [] { device := known } = some v ∧
      v.result = .error (.definition .snapshotWithoutStore) ∧
      v.stores.device.attributes.entries = [("model", .text "old")] ∧
      v.stores.device.resets = 0 := by
  intro known
  have hmode : loginConsole.registry.get? "user" ≠ none := nofun
  constructor
  · have hnone : ∀ cause, ¬ Refused loginConsole.registry "user"
        { device := known, config := some {} } .snapshot cause := by
      intro cause h
      cases h with
      | mode habsent => exact hmode habsent
      | snapshot _ hstore => cases hstore
    obtain ⟨-, hran, hresets⟩ := visit_settled loginConsole "user" .snapshot hastyDriver []
      { device := known, config := some {} }
    have hvisited : Visited loginConsole "user" hastyDriver []
        { device := known, config := some {} } .snapshot _ :=
      .snapshot rfl (.call rfl (.call rfl (.failed _ _)))
    exact ⟨_, (hran hnone _).mpr hvisited, rfl, rfl, hresets _ hvisited⟩
  · obtain ⟨hrefused, -, -⟩ := visit_settled loginConsole "user" .snapshot hastyDriver []
      { device := known }
    obtain ⟨v, hvisit, hresult, hstores, -⟩ := hrefused _ (.snapshot hmode rfl)
    refine ⟨v, hvisit, hresult, ?_, ?_⟩
    · rw [hstores]
      rfl
    · rw [hstores]
      rfl

end Console

end DeviceCli
