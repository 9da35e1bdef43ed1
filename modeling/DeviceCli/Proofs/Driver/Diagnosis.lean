import DeviceCli.Driver.Visit
import DeviceCli.Proofs.Driver.Stage
import DeviceCli.Proofs.Keyed
import DeviceCli.Proofs.Session.Echo
import DeviceCli.Proofs.Session.Hop

/-!
# Diagnostics in a row

The diagnostics of a visit run one after the other on one stage, until one fails. So a row of them is
the row of its front part, and, if that succeeded, of the rest from where the front part left the
session, the stores and the device.

* `Console.diagnose_append`: a row of two parts;
* `Console.Carries` and `Console.Carried`: what a diagnostic, and a row of them, did and wrote when
  it succeeded; `diagnose_eq_ok_iff` and `diagnose_eq_error_iff` say that there is nothing else;
* `Stage.restricted`: the frame of all that a diagnostic may do, scripted ones included;
* `Console.visit_diagnostics`: **the diagnostics of a visit**, all in one.
-/

namespace DeviceCli

/-! ## 1. Results -/

namespace DiagnosticStore

/-- The store after some results have been written one after the other. -/
def stored (s : DiagnosticStore) (writes : List (String × Attribute)) : DiagnosticStore :=
  writes.foldl (fun s w => s.setResult w.1 w.2) s

/-- The store with other diagnostics to be run. -/
def withPending (pending : List Diagnostic) (s : DiagnosticStore) : DiagnosticStore :=
  { s with pending }

theorem stored_append (s : DiagnosticStore) (front back : List (String × Attribute)) :
    s.stored (front ++ back) = (s.stored front).stored back :=
  List.foldl_append

theorem results_stored (s : DiagnosticStore) (writes : List (String × Attribute)) :
    (s.stored writes).results = writes.foldl (fun m w => m.insert w.1 w.2) s.results := by
  induction writes generalizing s with
  | nil => rfl
  | cons w writes ih => exact ih (s.setResult w.1 w.2)

/-- **Of results written under one name the last is kept.** -/
theorem get?_stored (s : DiagnosticStore) (writes : List (String × Attribute)) (name : String) :
    (s.stored writes).results.get? name =
      (writes.reverse.lookup name).or (s.results.get? name) := by
  rw [results_stored, Keyed.get?_foldl_insert]

theorem setKey_eq_ok {s t : DiagnosticStore} {key : String} {value : Attribute}
    (h : s.setKey key value = .ok t) : t = s.setResult key value := by
  rw [setKey, refuseEmptyKey] at h
  split at h
  · cases h
  · cases h
    rfl

theorem setKey_withPending (pending : List Diagnostic) (s : DiagnosticStore) (key : String)
    (value : Attribute) :
    (s.withPending pending).setKey key value =
      (s.setKey key value).map (withPending pending) := by
  rw [setKey, setKey, refuseEmptyKey]
  split <;> rfl

end DiagnosticStore

/-! ## 2. What a diagnostic may do -/

namespace DeviceStore

/-- Nothing has been forgotten, and the collections are the same. -/
def Intact (d d' : DeviceStore) : Prop :=
  d'.resets = d.resets ∧ d'.collections = d.collections

theorem intact_of_set {d d' : DeviceStore} {key : String} {value : Attribute}
    (h : d.set key value = .ok d') : d.Intact d' := by
  rw [set, refuseEmptyKey] at h
  split at h
  · cases h
  · cases h
    exact ⟨rfl, rfl⟩

theorem intact_of_setJson {d d' : DeviceStore} {key : String} {value : Json}
    (h : d.setJson key value = .ok d') : d.Intact d' := by
  rw [setJson, refuseEmptyKey] at h
  split at h
  · cases h
  · cases hv : definedValue value "device.set" key with
    | error f =>
      rw [hv] at h
      cases h
    | ok stored =>
      rw [hv] at h
      cases h
      exact ⟨rfl, rfl⟩

/-- Without access to collections, adding to one is refused whatever the value. -/
theorem addJson_setOnly (d : DeviceStore) (name : String) (value : Json) :
    ∃ f, d.addJson .setOnly name value = .error f := by
  rw [addJson]
  cases definedValue value "device.add" name with
  | error f => exact ⟨f, rfl⟩
  | ok stored => exact ⟨_, rfl⟩

end DeviceStore

/-- What holds along all that a diagnostic may do: the device store is not reset, its collections
    stay, and the results change by results that are written. -/
def Stage.restricted (σ τ : Type) : Stage.Frame σ DiagnosticStore τ where
  rel s t := s.device.Intact t.device ∧ ∃ writes, t.other = s.other.stored writes
  refl s := ⟨⟨rfl, rfl⟩, [], rfl⟩
  trans := by
    rintro s t u ⟨⟨hr, hc⟩, ws, ht⟩ ⟨⟨hr', hc'⟩, ws', hu⟩
    refine ⟨⟨hr'.trans hr, hc'.trans hc⟩, ws ++ ws', ?_⟩
    rw [DiagnosticStore.stored_append, ← ht, hu]

namespace Console

variable {σ τ : Type} {c : Console σ}

theorem restricted_onSession {α : Type} (act : Act σ α) :
    (StageAct.onSession act : StageAct σ DiagnosticStore τ α).Keeps (Stage.restricted σ τ) :=
  .onSession act fun _ _ _ _ => ⟨⟨rfl, rfl⟩, [], rfl⟩

theorem restricted_device (call : DeviceCall) :
    (call.perform .setOnly : StageAct σ DiagnosticStore τ call.Answer).Keeps
      (Stage.restricted σ τ) := by
  have hintact : ∀ (s : Stage σ DiagnosticStore τ) {device : DeviceStore},
      s.device.Intact device → (Stage.restricted σ τ).rel s { s with device } :=
    fun s device h => ⟨h, [], rfl⟩
  cases call with
  | set key value =>
    rw [DeviceCall.perform]
    exact .onDevice fun s device h => hintact s (DeviceStore.intact_of_set h)
  | setJson key value =>
    rw [DeviceCall.perform]
    exact .onDevice fun s device h => hintact s (DeviceStore.intact_of_setJson h)
  | add name value =>
    rw [DeviceCall.perform]
    refine .onDevice fun s device h => ?_
    cases h
  | addJson name value =>
    rw [DeviceCall.perform]
    refine .onDevice fun s device h => ?_
    obtain ⟨f, hf⟩ := s.device.addJson_setOnly name value
    rw [hf] at h
    cases h
  | get key =>
    intro s r t h
    cases h
    exact (Stage.restricted σ τ).refl s

theorem restricted_result (current : String) (call : ResultCall) :
    (call.perform current : StageAct σ DiagnosticStore τ Unit).Keeps (Stage.restricted σ τ) := by
  cases call with
  | set value =>
    rw [ResultCall.perform]
    refine .onOther fun s other h => ⟨⟨rfl, rfl⟩, [(current, value)], ?_⟩
    cases h
    rfl
  | setKey key value =>
    rw [ResultCall.perform]
    refine .onOther fun s other h => ⟨⟨rfl, rfl⟩, [(key, value)], ?_⟩
    exact DiagnosticStore.setKey_eq_ok h

/-- **No call of a scripted diagnostic does more than that.** -/
theorem restricted_perform (current : String) (call : DiagnoseCall) :
    (call.perform c current : StageAct σ DiagnosticStore τ call.Answer).Keeps
      (Stage.restricted σ τ) := by
  cases call with
  | session call => exact restricted_onSession _
  | device call => exact restricted_device call
  | result call => exact restricted_result current call

theorem restricted_routine (current : String) (routine : DiagnoseRoutine τ) :
    (routine.run (DiagnoseCall.perform (σ := σ) c current)).Keeps (Stage.restricted σ τ) :=
  routine.keeps_run (restricted_perform current) fun _ _ => ⟨⟨rfl, rfl⟩, [], rfl⟩

variable (c) (driver : Driver τ)

theorem restricted_runDiagnostic (d : Diagnostic) :
    (c.runDiagnostic driver d).Keeps (Stage.restricted σ τ) := by
  rw [runDiagnostic]
  refine .bind (restricted_onSession _) fun _ => ?_
  cases d.task with
  | simple mode command =>
    exact .bind (restricted_onSession _) fun _ => .bind (restricted_onSession _) fun output =>
      restricted_result d.name (.set (.text output))
  | scripted => exact restricted_routine d.name _

theorem restricted_runDiagnostics (list : List Diagnostic) :
    (c.runDiagnostics driver list).Keeps (Stage.restricted σ τ) := by
  induction list with
  | nil => exact .pure ()
  | cons d rest ih => exact .bind (restricted_runDiagnostic c driver d) fun _ => ih

/-! ## 3. What is still to be run -/

/-- No diagnostic asks which ones are to be run. -/
theorem ignores_runDiagnostics (list pending : List Diagnostic) :
    (c.runDiagnostics driver list).Ignores (DiagnosticStore.withPending pending) := by
  have hresult : ∀ (current : String) (call : ResultCall),
      (call.perform current : StageAct σ DiagnosticStore τ Unit).Ignores
        (DiagnosticStore.withPending pending) := fun current call => by
    cases call with
    | set value =>
      rw [ResultCall.perform]
      exact .onOther fun _ => rfl
    | setKey key value =>
      rw [ResultCall.perform]
      exact .onOther fun s => s.setKey_withPending pending key value
  have hdevice : ∀ call : DeviceCall,
      (call.perform .setOnly : StageAct σ DiagnosticStore τ call.Answer).Ignores
        (DiagnosticStore.withPending pending) := fun call => by
    cases call with
    | get key => exact fun s => rfl
    | set key value | setJson key value | add key value | addJson key value =>
      rw [DeviceCall.perform]
      exact .onDevice _
  have hperform : ∀ (current : String) (call : DiagnoseCall),
      (call.perform c current : StageAct σ DiagnosticStore τ call.Answer).Ignores
        (DiagnosticStore.withPending pending) := fun current call => by
    cases call with
    | session call => exact .onSession _
    | device call => exact hdevice call
    | result call => exact hresult current call
  induction list with
  | nil => exact .pure ()
  | cons d rest ih =>
    refine .bind ?_ fun _ => ih
    rw [runDiagnostic]
    refine .bind (.onSession _) fun _ => ?_
    cases d.task with
    | simple mode command =>
      exact .bind (.onSession _) fun _ => .bind (.onSession _) fun output =>
        hresult d.name (.set (.text output))
    | scripted => exact (driver.diagnose d.name).ignores_run (hperform d.name)

/-! ## 4. One diagnostic -/

/-- The stage on which a diagnostic has been announced. -/
def announced (s : Stage σ DiagnosticStore τ) (d : Diagnostic) : Stage σ DiagnosticStore τ :=
  { s with
    world :=
      { s.world with
        journal :=
          s.world.journal ++ [.noted (.engine "Running diagnostic" [("diagnostic", d.name)])] } }

/-- **What a diagnostic did that succeeded, and what it wrote.** A simple one ran its macro and then
    its command, and wrote the output of the command under its own name; a scripted one ran the
    routine of the driver. -/
inductive Carries (d : Diagnostic) (s : Stage σ DiagnosticStore τ) :
    List (String × Attribute) → Stage σ DiagnosticStore τ → Prop
  | simple {mode command output v w} (htask : d.task = .simple mode command)
      (hwalked : (c.runMacro mode).runOn (announced s d).world = some (.ok (), v))
      (hcommand : (c.command command).runOn v = some (.ok output, w)) :
      Carries d s [(d.name, .text output)]
        { s with world := w, other := s.other.setResult d.name (.text output) }
  | scripted {writes t} (htask : d.task = .scripted)
      (hrun : ((driver.diagnose d.name).run (DiagnoseCall.perform c d.name)).runOn (announced s d) =
        some (.ok (), t))
      (hwrites : t.other = s.other.stored writes) : Carries d s writes t

variable {c driver}

/-- What a simple diagnostic comes to. One that fails, in its macro or in its command, stores
    nothing. -/
theorem runOn_runDiagnostic_simple {d : Diagnostic} {mode command : String}
    (h : d.task = .simple mode command) (s : Stage σ DiagnosticStore τ) :
    (c.runDiagnostic driver d).runOn s =
      match (c.runMacro mode).runOn (announced s d).world with
      | none => none
      | some (.error f, v) => some (.error f, { s with world := v })
      | some (.ok (), v) => match (c.command command).runOn v with
        | none => none
        | some (.error f, w) => some (.error f, { s with world := w })
        | some (.ok output, w) =>
          some (.ok (), { s with world := w, other := s.other.setResult d.name (.text output) }) := by
  rw [runDiagnostic, h]
  rw [StageAct.runOn_bind_ok (t := announced s d) (a := PUnit.unit) rfl]
  rw [StageAct.runOn_bind, StageAct.runOn_onSession]
  match (c.runMacro mode).runOn (announced s d).world with
  | none => rfl
  | some (.error f, v) => rfl
  | some (.ok (), v) =>
    simp only [Option.map_some]
    rw [StageAct.runOn_bind, StageAct.runOn_onSession]
    match (c.command command).runOn v with
    | none => rfl
    | some (.error f, w) => rfl
    | some (.ok output, w) => rfl

theorem runOn_runDiagnostic_scripted {d : Diagnostic} (h : d.task = .scripted)
    (s : Stage σ DiagnosticStore τ) :
    (c.runDiagnostic driver d).runOn s =
      ((driver.diagnose d.name).run (DiagnoseCall.perform c d.name)).runOn (announced s d) := by
  rw [runDiagnostic, h]
  exact StageAct.runOn_bind_ok (t := announced s d) (a := PUnit.unit) rfl _

theorem runDiagnostic_eq_ok_iff {d : Diagnostic} {s t : Stage σ DiagnosticStore τ} :
    (c.runDiagnostic driver d).runOn s = some (.ok (), t) ↔
      ∃ writes, Carries c driver d s writes t := by
  constructor
  · intro h
    cases htask : d.task with
    | simple mode command =>
      rw [runOn_runDiagnostic_simple htask] at h
      split at h
      · cases h
      · cases h
      · next v hwalked =>
        split at h
        · cases h
        · cases h
        · next output w hcommand =>
          cases h
          exact ⟨_, .simple htask hwalked hcommand⟩
    | scripted =>
      obtain ⟨-, writes, hwrites⟩ := restricted_runDiagnostic c driver d s _ t h
      rw [runOn_runDiagnostic_scripted htask] at h
      exact ⟨writes, .scripted htask h hwrites⟩
  · rintro ⟨writes, h⟩
    cases h with
    | simple htask hwalked hcommand =>
      rw [runOn_runDiagnostic_simple htask, hwalked]
      simp only [hcommand]
    | scripted htask hrun hwrites => rw [runOn_runDiagnostic_scripted htask, hrun]

/-- A simple diagnostic that fails stores nothing. -/
theorem other_of_simple_error {d : Diagnostic} {mode command : String}
    (htask : d.task = .simple mode command) {s t : Stage σ DiagnosticStore τ} {f : Failure}
    (h : (c.runDiagnostic driver d).runOn s = some (.error f, t)) : t.other = s.other := by
  rw [runOn_runDiagnostic_simple htask] at h
  split at h
  · cases h
  · cases h
    rfl
  · split at h
    · cases h
    · cases h
      rfl
    · cases h

/-! ## 5. Rows of diagnostics -/

variable (c driver)

/-- Carries out diagnostics in order on a stage. -/
def diagnose (list : List Diagnostic) (s : Stage σ DiagnosticStore τ) :
    Option (Except Failure Unit × Stage σ DiagnosticStore τ) :=
  (c.runDiagnostics driver list).runOn s

/-- **What a row of diagnostics did that all succeeded**, each where the one before it left off, and
    what they wrote, in order. -/
inductive Carried : List Diagnostic → Stage σ DiagnosticStore τ → List (String × Attribute) →
    Stage σ DiagnosticStore τ → Prop
  | nil (s) : Carried [] s [] s
  | cons {d rest s t u writes more} (first : Carries c driver d s writes t)
      (then_ : Carried rest t more u) : Carried (d :: rest) s (writes ++ more) u

variable {c driver}

theorem diagnose_cons (d : Diagnostic) (rest : List Diagnostic) (s : Stage σ DiagnosticStore τ) :
    c.diagnose driver (d :: rest) s = match (c.runDiagnostic driver d).runOn s with
      | some (.ok (), t) => c.diagnose driver rest t
      | some (.error f, t) => some (.error f, t)
      | none => none := by
  rw [diagnose, runDiagnostics, StageAct.runOn_bind]
  match (c.runDiagnostic driver d).runOn s with
  | none => rfl
  | some (.error f, t) => rfl
  | some (.ok (), t) => rfl

/-- **A row of two parts**: the first, and if it succeeds the second from where the first left
    off. -/
theorem diagnose_append (front back : List Diagnostic) (s : Stage σ DiagnosticStore τ) :
    c.diagnose driver (front ++ back) s = match c.diagnose driver front s with
      | some (.ok (), t) => c.diagnose driver back t
      | some (.error f, t) => some (.error f, t)
      | none => none := by
  induction front generalizing s with
  | nil => rfl
  | cons d rest ih =>
    rw [List.cons_append, diagnose_cons, diagnose_cons]
    match (c.runDiagnostic driver d).runOn s with
    | none => rfl
    | some (.error f, t) => rfl
    | some (.ok (), t) => exact ih t

theorem other_of_carried {list : List Diagnostic} {s t : Stage σ DiagnosticStore τ}
    {writes : List (String × Attribute)} (h : Carried c driver list s writes t) :
    t.other = s.other.stored writes := by
  induction h with
  | nil s => rfl
  | @cons d rest s t u writes more first _ ih =>
    have hfirst : t.other = s.other.stored writes := by
      cases first with
      | simple htask hwalked hcommand => rfl
      | scripted htask hrun hwrites => exact hwrites
    rw [ih, hfirst, DiagnosticStore.stored_append]

/-- A row succeeds if and only if all of its diagnostics do, one after the other. -/
theorem diagnose_eq_ok_iff {list : List Diagnostic} {s t : Stage σ DiagnosticStore τ} :
    c.diagnose driver list s = some (.ok (), t) ↔ ∃ writes, Carried c driver list s writes t := by
  induction list generalizing s with
  | nil =>
    constructor
    · intro h
      cases h
      exact ⟨[], .nil _⟩
    · rintro ⟨writes, h⟩
      cases h
      rfl
  | cons d rest ih =>
    rw [diagnose_cons]
    constructor
    · intro h
      split at h
      · next m hd =>
        obtain ⟨writes, hfirst⟩ := runDiagnostic_eq_ok_iff.mp hd
        obtain ⟨more, hrest⟩ := ih.mp h
        exact ⟨writes ++ more, .cons hfirst hrest⟩
      · cases h
      · cases h
    · rintro ⟨writes, h⟩
      cases h with
      | cons first rest =>
        rw [runDiagnostic_eq_ok_iff.mpr ⟨_, first⟩]
        exact ih.mpr ⟨_, rest⟩

/-- A row fails if and only if one of its diagnostics does, after all those before it succeeded. What
    comes behind it has no part in the failure or in the stage that is left. -/
theorem diagnose_eq_error_iff {list : List Diagnostic} {s t : Stage σ DiagnosticStore τ}
    {f : Failure} :
    c.diagnose driver list s = some (.error f, t) ↔
      ∃ front d back writes m, list = front ++ d :: back ∧ Carried c driver front s writes m ∧
        (c.runDiagnostic driver d).runOn m = some (.error f, t) := by
  constructor
  · intro h
    induction list generalizing s with
    | nil => cases h
    | cons d rest ih =>
      rw [diagnose_cons] at h
      split at h
      · next m hd =>
        obtain ⟨writes, hfirst⟩ := runDiagnostic_eq_ok_iff.mp hd
        obtain ⟨front, e, back, more, n, rfl, hfront, he⟩ := ih h
        exact ⟨d :: front, e, back, writes ++ more, n, rfl, .cons hfirst hfront, he⟩
      · next hd =>
        cases h
        exact ⟨[], d, rest, [], s, rfl, .nil s, hd⟩
      · cases h
  · rintro ⟨front, d, back, writes, m, rfl, hfront, hd⟩
    have hok : c.diagnose driver front s = some (.ok (), m) := diagnose_eq_ok_iff.mpr ⟨_, hfront⟩
    rw [diagnose_append, hok]
    simp only [diagnose_cons, hd]

/-! ## 6. Visits -/

/-- The stage on which the diagnostics of a visit begin. -/
def opening (protocol : String) (world : World σ) (device : DeviceStore) (store : DiagnosticStore) :
    Stage σ DiagnosticStore τ where
  world :=
    { world with
      journal := world.journal ++ [.noted (.engine "Running driver function"
        [("function", Job.diagnostics.name), ("protocol", protocol)])] }
  device := device
  other := store

/-- What is left of a visit whose diagnostics have come to something. -/
def leftBy (stores : Stores) (list : List Diagnostic)
    (outcome : Except Failure Unit × Stage σ DiagnosticStore τ) : Visit σ τ where
  result := outcome.1
  device := outcome.2.world.device
  journal := outcome.2.world.journal
  stores :=
    { stores with
      device := outcome.2.device
      diagnostics := some (outcome.2.other.withPending list) }
  remarks := outcome.2.remarks

/-- A visit runs the diagnostics that are pending. Where it begins does not depend on them. -/
theorem visit_eq_diagnose {protocol : String} {device : σ} {world : World σ}
    (hopened : c.openSession protocol device = .ok world) (stores : Stores)
    (store : DiagnosticStore) (list : List Diagnostic) :
    c.visit protocol .diagnostics driver device
        { stores with diagnostics := some (store.withPending list) } =
      (c.diagnose driver list (opening protocol world stores.device store)).map
        (leftBy stores list) := by
  rw [visit, hopened]
  have hignores := ignores_runDiagnostics c driver list list
    (opening protocol world stores.device store)
  show ((c.runDiagnostics driver list).runOn
    ((opening protocol world stores.device store).mapOther (.withPending list))).map _ = _
  rw [hignores, Option.map_map]
  rfl

/-- **The diagnostics of a visit** are run in order on one session, from a stage that does not depend
    on them.

    * A row of two parts is the first, and if that succeeds the second from the session, the stores
      and the device that the first left.
    * A row succeeds if each of its diagnostics does where the one before it left off (`Carried`).
      The results they wrote are stored, and of those under one name the last is kept.
    * A row fails with the failure of the first diagnostic that fails, on the stage that this one
      left, whatever comes behind it; a simple one has stored nothing.
    * Nothing that is done on the way, by the routines of a driver or otherwise, resets the device
      store or changes its collections. -/
theorem visit_diagnostics {protocol : String} {device : σ} {world : World σ}
    (hopened : c.openSession protocol device = .ok world) (driver : Driver τ) (stores : Stores)
    (store : DiagnosticStore) :
    (∀ list, c.visit protocol .diagnostics driver device
        { stores with diagnostics := some (store.withPending list) } =
      (c.diagnose driver list (opening protocol world stores.device store)).map
        (leftBy stores list)) ∧
    (∀ front back s, c.diagnose driver (front ++ back) s = match c.diagnose driver front s with
      | some (.ok (), t) => c.diagnose driver back t
      | some (.error f, t) => some (.error f, t)
      | none => none) ∧
    (∀ list s t, c.diagnose driver list s = some (.ok (), t) ↔
      ∃ writes, Carried c driver list s writes t) ∧
    (∀ list s writes t, Carried c driver list s writes t → t.other = s.other.stored writes) ∧
    (∀ (s : DiagnosticStore) writes name, (s.stored writes).results.get? name =
      (writes.reverse.lookup name).or (s.results.get? name)) ∧
    (∀ list s f t, c.diagnose driver list s = some (.error f, t) ↔
      ∃ front d back writes m, list = front ++ d :: back ∧ Carried c driver front s writes m ∧
        (c.runDiagnostic driver d).runOn m = some (.error f, t)) ∧
    (∀ d s f t, (c.runDiagnostic driver d).runOn s = some (.error f, t) →
      ∃ writes, t.other = s.other.stored writes ∧ (d.task ≠ .scripted → writes = [])) ∧
    (∀ list s r t, c.diagnose driver list s = some (r, t) → s.device.Intact t.device) ∧
    ∀ current (call : DiagnoseCall) (s : Stage σ DiagnosticStore τ) r t,
      (call.perform c current).runOn s = some (r, t) → s.device.Intact t.device := by
  refine ⟨visit_eq_diagnose hopened stores store, diagnose_append,
    fun list s t => diagnose_eq_ok_iff, fun list s writes t => other_of_carried,
    DiagnosticStore.get?_stored, fun list s f t => diagnose_eq_error_iff, fun d s f t h => ?_,
    fun list s r t h => (restricted_runDiagnostics c driver list s r t h).1,
    fun current call s r t h => (restricted_perform current call s r t h).1⟩
  cases htask : d.task with
  | simple mode command => exact ⟨[], other_of_simple_error htask h, fun _ => rfl⟩
  | scripted =>
    obtain ⟨-, writes, hwrites⟩ := restricted_runDiagnostic c driver d s _ t h
    exact ⟨writes, hwrites, fun hsimple => absurd rfl hsimple⟩

/-- A driver whose scripted diagnostics all find the same. -/
def plainDriver : Driver Unit where
  snapshot := .done
  diagnose _ := .call (.result (.set (.text "found"))) fun _ => .done

/-- Four diagnostics after a login. The second one writes under the name of the first, the third asks
    for a macro that there is not, and the fourth is never run. -/
theorem visit_diagnostics_stopped :
    let page : Exchange := ⟨"up 3 days", "up 3 days core#", 0, [some "core#"]⟩
    let device : List (Except Failure Exchange) := loginWorld.device ++ [.ok page]
    let list : List Diagnostic :=
      [.simple "uptime" "enable" "show", .scripted "uptime", .simple "lost" "nowhere" "show",
        .simple "never" "enable" "show"]
    loginConsole.openSession "user" device = .ok { loginWorld with device } ∧
      ∃ v, loginConsole.visit "user" .diagnostics plainDriver device
          { diagnostics := some (DiagnosticStore.withPending list {}) } = some v ∧
        v.result = .error (.definition (.noMacros "enable")) ∧
        v.device = [] ∧
        v.stores.diagnostics.bind (·.results.get? "uptime") = some (.text "found") := by
  intro page device list
  have hopened : loginConsole.openSession "user" device = .ok { loginWorld with device } := rfl
  obtain ⟨hvisit, -, -, hstored, hlast, herror, -⟩ := visit_diagnostics hopened plainDriver {} {}
  have hcommand : ∀ v : World (List (Except Failure Exchange)), v.state.mode = "enable" →
      v.device = [.ok page] → ∃ w, (loginConsole.command "show").runOn v =
        some (.ok "up 3 days", w) ∧ w.state.mode = "enable" ∧ w.device = [] := by
    intro v hmode hdevice
    have hseen : Screen.dropEcho (Screen.normalize "up 3 days") "show" = "up 3 days" := by
      decide +kernel
    have hanswer : loginConsole.answerTo
        (loginConsole.commandRequest "show" { prompt := ⟨"#", default⟩ } v.state) v = .ok page := by
      rw [answerTo, hdevice]
      rfl
    have hget : loginConsole.registry.get? v.state.mode = some { prompt := ⟨"#", default⟩ } := by
      rw [hmode]
      rfl
    have hrun := runOn_command hget hanswer rfl
    refine ⟨loginConsole.afterCommand "show" { prompt := ⟨"#", default⟩ } v, hrun.trans ?_, hmode,
      ?_⟩
    · rw [show loginConsole.cleaned page.output = Screen.normalize "up 3 days" from rfl,
        show loginConsole.link.dropEcho _ _ "show" = "up 3 days" from hseen]
      rfl
    · show (loginConsole.link.send v.device _).2 = []
      rw [hdevice]
      rfl
  obtain ⟨v, hwalked, hmode, hdevice⟩ : ∃ v, (loginConsole.runMacro "enable").runOn
      (announced (opening (τ := Unit) "user" { loginWorld with device } {} {})
        (.simple "uptime" "enable" "show")).world = some (.ok (), v) ∧
      v.state.mode = "enable" ∧ v.device = [.ok page] := ⟨_, rfl, rfl, rfl⟩
  obtain ⟨w, hshow, hmode, hdevice⟩ := hcommand v hmode hdevice
  have hsimple : Carries loginConsole plainDriver (.simple "uptime" "enable" "show")
      (opening "user" { loginWorld with device } {} {}) [("uptime", .text "up 3 days")] _ :=
    .simple rfl hwalked hshow
  have hscripted : ∀ s, Carries loginConsole plainDriver (.scripted "uptime") s
      [("uptime", .text "found")] { announced s (.scripted "uptime") with
        other := s.other.setResult "uptime" (.text "found") } := fun s =>
    .scripted rfl rfl rfl
  obtain ⟨m, hfront, hmode, hdevice, hfound⟩ : ∃ m, Carried loginConsole plainDriver
      [.simple "uptime" "enable" "show", .scripted "uptime"]
      (opening "user" { loginWorld with device } {} {})
      [("uptime", .text "up 3 days"), ("uptime", .text "found")] m ∧
      m.world.state.mode = "enable" ∧ m.world.device = [] ∧
      m.other.results.get? "uptime" = some (.text "found") :=
    ⟨_, .cons hsimple (.cons (hscripted _) (.nil _)), hmode, hdevice, rfl⟩
  have hlost : ∀ s : Stage (List (Except Failure Exchange)) DiagnosticStore Unit,
      s.world.state.mode = "enable" →
      ∃ t, (loginConsole.runDiagnostic plainDriver (.simple "lost" "nowhere" "show")).runOn s =
          some (.error (.definition (.noMacros "enable")), t) ∧
        t.world.device = s.world.device ∧ t.other = s.other := by
    rintro ⟨⟨device, ⟨mode, prompt, pager, terminal⟩, journal⟩, store, other, remarks⟩ hmode
    simp only at hmode
    subst hmode
    exact ⟨_, rfl, rfl, rfl⟩
  obtain ⟨t, hfails, hdevice', hother⟩ := hlost m hmode
  have hrow := (herror list _ _ _).mpr ⟨_, _, _, _, _, rfl, hfront, hfails⟩
  rw [hvisit list, hrow]
  refine ⟨hopened, _, rfl, rfl, hdevice'.trans hdevice, ?_⟩
  show (DiagnosticStore.withPending list t.other).results.get? "uptime" = _
  rw [hother]
  exact hfound

end Console

end DeviceCli
