import DeviceCli.Proofs.Driver.Diagnosis
import DeviceCli.Proofs.Inventory.Store

/-!
# What a routine writes

A run of a routine is a path through its tree: the calls it made, and what each of them came to. What
the run leaves in a store is what the calls that succeeded wrote to it, one after the other, however
the run ended.

* `Routine.Path`: the paths of a tree, `Routine.runOn_run_iff` that they are its runs;
* `Trace.kept`: what is in a store after some calls, of which only those that succeeded wrote;
* `Routine.Path.kept`: **a store along a path**, by induction on the path, for any store and any
  calls that write to it when they succeed;
* `CollectCall.writes`, `DiagnoseCall.writes`: the calls of both kinds of routines do, and
  `resets_kept` that none of them makes a device forget.
-/

namespace DeviceCli

/-! ## 1. Paths -/

/-- Calls that were made, each with what it came to. -/
abbrev Trace {κ : Type} (ρ : κ → Type) := List ((c : κ) × Except Failure (ρ c))

namespace Routine

variable {σ ι τ κ : Type} {ρ : κ → Type}

/-- **A path through the tree of a routine**, from one stage to another: the calls on the way, and
    what comes at the end. A failure is at the end only where the routine fails itself; one of a
    call is for the routine to go on with. -/
inductive Path (perform : (c : κ) → StageAct σ ι τ (ρ c)) :
    Routine κ ρ τ → Stage σ ι τ → Trace ρ → Except Failure Unit → Stage σ ι τ → Prop
  | done (s : Stage σ ι τ) : Path perform .done s [] (.ok ()) s
  | failed (f : Failure) (s : Stage σ ι τ) : Path perform (.failed f) s [] (.error f) s
  | remark {r : τ} {next : Routine κ ρ τ} {s t : Stage σ ι τ} {made : Trace ρ}
      {outcome : Except Failure Unit}
      (then_ : Path perform next { s with remarks := s.remarks ++ [r] } made outcome t) :
      Path perform (.remark r next) s made outcome t
  | call {c : κ} {next : Except Failure (ρ c) → Routine κ ρ τ} {s m t : Stage σ ι τ}
      {answer : Except Failure (ρ c)} {made : Trace ρ} {outcome : Except Failure Unit}
      (first : (perform c).runOn s = some (answer, m))
      (then_ : Path perform (next answer) m made outcome t) :
      Path perform (.call c next) s (⟨c, answer⟩ :: made) outcome t

theorem runOn_remark (perform : (c : κ) → StageAct σ ι τ (ρ c)) (r : τ) (next : Routine κ ρ τ)
    (s : Stage σ ι τ) :
    ((remark r next).run perform).runOn s =
      (next.run perform).runOn { s with remarks := s.remarks ++ [r] } := by
  rw [run]
  exact StageAct.runOn_bind_ok (StageAct.runOn_leave s r) _

/-- A routine goes on whatever becomes of its call, if it ever ends. -/
theorem runOn_call (perform : (c : κ) → StageAct σ ι τ (ρ c)) (c : κ)
    (next : Except Failure (ρ c) → Routine κ ρ τ) (s : Stage σ ι τ) :
    ((call c next).run perform).runOn s =
      ((perform c).runOn s).bind fun p => ((next p.1).run perform).runOn p.2 := by
  rw [run, StageAct.runOn_bind, StageAct.runOn_attempt]
  match (perform c).runOn s with
  | none => rfl
  | some (answer, m) => rfl

/-- **The paths of a routine are its runs**, by induction on its tree. -/
theorem runOn_run_iff {perform : (c : κ) → StageAct σ ι τ (ρ c)} {routine : Routine κ ρ τ}
    {s t : Stage σ ι τ} {outcome : Except Failure Unit} :
    (routine.run perform).runOn s = some (outcome, t) ↔
      ∃ made, Path perform routine s made outcome t := by
  induction routine generalizing s with
  | done =>
    constructor
    · intro h
      cases h
      exact ⟨[], .done _⟩
    · rintro ⟨made, path⟩
      cases path
      rfl
  | failed f =>
    constructor
    · intro h
      cases h
      exact ⟨[], .failed f _⟩
    · rintro ⟨made, path⟩
      cases path
      rfl
  | remark r next ih =>
    rw [runOn_remark, ih]
    constructor
    · rintro ⟨made, path⟩
      exact ⟨made, .remark path⟩
    · rintro ⟨made, path⟩
      cases path with
      | remark then_ => exact ⟨made, then_⟩
  | call c next ih =>
    rw [runOn_call, Option.bind_eq_some_iff]
    constructor
    · rintro ⟨⟨answer, m⟩, hfirst, hrest⟩
      obtain ⟨made, path⟩ := (ih answer).mp hrest
      exact ⟨⟨c, answer⟩ :: made, .call hfirst path⟩
    · rintro ⟨made, path⟩
      cases path with
      | @call _ _ _ m _ answer made _ first then_ =>
        exact ⟨(answer, m), first, (ih answer).mpr ⟨made, then_⟩⟩

/-- The routine that makes a call, and fails where the call does. -/
def insist (c : κ) (next : ρ c → Routine κ ρ τ) : Routine κ ρ τ :=
  call c fun
    | .ok answer => next answer
    | .error f => failed f

section Insist

variable {perform : (c : κ) → StageAct σ ι τ (ρ c)} {c : κ} {next : ρ c → Routine κ ρ τ}
  {s m : Stage σ ι τ}

theorem insist_ok {answer : ρ c} (h : (perform c).runOn s = some (.ok answer, m)) :
    ((insist c next).run perform).runOn s = ((next answer).run perform).runOn m := by
  rw [insist, runOn_call, h]
  rfl

theorem insist_error {f : Failure} (h : (perform c).runOn s = some (.error f, m)) :
    ((insist c next).run perform).runOn s = some (.error f, m) := by
  rw [insist, runOn_call, h]
  rfl

theorem insist_none (h : (perform c).runOn s = none) :
    ((insist c next).run perform).runOn s = none := by
  rw [insist, runOn_call, h]
  rfl

end Insist

end Routine

/-! ## 2. Writes -/

section Kept

variable {κ π : Type} {ρ : κ → Type}

/-- What is in a store after a write that came to an outcome: only one that succeeded counts. -/
def afterWrite {α : Type} (outcome : Except Failure α) (write : π → π) (store : π) : π :=
  match outcome with
  | .ok _ => write store
  | .error _ => store

/-- **What is in a store after some calls**: what those that succeeded wrote to it, in order. -/
def Trace.kept (write : κ → π → π) (made : Trace ρ) (store : π) : π :=
  made.foldl (fun store step => afterWrite step.2 (write step.1) store) store

@[simp] theorem Trace.kept_nil (write : κ → π → π) (store : π) :
    Trace.kept write ([] : Trace ρ) store = store := rfl

@[simp] theorem Trace.kept_cons (write : κ → π → π) (step : (c : κ) × Except Failure (ρ c))
    (made : Trace ρ) (store : π) :
    Trace.kept write (step :: made) store =
      Trace.kept write made (afterWrite step.2 (write step.1) store) := rfl

/-- What no write changes is the same after any calls. -/
theorem Trace.kept_same {β : Type} (read : π → β) {write : κ → π → π}
    (h : ∀ c store, read (write c store) = read store) (made : Trace ρ) (store : π) :
    read (Trace.kept write made store) = read store := by
  induction made generalizing store with
  | nil => rfl
  | cons step made ih =>
    obtain ⟨c, answer⟩ := step
    rw [Trace.kept_cons, ih]
    cases answer with
    | ok a => exact h c store
    | error f => rfl

/-- Calls write to a part of the stage when they succeed, and leave it as it was when they fail. -/
def Writes {σ ι τ : Type} (perform : (c : κ) → StageAct σ ι τ (ρ c)) (part : Stage σ ι τ → π)
    (write : κ → π → π) : Prop :=
  ∀ c s answer t, (perform c).runOn s = some (answer, t) →
    part t = afterWrite answer (write c) (part s)

/-- **A store along a path** holds what the calls that succeeded wrote, by induction on the path. -/
theorem Routine.Path.kept {σ ι τ : Type} {perform : (c : κ) → StageAct σ ι τ (ρ c)}
    {routine : Routine κ ρ τ} {s t : Stage σ ι τ} {made : Trace ρ} {outcome : Except Failure Unit}
    (path : routine.Path perform s made outcome t) {part : Stage σ ι τ → π} {write : κ → π → π}
    (hwrites : Writes perform part write)
    (hleave : ∀ s r, part { s with remarks := s.remarks ++ [r] } = part s) :
    part t = Trace.kept write made (part s) := by
  induction path with
  | done s => rfl
  | failed f s => rfl
  | @remark r next s t made outcome _ ih => rw [ih, hleave]
  | @call c next s m t answer made outcome first _ ih =>
    rw [ih, Trace.kept_cons, hwrites c s answer m first]

end Kept

/-! ## 3. What each call writes -/

/-- The store with an attribute set. -/
def DeviceStore.put (key : String) (value : Attribute) (d : DeviceStore) : DeviceStore :=
  { d with attributes := d.attributes.insert key value }

/-- The store with one more value at the end of a collection. -/
def DeviceStore.append (name : String) (value : Attribute) (d : DeviceStore) : DeviceStore :=
  { d with collections := d.collections.insert name (d.collection name ++ [value.marked]) }

/-- The store with an attribute set. -/
def ConfigStore.put (key : String) (value : Attribute) (s : ConfigStore) : ConfigStore :=
  { s with attributes := s.attributes.insert key value }

/-- What a call writes to the store of the device. -/
def DeviceCall.write : DeviceCall → DeviceStore → DeviceStore
  | set key value => DeviceStore.put key value
  | setJson key value => DeviceStore.put key (.ofAny value)
  | add name value => DeviceStore.append name value
  | addJson name value => DeviceStore.append name (.ofAny value)
  | get _ => id

/-- What a call writes to the store of the configuration. -/
def ConfigCall.write : ConfigCall → ConfigStore → ConfigStore
  | set key value => ConfigStore.put key value
  | setJson key value => ConfigStore.put key (.ofAny value)
  | download key method file store => match Download.make key method file store with
    | .ok d => fun s => s.request d
    | .error _ => id

/-- What a call writes to the results, while a diagnostic is carried out. -/
def ResultCall.write (current : String) : ResultCall → DiagnosticStore → DiagnosticStore
  | set value => fun s => s.setResult current value
  | setKey key value => fun s => s.setResult key value

/-- What a call of a routine that collects data writes to the store of the device. -/
def CollectCall.writeDevice : CollectCall → DeviceStore → DeviceStore
  | device call => call.write
  | _ => id

/-- What such a call writes to the store of the configuration. -/
def CollectCall.writeConfig : CollectCall → ConfigStore → ConfigStore
  | config call => call.write
  | _ => id

/-- What a call of a routine that carries out a diagnostic writes to the store of the device. -/
def DiagnoseCall.writeDevice : DiagnoseCall → DeviceStore → DeviceStore
  | device call => call.write
  | _ => id

/-- What such a call writes to the results. -/
def DiagnoseCall.writeResults (current : String) : DiagnoseCall → DiagnosticStore → DiagnosticStore
  | result call => call.write current
  | _ => id

/-! ## 4. Each call writes that -/

section Calls

variable {σ κ τ : Type} {s t : Stage σ κ τ}

/-- An action of the session writes to no store. -/
theorem stores_of_onSession {α : Type} {act : Act σ α} {answer : Except Failure α}
    (h : (StageAct.onSession act : StageAct σ κ τ α).runOn s = some (answer, t)) :
    t.device = s.device ∧ t.other = s.other := by
  rw [StageAct.runOn_onSession, Option.map_eq_some_iff] at h
  obtain ⟨p, -, hp⟩ := h
  cases hp
  exact ⟨rfl, rfl⟩

theorem stores_of_onDevice {change : DeviceStore → Except Failure DeviceStore}
    {write : DeviceStore → DeviceStore} (hchange : ∀ d d', change d = .ok d' → d' = write d)
    {answer : Except Failure Unit}
    (h : (StageAct.onDevice change : StageAct σ κ τ Unit).runOn s = some (answer, t)) :
    t.device = afterWrite answer write s.device ∧ t.other = s.other := by
  rw [StageAct.runOn_onDevice] at h
  split at h
  · next device hdevice =>
    cases h
    exact ⟨hchange _ _ hdevice, rfl⟩
  · cases h
    exact ⟨rfl, rfl⟩

theorem stores_of_onOther {change : κ → Except Failure κ} {write : κ → κ}
    (hchange : ∀ s s', change s = .ok s' → s' = write s) {answer : Except Failure Unit}
    (h : (StageAct.onOther change : StageAct σ κ τ Unit).runOn s = some (answer, t)) :
    t.device = s.device ∧ t.other = afterWrite answer write s.other := by
  rw [StageAct.runOn_onOther] at h
  split at h
  · next other hother =>
    cases h
    exact ⟨rfl, hchange _ _ hother⟩
  · cases h
    exact ⟨rfl, rfl⟩

end Calls

/-- What comes behind the check of a key has succeeded where the whole has. -/
theorem ok_of_keyed {α : Type} {key operation : String} {next : Except Failure α} {a : α}
    (h : (do refuseEmptyKey key operation; next) = .ok a) : next = .ok a := by
  rcases refuseEmptyKey_cases key operation with ⟨-, hok⟩ | ⟨-, f, hf⟩
  · rw [hok] at h
    exact h
  · rw [hf] at h
    cases h

namespace DeviceStore

variable {d d' : DeviceStore} {access : Access}

theorem eq_put_of_set {key : String} {value : Attribute} (h : d.set key value = .ok d') :
    d' = d.put key value := by
  cases ok_of_keyed h
  rfl

theorem eq_put_of_setJson {key : String} {value : Json} (h : d.setJson key value = .ok d') :
    d' = d.put key (.ofAny value) := by
  rcases d.setJson_cases key value with ⟨-, hok⟩ | ⟨-, f, hf⟩
  · rw [hok] at h
    cases h
    rfl
  · rw [hf] at h
    cases h

theorem eq_append_of_add {name : String} {value : Attribute}
    (h : d.add access name value = .ok d') : d' = d.append name value := by
  unfold add at h
  cases access with
  | setOnly => cases h
  | full =>
    cases ok_of_keyed h
    rfl

theorem eq_append_of_addJson {name : String} {value : Json}
    (h : d.addJson access name value = .ok d') : d' = d.append name (.ofAny value) := by
  rcases d.addJson_cases access name value with ⟨-, hok⟩ | ⟨-, f, hf⟩
  · rw [hok] at h
    cases h
    rfl
  · rw [hf] at h
    cases h

end DeviceStore

namespace ConfigStore

variable {s s' : ConfigStore}

theorem eq_put_of_set {key : String} {value : Attribute} (h : s.set key value = .ok s') :
    s' = s.put key value := by
  cases ok_of_keyed h
  rfl

theorem eq_put_of_setJson {key : String} {value : Json} (h : s.setJson key value = .ok s') :
    s' = s.put key (.ofAny value) := by
  rcases s.setJson_cases key value with ⟨-, hok⟩ | ⟨-, f, hf⟩
  · rw [hok] at h
    cases h
    rfl
  · rw [hf] at h
    cases h

end ConfigStore

section Perform

variable {σ κ τ : Type}

theorem DeviceCall.stores_of_perform {access : Access} (call : DeviceCall) {s t : Stage σ κ τ}
    {answer : Except Failure call.Answer} (h : (call.perform access).runOn s = some (answer, t)) :
    t.device = afterWrite answer call.write s.device ∧ t.other = s.other := by
  cases call with
  | set key value => exact stores_of_onDevice (fun d d' => DeviceStore.eq_put_of_set) h
  | setJson key value => exact stores_of_onDevice (fun d d' => DeviceStore.eq_put_of_setJson) h
  | add name value => exact stores_of_onDevice (fun d d' => DeviceStore.eq_append_of_add) h
  | addJson name value => exact stores_of_onDevice (fun d d' => DeviceStore.eq_append_of_addJson) h
  | get key =>
    cases h
    exact ⟨rfl, rfl⟩

theorem ConfigCall.stores_of_perform (call : ConfigCall) {s t : Stage σ ConfigStore τ}
    {answer : Except Failure Unit} (h : call.perform.runOn s = some (answer, t)) :
    t.device = s.device ∧ t.other = afterWrite answer call.write s.other := by
  cases call with
  | set key value => exact stores_of_onOther (fun s s' => ConfigStore.eq_put_of_set) h
  | setJson key value => exact stores_of_onOther (fun s s' => ConfigStore.eq_put_of_setJson) h
  | download key method file store =>
    unfold perform at h
    unfold write
    dsimp only at h ⊢
    cases hmake : Download.make key method file store with
    | error f =>
      rw [hmake] at h
      cases h
      exact ⟨rfl, rfl⟩
    | ok d =>
      rw [hmake] at h
      cases h
      exact ⟨rfl, rfl⟩

theorem ResultCall.stores_of_perform (current : String) (call : ResultCall)
    {s t : Stage σ DiagnosticStore τ} {answer : Except Failure Unit}
    (h : (call.perform current).runOn s = some (answer, t)) :
    t.device = s.device ∧ t.other = afterWrite answer (call.write current) s.other := by
  cases call with
  | set value =>
    cases h
    exact ⟨rfl, rfl⟩
  | setKey key value =>
    exact stores_of_onOther (fun s s' => DiagnosticStore.setKey_eq_ok) h

theorem afterWrite_id {α π : Type} (outcome : Except Failure α) (store : π) :
    afterWrite outcome id store = store := by
  cases outcome <;> rfl

/-- **What the calls of a routine that collects data write**, one case for each kind. -/
theorem CollectCall.writes (c : Console σ) :
    Writes (CollectCall.perform (τ := τ) c) (·.device) writeDevice ∧
      Writes (CollectCall.perform (τ := τ) c) (·.other) writeConfig := by
  have hboth : ∀ (call : CollectCall) (s : Stage σ ConfigStore τ) answer t,
      (call.perform c).runOn s = some (answer, t) →
        t.device = afterWrite answer call.writeDevice s.device ∧
          t.other = afterWrite answer call.writeConfig s.other := by
    intro call s answer t h
    cases call with
    | session call =>
      obtain ⟨hdevice, hother⟩ := stores_of_onSession h
      exact ⟨hdevice.trans (afterWrite_id _ _).symm, hother.trans (afterWrite_id _ _).symm⟩
    | device call =>
      obtain ⟨hdevice, hother⟩ := call.stores_of_perform h
      exact ⟨hdevice, hother.trans (afterWrite_id _ _).symm⟩
    | config call =>
      obtain ⟨hdevice, hother⟩ := call.stores_of_perform h
      exact ⟨hdevice.trans (afterWrite_id _ _).symm, hother⟩
  exact ⟨fun call s answer t h => (hboth call s answer t h).1,
    fun call s answer t h => (hboth call s answer t h).2⟩

/-- **What the calls of a routine that carries out a diagnostic write**, one case for each kind. -/
theorem DiagnoseCall.writes (c : Console σ) (current : String) :
    Writes (DiagnoseCall.perform (τ := τ) c current) (·.device) writeDevice ∧
      Writes (DiagnoseCall.perform (τ := τ) c current) (·.other) (writeResults current) := by
  have hboth : ∀ (call : DiagnoseCall) (s : Stage σ DiagnosticStore τ) answer t,
      (call.perform c current).runOn s = some (answer, t) →
        t.device = afterWrite answer call.writeDevice s.device ∧
          t.other = afterWrite answer (call.writeResults current) s.other := by
    intro call s answer t h
    cases call with
    | session call =>
      obtain ⟨hdevice, hother⟩ := stores_of_onSession h
      exact ⟨hdevice.trans (afterWrite_id _ _).symm, hother.trans (afterWrite_id _ _).symm⟩
    | device call =>
      obtain ⟨hdevice, hother⟩ := call.stores_of_perform h
      exact ⟨hdevice, hother.trans (afterWrite_id _ _).symm⟩
    | result call =>
      obtain ⟨hdevice, hother⟩ := call.stores_of_perform current h
      exact ⟨hdevice.trans (afterWrite_id _ _).symm, hother⟩
  exact ⟨fun call s answer t h => (hboth call s answer t h).1,
    fun call s answer t h => (hboth call s answer t h).2⟩

end Perform

/-! ## 5. Nothing is forgotten -/

theorem DeviceCall.resets_write (call : DeviceCall) (d : DeviceStore) :
    (call.write d).resets = d.resets := by
  cases call <;> rfl

theorem CollectCall.resets_kept (made : Trace CollectCall.Answer) (d : DeviceStore) :
    (made.kept writeDevice d).resets = d.resets := by
  refine Trace.kept_same (·.resets) (fun call d => ?_) made d
  cases call with
  | device call => exact call.resets_write d
  | session call => rfl
  | config call => rfl

theorem DiagnoseCall.resets_kept (made : Trace DiagnoseCall.Answer) (d : DeviceStore) :
    (made.kept writeDevice d).resets = d.resets := by
  refine Trace.kept_same (·.resets) (fun call d => ?_) made d
  cases call with
  | device call => exact call.resets_write d
  | session call => rfl
  | result call => rfl

end DeviceCli
