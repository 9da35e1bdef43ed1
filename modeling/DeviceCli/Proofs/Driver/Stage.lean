import DeviceCli.Driver.Routine

/-!
# What happens on a stage

The actions of a driver run on a stage: the session, the stores and the remarks so far. Here is what
each way to build an action comes to, and two properties that go through all of them.

* `StageAct.runOn` and its equations: `runOn_bind`, `runOn_attempt`, then one for each kind of call;
* `StageAct.Keeps`: an action keeps a relation between stages, whatever it comes to; a routine keeps
  what its calls keep (`Routine.keeps_run`), by induction on its tree;
* `StageAct.Ignores`: an action takes no notice of a change of the other store. It comes to the same
  on a stage that was changed, and leaves that stage as it would have left the first one, changed
  (`Routine.ignores_run`).
-/

namespace DeviceCli

namespace StageAct

variable {σ κ τ α β : Type}

/-! ## 1. Runs -/

/-- Runs an action on a stage. Nothing comes of one that never ends. -/
def runOn (act : StageAct σ κ τ α) (s : Stage σ κ τ) : Option (Except Failure α × Stage σ κ τ) :=
  act.run.run s

section Run

variable (s : Stage σ κ τ)

@[simp] theorem runOn_pure (a : α) : (pure a : StageAct σ κ τ α).runOn s = some (.ok a, s) := rfl

@[simp] theorem runOn_fail (f : Failure) :
    (fail f : StageAct σ κ τ α).runOn s = some (.error f, s) := rfl

@[simp] theorem runOn_get : (get : StageAct σ κ τ (Stage σ κ τ)).runOn s = some (.ok s, s) := rfl

@[simp] theorem runOn_leave (r : τ) :
    (leave r : StageAct σ κ τ Unit).runOn s =
      some (.ok (), { s with remarks := s.remarks ++ [r] }) := rfl

/-- One action after another: what stops the first stops both. -/
theorem runOn_bind (act : StageAct σ κ τ α) (next : α → StageAct σ κ τ β) :
    (act >>= next).runOn s = match act.runOn s with
      | some (.ok a, t) => (next a).runOn t
      | some (.error f, t) => some (.error f, t)
      | none => none := by
  show (act.run.run s).bind _ = _
  cases h : act.run.run s with
  | none => simp [runOn, h]
  | some p =>
    obtain ⟨r, t⟩ := p
    cases r <;> simp [runOn, h] <;> rfl

theorem runOn_bind_ok {act : StageAct σ κ τ α} {s t : Stage σ κ τ} {a : α}
    (h : act.runOn s = some (.ok a, t)) (next : α → StageAct σ κ τ β) :
    (act >>= next).runOn s = (next a).runOn t := by
  rw [runOn_bind, h]

theorem runOn_tryCatch (act : StageAct σ κ τ α) (handler : Failure → StageAct σ κ τ α) :
    (tryCatch act handler).runOn s = match act.runOn s with
      | some (.ok a, t) => some (.ok a, t)
      | some (.error f, t) => (handler f).runOn t
      | none => none := by
  show (act.run.run s).bind _ = _
  cases h : act.run.run s with
  | none => simp [runOn, h]
  | some p =>
    obtain ⟨r, t⟩ := p
    cases r <;> simp [runOn, h] <;> rfl

/-- An attempt succeeds with what the action came to. -/
@[simp] theorem runOn_attempt (act : StageAct σ κ τ α) :
    (attempt act).runOn s = (act.runOn s).map fun p => (.ok p.1, p.2) := by
  rw [attempt, runOn_tryCatch, runOn_bind]
  match act.runOn s with
  | none => rfl
  | some (.ok a, t) => rfl
  | some (.error f, t) => rfl

@[simp] theorem runOn_onSession (act : Act σ α) :
    (onSession act : StageAct σ κ τ α).runOn s =
      (act.runOn s.world).map fun p => (p.1, { s with world := p.2 }) := rfl

@[simp] theorem runOn_onDevice (change : DeviceStore → Except Failure DeviceStore) :
    (onDevice change : StageAct σ κ τ Unit).runOn s = match change s.device with
      | .ok device => some (.ok (), { s with device })
      | .error f => some (.error f, s) := by
  rw [onDevice, runOn_bind_ok (runOn_get s)]
  cases change s.device <;> rfl

@[simp] theorem runOn_onOther (change : κ → Except Failure κ) :
    (onOther change : StageAct σ κ τ Unit).runOn s = match change s.other with
      | .ok other => some (.ok (), { s with other })
      | .error f => some (.error f, s) := by
  rw [onOther, runOn_bind_ok (runOn_get s)]
  cases change s.other <;> rfl

end Run

end StageAct

/-! ## 2. What an action keeps -/

/-- A relation along the runs on stages. -/
structure Stage.Frame (σ κ τ : Type) where
  rel : Stage σ κ τ → Stage σ κ τ → Prop
  refl : ∀ s, rel s s
  trans : ∀ {s t u}, rel s t → rel t u → rel s u

namespace StageAct

variable {σ κ τ α β : Type} {F : Stage.Frame σ κ τ}

/-- An action keeps a frame, whatever it comes to. -/
def Keeps (F : Stage.Frame σ κ τ) (act : StageAct σ κ τ α) : Prop :=
  ∀ s r t, act.runOn s = some (r, t) → F.rel s t

theorem Keeps.pure (a : α) : (Pure.pure a : StageAct σ κ τ α).Keeps F := by
  intro s r t h
  cases h
  exact F.refl s

theorem Keeps.fail (f : Failure) : (StageAct.fail f : StageAct σ κ τ α).Keeps F := by
  intro s r t h
  cases h
  exact F.refl s

theorem Keeps.bind {act : StageAct σ κ τ α} {next : α → StageAct σ κ τ β} (h : act.Keeps F)
    (hnext : ∀ a, (next a).Keeps F) : (act >>= next).Keeps F := by
  intro s r u hs
  rw [runOn_bind] at hs
  match hact : act.runOn s with
  | none =>
    rw [hact] at hs
    cases hs
  | some (.error f, t) =>
    rw [hact] at hs
    cases hs
    exact h s _ _ hact
  | some (.ok a, t) =>
    rw [hact] at hs
    exact F.trans (h s _ t hact) (hnext a t r u hs)

theorem Keeps.attempt {act : StageAct σ κ τ α} (h : act.Keeps F) : act.attempt.Keeps F := by
  intro s r t hs
  rw [runOn_attempt, Option.map_eq_some_iff] at hs
  obtain ⟨p, hp, hr⟩ := hs
  cases hr
  exact h s p.1 p.2 hp

theorem Keeps.onSession (act : Act σ α)
    (h : ∀ s r w, act.runOn s.world = some (r, w) → F.rel s { s with world := w }) :
    (StageAct.onSession act : StageAct σ κ τ α).Keeps F := by
  intro s r t hs
  rw [runOn_onSession, Option.map_eq_some_iff] at hs
  obtain ⟨p, hp, hr⟩ := hs
  cases hr
  exact h s p.1 p.2 hp

theorem Keeps.onDevice {change : DeviceStore → Except Failure DeviceStore}
    (h : ∀ s device, change s.device = .ok device → F.rel s { s with device }) :
    (StageAct.onDevice change : StageAct σ κ τ Unit).Keeps F := by
  intro s r t hs
  rw [runOn_onDevice] at hs
  split at hs
  · next device hd =>
    cases hs
    exact h s device hd
  · cases hs
    exact F.refl s

theorem Keeps.onOther {change : κ → Except Failure κ}
    (h : ∀ s other, change s.other = .ok other → F.rel s { s with other }) :
    (StageAct.onOther change : StageAct σ κ τ Unit).Keeps F := by
  intro s r t hs
  rw [runOn_onOther] at hs
  split at hs
  · next other ho =>
    cases hs
    exact h s other ho
  · cases hs
    exact F.refl s

end StageAct

/-- **A routine keeps what its calls and its remarks keep**, by induction on its tree. -/
theorem Routine.keeps_run {σ ι τ κ : Type} {ρ : κ → Type} {F : Stage.Frame σ ι τ}
    {perform : (c : κ) → StageAct σ ι τ (ρ c)} (hperform : ∀ c, (perform c).Keeps F)
    (hleave : ∀ s r, F.rel s { s with remarks := s.remarks ++ [r] }) (routine : Routine κ ρ τ) :
    (routine.run perform).Keeps F := by
  induction routine with
  | done => exact .pure ()
  | failed f => exact .fail f
  | remark r next ih =>
    refine .bind (fun s r' t h => ?_) fun _ => ih
    cases h
    exact hleave s r
  | call c next ih => exact .bind (.attempt (hperform c)) ih

/-! ## 3. What an action takes no notice of -/

/-- The stage with a change of its other store. -/
def Stage.mapOther {σ κ τ : Type} (change : κ → κ) (s : Stage σ κ τ) : Stage σ κ τ :=
  { s with other := change s.other }

namespace StageAct

variable {σ κ τ α β : Type} {change : κ → κ}

/-- An action comes to the same before and after a change of the other store. -/
def Ignores (change : κ → κ) (act : StageAct σ κ τ α) : Prop :=
  ∀ s, act.runOn (s.mapOther change) = (act.runOn s).map fun p => (p.1, p.2.mapOther change)

theorem Ignores.pure (a : α) : (Pure.pure a : StageAct σ κ τ α).Ignores change := fun _ => rfl

theorem Ignores.fail (f : Failure) : (StageAct.fail f : StageAct σ κ τ α).Ignores change :=
  fun _ => rfl

theorem Ignores.leave (r : τ) : (StageAct.leave r : StageAct σ κ τ Unit).Ignores change :=
  fun _ => rfl

theorem Ignores.bind {act : StageAct σ κ τ α} {next : α → StageAct σ κ τ β}
    (h : act.Ignores change) (hnext : ∀ a, (next a).Ignores change) :
    (act >>= next).Ignores change := by
  intro s
  rw [runOn_bind, runOn_bind, h s]
  match act.runOn s with
  | none => rfl
  | some (.error f, t) => rfl
  | some (.ok a, t) => exact hnext a t

theorem Ignores.attempt {act : StageAct σ κ τ α} (h : act.Ignores change) :
    act.attempt.Ignores change := by
  intro s
  rw [runOn_attempt, runOn_attempt, h s, Option.map_map, Option.map_map]
  rfl

theorem Ignores.onSession (act : Act σ α) :
    (StageAct.onSession act : StageAct σ κ τ α).Ignores change := by
  intro s
  rw [runOn_onSession, runOn_onSession, Option.map_map]
  rfl

theorem Ignores.onDevice (f : DeviceStore → Except Failure DeviceStore) :
    (StageAct.onDevice f : StageAct σ κ τ Unit).Ignores change := by
  intro s
  rw [runOn_onDevice, runOn_onDevice]
  show (match f s.device with | .ok device => _ | .error e => _) = _
  cases f s.device <;> rfl

theorem Ignores.onOther {f : κ → Except Failure κ}
    (h : ∀ other, f (change other) = (f other).map change) :
    (StageAct.onOther f : StageAct σ κ τ Unit).Ignores change := by
  intro s
  rw [runOn_onOther, runOn_onOther]
  show (match f (change s.other) with | .ok other => _ | .error e => _) = _
  rw [h s.other]
  cases f s.other <;> rfl

end StageAct

/-- **A routine takes no notice of what its calls ignore**, by induction on its tree. -/
theorem Routine.ignores_run {σ ι τ κ : Type} {ρ : κ → Type} {change : ι → ι}
    {perform : (c : κ) → StageAct σ ι τ (ρ c)} (hperform : ∀ c, (perform c).Ignores change)
    (routine : Routine κ ρ τ) : (routine.run perform).Ignores change := by
  induction routine with
  | done => exact .pure ()
  | failed f => exact .fail f
  | remark r next ih => exact .bind (.leave r) fun _ => ih
  | call c next ih => exact .bind (.attempt (hperform c)) ih

end DeviceCli
