import DeviceCli.Proofs.Session.Pager
import DeviceCli.Proofs.Session.Pages

/-!
# Two sessions abreast

Two sessions in the same mode of the same device may have pinned their prompts to different names,
have different pagers installed and different histories behind them. A macro does the same in both:
a walk reads neither the pinned name nor the pager, and where the commands that avoid paging read
them, the walk and the installation of the pager have set them anew.

* `Abreast`: two sessions that did the same since two others; `Pinned` if their prompts are pinned
  alike, `InStep` if their pagers are the same too;
* `Act.Follows` and its rules: what an action comes to in a session, it comes to in the other one;
* `follows_execute`: commands keep two sessions in step;
* `follows_walkFrom`: a walk pins the prompts of two sessions alike, if it succeeds;
* `runMacro_abreast`: **a macro does not depend on what was pinned or installed before it.**
-/

namespace DeviceCli

/-! ## 1. Pairs of sessions -/

section Pairs

variable {σ : Type}

/-- Two sessions on the same device and in the same mode, which have done the same and entered the
    same modes since they were `w₀` and `v₀`. -/
structure Abreast (w₀ v₀ w v : World σ) : Prop where
  device : v.device = w.device
  mode : v.state.mode = w.state.mode
  journal : ∃ es, w.journal = w₀.journal ++ es ∧ v.journal = v₀.journal ++ es
  history : ∃ landed, w.state.history = w₀.state.history ++ landed ∧
    v.state.history = v₀.state.history ++ landed

/-- Two sessions abreast whose prompts are pinned alike. -/
structure Pinned (w₀ v₀ w v : World σ) : Prop extends Abreast w₀ v₀ w v where
  strict : v.state.strict = w.state.strict

/-- Two sessions abreast whose prompts are pinned alike and whose pagers are the same. -/
structure InStep (w₀ v₀ w v : World σ) : Prop extends Pinned w₀ v₀ w v where
  pager : v.state.pager = w.state.pager

/-- Which of the two sessions comes first does not matter. -/
theorem Abreast.symm {w₀ v₀ w v : World σ} (h : Abreast w₀ v₀ w v) : Abreast v₀ w₀ v w := by
  obtain ⟨device, mode, ⟨es, hw, hv⟩, landed, hw', hv'⟩ := h
  exact ⟨device.symm, mode.symm, ⟨es, hv, hw⟩, landed, hv', hw'⟩

theorem Abreast.refl {w v : World σ} (hdevice : v.device = w.device)
    (hmode : v.state.mode = w.state.mode) : Abreast w v w v :=
  ⟨hdevice, hmode, ⟨[], by simp, by simp⟩, [], by simp, by simp⟩

variable {w₀ v₀ w v : World σ}

/-- An entry in both journals keeps two sessions abreast. -/
theorem Abreast.record (h : Abreast w₀ v₀ w v) (e : Effect) :
    Abreast w₀ v₀ { w with journal := w.journal ++ [e] }
      { v with journal := v.journal ++ [e] } := by
  obtain ⟨es, hw, hv⟩ := h.journal
  exact { h with journal := ⟨es ++ [e], by simp [hw], by simp [hv]⟩ }

/-- And so does a new state of their device. -/
theorem Abreast.withDevice (h : Abreast w₀ v₀ w v) (device : σ) :
    Abreast w₀ v₀ { w with device } { v with device } := { h with device := rfl }

theorem InStep.record (h : InStep w₀ v₀ w v) (e : Effect) :
    InStep w₀ v₀ { w with journal := w.journal ++ [e] }
      { v with journal := v.journal ++ [e] } :=
  ⟨⟨h.toAbreast.record e, h.strict⟩, h.pager⟩

end Pairs

/-! ## 2. Actions -/

namespace Act

variable {σ α β : Type}

/-- Two sessions are related behind a result: by one relation if it is a success, and by another
    one if it is a failure. -/
def Behind (S T : World σ → World σ → Prop) : Except Failure α → World σ → World σ → Prop
  | .ok _ => S
  | .error _ => T

theorem behind_self {S : World σ → World σ → Prop} {r : Except Failure α} {w v : World σ} :
    Behind S S r w v ↔ S w v := by
  cases r <;> rfl

/-- What an action comes to in a session, another action comes to in another session, and the
    sessions behind them are related. -/
def Follows (S T : World σ → World σ → Prop) (act act' : Act σ α) (w v : World σ) : Prop :=
  ∀ r w', act.runOn w = some (r, w') → ∃ v', act'.runOn v = some (r, v') ∧ Behind S T r w' v'

namespace Follows

variable {S S' T T' : World σ → World σ → Prop} {act act' : Act σ α} {w w' v v' : World σ}

theorem of_runOn {r : Except Failure α} (hw : act.runOn w = some (r, w'))
    (hv : act'.runOn v = some (r, v')) (h : Behind S T r w' v') : Follows S T act act' w v := by
  intro r' w'' hrun
  rw [hw] at hrun
  cases hrun
  exact ⟨v', hv, h⟩

theorem congr {act₁ act₁' : Act σ α} {w₁ v₁ : World σ} (hw : act.runOn w = act₁.runOn w₁)
    (hv : act'.runOn v = act₁'.runOn v₁) (h : Follows S T act₁ act₁' w₁ v₁) :
    Follows S T act act' w v := by
  intro r w' hrun
  rw [hv]
  exact h r w' (hw ▸ hrun)

theorem mono (h : Follows S T act act' w v) (hS : ∀ w v, S w v → S' w v)
    (hT : ∀ w v, T w v → T' w v) : Follows S' T' act act' w v := by
  intro r w' hrun
  obtain ⟨v', hv, hb⟩ := h r w' hrun
  refine ⟨v', hv, ?_⟩
  cases r with
  | ok a => exact hS _ _ hb
  | error f => exact hT _ _ hb

theorem pure (a : α) (h : S w v) : Follows S T (Pure.pure a) (Pure.pure a) w v :=
  of_runOn (runOn_pure w a) (runOn_pure v a) h

theorem fail (f : Failure) (h : T w v) :
    Follows S T (Act.fail f : Act σ α) (Act.fail f) w v :=
  of_runOn (runOn_fail w f) (runOn_fail v f) h

theorem lift (r : Except Failure α) (hS : S w v) (hT : T w v) :
    Follows S T (Act.lift r) (Act.lift r) w v := by
  refine of_runOn (runOn_lift w r) (runOn_lift v r) ?_
  cases r with
  | ok a => exact hS
  | error f => exact hT

theorem bind {next next' : α → Act σ β} (h : Follows S T act act' w v)
    (hnext : ∀ a w v, S w v → Follows S' T (next a) (next' a) w v) :
    Follows S' T (act >>= next) (act' >>= next') w v := by
  intro r w' hrun
  rcases runOn_bind_cases hrun with ⟨f, hact, rfl⟩ | ⟨a, u, hact, hrest⟩
  · obtain ⟨v', hv, hT⟩ := h _ _ hact
    exact ⟨v', runOn_bind_error hv next', hT⟩
  · obtain ⟨u', hu, hS⟩ := h _ _ hact
    obtain ⟨v', hv, hb⟩ := hnext a u u' hS _ _ hrest
    exact ⟨v', (runOn_bind_ok hu next').trans hv, hb⟩

theorem state_bind {next : SessionState → Act σ β}
    (h : Follows S T (next w.state) (next v.state) w v) :
    Follows S T (Act.state >>= next) (Act.state >>= next) w v :=
  congr (runOn_bind_ok (runOn_state w) next) (runOn_bind_ok (runOn_state v) next) h

theorem get_bind {next : World σ → Act σ β} (h : Follows S T (next w) (next v) w v) :
    Follows S T (get >>= next) (get >>= next) w v :=
  congr (runOn_bind_ok (runOn_get w) next) (runOn_bind_ok (runOn_get v) next) h

theorem attempt (h : Follows S S act act' w v) : Follows S T act.attempt act'.attempt w v := by
  intro r w' hrun
  rw [runOn_attempt, Option.map_eq_some_iff] at hrun
  obtain ⟨p, hp, he⟩ := hrun
  cases he
  obtain ⟨v', hv, hb⟩ := h _ _ hp
  refine ⟨v', ?_, behind_self.mp hb⟩
  rw [runOn_attempt, hv]
  rfl

end Follows

end Act

namespace Console

variable {σ : Type} {c : Console σ} {w₀ v₀ w v : World σ}

/-! ## 3. Commands -/

theorem abreast_afterSend (h : Abreast w₀ v₀ w v) (request : Request) :
    c.answerTo request v = c.answerTo request w ∧
      Abreast w₀ v₀ (c.afterSend request w) (c.afterSend request v) := by
  refine ⟨by rw [answerTo, answerTo, h.device], ?_⟩
  rw [afterSend, afterSend, h.device]
  exact (h.record (.sent request)).withDevice _

theorem abreast_afterPause (h : Abreast w₀ v₀ w v) (ms : Option Nat) :
    Abreast w₀ v₀ (c.afterPause ms w) (c.afterPause ms v) := by
  cases ms with
  | none => exact h
  | some ms =>
    rw [afterPause, afterPause, h.device]
    exact (h.record (.slept ms)).withDevice _

theorem inStep_afterSend (h : InStep w₀ v₀ w v) (request : Request) :
    InStep w₀ v₀ (c.afterSend request w) (c.afterSend request v) :=
  ⟨⟨(abreast_afterSend h.toAbreast request).2, h.strict⟩, h.pager⟩

theorem follows_note {S T : World σ → World σ → Prop} (message : String)
    (fields : List (String × String))
    (h : S { w with journal := w.journal ++ [.noted (.engine message fields)] }
      { v with journal := v.journal ++ [.noted (.engine message fields)] }) :
    Act.Follows S T (Act.note message fields) (Act.note message fields) w v :=
  .of_runOn (Act.runOn_note w message fields) (Act.runOn_note v message fields) h

theorem follows_readPage (h : InStep w₀ v₀ w v) (r : Reading) (text collected : String)
    (pages : Nat) :
    Act.Follows (InStep w₀ v₀) (InStep w₀ v₀) (c.readPage r text collected pages)
      (c.readPage r text collected pages) w v := by
  have hexchange : Act.Follows (InStep w₀ v₀) (InStep w₀ v₀)
      (Act.inContext (commandContext r.command) (c.exchange text r.prompts r.timeout))
      (Act.inContext (commandContext r.command) (c.exchange text r.prompts r.timeout)) w v := by
    have hv := c.runOn_exchange_inContext r text v
    rw [(abreast_afterSend h.toAbreast _).1] at hv
    exact .of_runOn (c.runOn_exchange_inContext r text w) hv
      (Act.behind_self.mpr (inStep_afterSend h _))
  refine .bind hexchange fun x w v h => ?_
  cases r.response with
  | none => exact .pure _ h
  | some response =>
    dsimp only
    split
    · exact .bind (follows_note _ _ (h.record _)) fun _ w v h => .pure _ h
    · exact .pure _ h

/-- Reading keeps two sessions in step, as far as it comes to an end in the first. -/
theorem follows_readPages (h : InStep w₀ v₀ w v) (r : Reading) (text : String) :
    Act.Follows (InStep w₀ v₀) (InStep w₀ v₀) (c.readPages r text) (c.readPages r text) w v := by
  intro result w' hrun
  simp only [Act.behind_self]
  refine readPagesOn.partial_correctness c r
    (fun text collected n w p => ∀ v, InStep w₀ v₀ w v →
      ∃ v', c.readPagesOn r text collected n v = some (p.1, v') ∧ InStep w₀ v₀ p.2 v')
    ?_ text "" 0 w _ hrun v h
  intro read ih text collected n w p hp v hv
  cases hround : (c.readPage r text collected n).runOn w with
  | none =>
    rw [hround] at hp
    cases hp
  | some round =>
    obtain ⟨result, w₁⟩ := round
    obtain ⟨v₁, hround', h₁⟩ := follows_readPage hv r text collected n _ _ hround
    rw [Act.behind_self] at h₁
    rw [hround] at hp
    rw [readPagesOn, hround']
    cases result with
    | error f =>
      cases hp
      exact ⟨v₁, rfl, h₁⟩
    | ok page =>
      cases page with
      | done output =>
        cases hp
        exact ⟨v₁, rfl, h₁⟩
      | more next collected' => exact ih _ _ _ _ _ hp v₁ h₁

/-- Two sessions in step wait for the same prompts, with the same response to a full page. -/
theorem commandReading_of_inStep (h : InStep w₀ v₀ w v) (text : String) (mode : Mode)
    (options : CommandOptions) :
    commandReading text mode options (commandState mode options v.state) =
        commandReading text mode options (commandState mode options w.state) ∧
      InStep w₀ v₀ { w with state := commandState mode options w.state }
        { v with state := commandState mode options v.state } := by
  obtain ⟨⟨⟨hdevice, hmode, hjournal, hhistory⟩, hstrict⟩, hpager⟩ := h
  have hprompts : ∀ s t : SessionState, t.strict = s.strict → t.pager = s.pager →
      commandReading text mode options t = commandReading text mode options s := by
    intro s t hs hp
    rw [commandReading, commandReading, offeredPrompts, offeredPrompts, hs, hp]
  rw [commandState, commandState]
  split
  · exact ⟨hprompts _ _ rfl hpager, ⟨⟨⟨hdevice, hmode, hjournal, hhistory⟩, rfl⟩, hpager⟩⟩
  · exact ⟨hprompts _ _ hstrict hpager,
      ⟨⟨⟨hdevice, hmode, hjournal, hhistory⟩, hstrict⟩, hpager⟩⟩

/-- **A command keeps two sessions in step.** -/
theorem follows_execute (h : InStep w₀ v₀ w v) (text : String) (mode : Mode)
    (options : CommandOptions) :
    Act.Follows (InStep w₀ v₀) (InStep w₀ v₀) (c.execute text mode options)
      (c.execute text mode options) w v := by
  obtain ⟨hreading, hstep⟩ := commandReading_of_inStep h text mode options
  have hv := c.runOn_execute text mode options v
  rw [hreading] at hv
  refine .congr (c.runOn_execute text mode options w) hv ?_
  refine .bind (follows_readPages hstep _ _) fun output w v h => .get_bind ?_
  rw [h.device]
  exact .lift _ h h

/-- Commands that avoid paging keep two sessions in step, whatever they come to. -/
theorem follows_runAvoid (h : InStep w₀ v₀ w v) (mode : Mode) (label : String)
    (commands : List String) :
    Act.Follows (InStep w₀ v₀) (InStep w₀ v₀) (c.runAvoid mode label commands)
      (c.runAvoid mode label commands) w v := by
  induction commands generalizing w v with
  | nil => exact .pure _ h
  | cons command rest ih =>
    refine .bind (.attempt (follows_execute h command mode {})) fun outcome w v h => ?_
    cases outcome with
    | ok output => exact ih h
    | error f => exact .bind (follows_note _ _ (h.record _)) fun _ w v h => ih h

/-- **Installing a pager** brings two sessions in step whose prompts are pinned alike, since it
    begins by taking the pager away. -/
theorem follows_installPager (h : Pinned w₀ v₀ w v) (mode : Mode) (label : String) :
    Act.Follows (InStep w₀ v₀) (InStep w₀ v₀) (c.installPager mode label)
      (c.installPager mode label) w v := by
  have hinstall : ∀ (pager : Option InstalledPager) {w v : World σ}, Pinned w₀ v₀ w v →
      Act.Follows (InStep w₀ v₀) (InStep w₀ v₀)
        (Act.modifyState fun s => { s with pager }) (Act.modifyState fun s => { s with pager })
        w v := by
    rintro pager w v ⟨⟨hdevice, hmode, hjournal, hhistory⟩, hstrict⟩
    exact .of_runOn (Act.runOn_modifyState w _) (Act.runOn_modifyState v _)
      ⟨⟨⟨hdevice, hmode, hjournal, hhistory⟩, hstrict⟩, rfl⟩
  refine .bind (hinstall none h) fun _ w v h => ?_
  cases mode.pager with
  | none => exact .pure _ h
  | some pager =>
    refine .bind (.lift _ h h) fun _ w v h => ?_
    dsimp only
    cases installable pager with
    | none => exact follows_runAvoid h mode label pager.avoid
    | some active =>
      exact .bind (hinstall (some active) h.toPinned) fun _ w v h =>
        follows_runAvoid h mode label pager.avoid

theorem follows_installPresentPager (h : Pinned w₀ v₀ w v) :
    Act.Follows (InStep w₀ v₀) (Abreast w₀ v₀) c.installPresentPager c.installPresentPager w v := by
  refine .state_bind ?_
  rw [h.mode]
  refine .bind (.lift _ h h.toAbreast) fun mode w v h => ?_
  exact (follows_installPager h mode _).mono (fun _ _ h => h) fun _ _ h => h.toAbreast

/-! ## 4. Walks -/

theorem abreast_afterPerform (h : Abreast w₀ v₀ w v) (plan : Plan) :
    c.answerOf plan v = c.answerOf plan w ∧
      Abreast w₀ v₀ (c.afterPerform plan w) (c.afterPerform plan v) := by
  obtain ⟨hanswer, hsent⟩ :=
    abreast_afterSend (abreast_afterPause h plan.step.waitBefore) (c.requestOf plan)
  exact ⟨hanswer, abreast_afterPause hsent plan.step.waitAfter⟩

/-- Entering a mode with a name pins the prompts of two sessions alike. -/
theorem pinned_land (h : Abreast w₀ v₀ w v) (landed : String) (strict : Option String)
    (depth : Nat) : Pinned w₀ v₀ (w.land landed strict depth) (v.land landed strict depth) := by
  obtain ⟨es, hw, hv⟩ := h.journal
  obtain ⟨entered, hw', hv'⟩ := h.history
  refine ⟨⟨h.device, rfl, ⟨es ++ [.noted (hopEvent w.state.mode landed depth)], ?_, ?_⟩,
    entered ++ [landed], ?_, ?_⟩, rfl⟩
  · simp [World.land, hw]
  · simp [World.land, hv, h.mode]
  · simp [World.land, SessionState.enter, hw']
  · simp [World.land, SessionState.enter, hv']

/-- **A hop reads neither the pinned name nor the pager**, and one that is completed sets the
    name anew. -/
theorem follows_hop (h : Abreast w₀ v₀ w v) (name : String) (target : Option String)
    (depth : Nat) :
    Act.Follows (Pinned w₀ v₀) (Abreast w₀ v₀) (c.hop name target depth)
      (c.hop name target depth) w v := by
  have hplan : c.planOf v.state name target = c.planOf w.state name target := by
    rw [planOf, planOf, h.mode]
  have hw := c.runOn_hop w name target depth
  have hv := c.runOn_hop v name target depth
  rw [hplan] at hv
  cases hp : c.planOf w.state name target with
  | error f =>
    rw [hp] at hw hv
    exact .of_runOn hw hv h
  | ok plan =>
    obtain ⟨hanswer, hperformed⟩ := abreast_afterPerform (c := c) h plan
    rw [hp] at hw hv
    dsimp only at hw hv
    rw [hanswer] at hv
    cases hl : landing name plan.mode plan.step (c.answerOf plan w) with
    | error f =>
      rw [hl] at hw hv
      exact .of_runOn hw hv hperformed
    | ok l =>
      rw [hl] at hw hv
      exact .of_runOn hw hv (pinned_land hperformed l.1 l.2 depth)

/-- **A walk pins the prompts of two sessions alike**, if it succeeds; by induction on the hops
    left. A walk that fails may have failed before its first hop was completed. -/
theorem follows_walkFrom (h : Abreast w₀ v₀ w v) (chain : Chain) (left : Nat) (name : String)
    (target : Option String) :
    Act.Follows (Pinned w₀ v₀) (Abreast w₀ v₀) (c.walkFrom chain left name target)
      (c.walkFrom chain left name target) w v := by
  have hlook : ∀ target {w v : World σ}, Pinned w₀ v₀ w v →
      Act.Follows (Pinned w₀ v₀) (Abreast w₀ v₀) (lookFor chain target) (lookFor chain target)
        w v := by
    intro target w v h
    refine .state_bind ?_
    rw [h.mode]
    split
    · exact .pure _ h
    · exact .fail _ h.toAbreast
  induction left generalizing name target w v with
  | zero => exact .fail _ h
  | succ left ih =>
    rw [walkFrom_succ]
    refine .bind (follows_hop h _ _ _) fun (target, landed) w v h => ?_
    dsimp only
    unfold goOn
    split
    · exact follows_note _ _ ⟨h.toAbreast.record _, h.strict⟩
    refine .bind (.lift _ h h.toAbreast) fun mode w v h => ?_
    cases mode.fail with
    | some message => exact .fail _ h.toAbreast
    | none =>
      dsimp only
      cases nextMacro mode chain.name with
      | none => exact hlook target h
      | some next => exact .bind (ih h.toAbreast next (some target)) fun _ w v h => hlook target h

theorem follows_walk (h : Abreast w₀ v₀ w v) (name : String) :
    Act.Follows (Pinned w₀ v₀) (Abreast w₀ v₀) (c.walk name) (c.walk name) w v := by
  refine .state_bind ?_
  rw [h.mode]
  exact follows_walkFrom h _ _ name none

/-- A macro that has to walk brings two sessions in step, if it succeeds. -/
theorem follows_runMacro (h : Abreast w₀ v₀ w v) {name : String} (hname : w.state.mode ≠ name) :
    Act.Follows (InStep w₀ v₀) (Abreast w₀ v₀) (c.runMacro name) (c.runMacro name) w v := by
  refine .state_bind ?_
  rw [h.mode, if_neg hname]
  refine .bind (follows_note _ _ (h.record _)) fun _ w v h => ?_
  exact .bind (follows_walk h name) fun _ w v h => follows_installPresentPager h

/-! ## 5. Macros -/

/-- **A macro does not depend on what was pinned or installed before it.** In two sessions on the
    same device and in the same mode it sends the same requests, waits as long and comes to the same
    result, or it comes to an end in neither of them; it leaves them in the same mode, with the same
    modes added to their histories. If it had to walk and has succeeded, then the prompts of both
    sessions are pinned alike and their pagers are the same. -/
theorem runMacro_abreast (name : String) (hdevice : v.device = w.device)
    (hmode : v.state.mode = w.state.mode) :
    Option.Rel (fun p q => q.1 = p.1 ∧ Abreast w v p.2 q.2 ∧
        (w.state.mode ≠ name → p.1 = .ok () →
          q.2.state.strict = p.2.state.strict ∧ q.2.state.pager = p.2.state.pager))
      ((c.runMacro name).runOn w) ((c.runMacro name).runOn v) := by
  have habreast := Abreast.refl hdevice hmode
  by_cases hname : w.state.mode = name
  · have hnothing : ∀ u : World σ, u.state.mode = name →
        (c.runMacro name).runOn u = some (.ok (), u) := by
      intro u hu
      rw [runMacro, Act.runOn_bind_ok (Act.runOn_state u), if_pos hu]
      rfl
    rw [hnothing w hname, hnothing v (hmode.trans hname)]
    exact .some ⟨rfl, habreast, fun h => absurd hname h⟩
  · have hforth := follows_runMacro (c := c) habreast hname
    have hback := follows_runMacro (c := c) habreast.symm (hmode ▸ hname)
    cases hw : (c.runMacro name).runOn w with
    | none =>
      cases hv : (c.runMacro name).runOn v with
      | none => exact .none
      | some q =>
        obtain ⟨w', hw', -⟩ := hback _ _ hv
        rw [hw] at hw'
        cases hw'
    | some p =>
      obtain ⟨v', hv, hb⟩ := hforth _ _ hw
      rw [hv]
      refine .some ⟨rfl, ?_, fun _ hok => ?_⟩
      · cases hr : p.1 with
        | ok u =>
          rw [hr] at hb
          exact hb.toAbreast
        | error f =>
          rw [hr] at hb
          exact hb
      · rw [hok] at hb
        exact ⟨hb.strict, hb.pager⟩

/-- A session on the device of `pagingWorld`, in which the prompt is still pinned to the name of
    another device and a pager is still installed. -/
def staleWorld : World (List (Except Failure Exchange)) where
  device := pagingWorld.device
  state :=
    { mode := "user"
      strict := some "edge"
      pager := some ⟨⟨"more", default⟩, "q"⟩
      history := ["enable", "user"] }

/-- Of the stale name and the stale pager nothing is left behind the macro. -/
theorem runMacro_abreast_stale :
    pagingWorld.state.mode ≠ "enable" ∧
    ∃ w v, (pagingConsole.runMacro "enable").runOn pagingWorld = some (.ok (), w) ∧
      (pagingConsole.runMacro "enable").runOn staleWorld = some (.ok (), v) ∧
      w.state.history = ["user", "enable"] ∧ v.state.history = ["enable", "user", "enable"] ∧
      v.state.strict = none ∧ v.state.pager = some ⟨⟨"--More--", default⟩, " "⟩ := by
  have hmode : pagingWorld.state.mode ≠ "enable" := by decide
  have hrun : ((pagingConsole.runMacro "enable").runOn pagingWorld).map
      (fun p => (p.1, p.2.state)) =
        some (.ok (), ⟨"enable", none, some ⟨⟨"--More--", default⟩, " "⟩, ["user", "enable"]⟩) := by
    rfl
  obtain ⟨⟨r, w⟩, hw, hp⟩ := Option.map_eq_some_iff.mp hrun
  obtain ⟨rfl, hstate⟩ := Prod.mk.inj hp
  have habreast := runMacro_abreast (c := pagingConsole) (w := pagingWorld) (v := staleWorld)
    "enable" rfl rfl
  rw [hw] at habreast
  match hv : (pagingConsole.runMacro "enable").runOn staleWorld, habreast with
  | some (_, v), .some ⟨rfl, hboth, hset⟩ =>
    obtain ⟨landed, hwalked, hwalked'⟩ := hboth.history
    obtain ⟨hstrict, hpager⟩ := hset hmode rfl
    dsimp only at hstate hwalked hwalked' hstrict hpager
    rw [hstate] at hwalked hstrict hpager
    obtain rfl : ["enable"] = landed := (List.cons.inj hwalked).2
    exact ⟨hmode, w, v, hw, rfl, by rw [hstate], hwalked', hstrict, hpager⟩

end Console

end DeviceCli
