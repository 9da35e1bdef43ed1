import DeviceCli.Session.Walk

/-!
# What an action keeps

A `Frame` is a relation between a session and a later one that holds along a run if it holds along
each step of it. An action keeps a frame if it holds from the session in which the action begins to
the one that it leaves, whatever the action comes to.

* `Act.Keeps` and its rules: one for each way to build an action;
* `keeps_readPages`: reading keeps what a round of it keeps, although nothing bounds the rounds;
* `keeps_runCommand`: **a command keeps what sending, remarks, and changes of the pinned text and
  of the pager keep.**
-/

namespace DeviceCli

/-! ## 1. Frames -/

/-- A relation along the runs of sessions. -/
structure Frame (σ : Type) where
  rel : World σ → World σ → Prop
  refl : ∀ w, rel w w
  trans : ∀ {u v w}, rel u v → rel v w → rel u w

/-- What the steps of a command keep while it runs in a mode. -/
structure Frame.Quiet {σ : Type} (F : Frame σ) (c : Console σ) : Prop where
  send : ∀ request w, F.rel w (c.afterSend request w)
  note : ∀ message fields w, message ≠ Console.hopMessage →
    F.rel w { w with journal := w.journal ++ [.noted (.engine message fields)] }
  unpin : ∀ w, F.rel w { w with state := { w.state with strict := none } }

/-- What the steps of a command keep that may have a mode of its own to apply. -/
structure Frame.Calm {σ : Type} (F : Frame σ) (c : Console σ) : Prop extends F.Quiet c where
  install : ∀ pager w, F.rel w { w with state := { w.state with pager } }

/-- A frame that holds wherever another one does is kept by as much. -/
theorem Frame.Calm.mono {σ : Type} {c : Console σ} {F G : Frame σ} (h : F.Calm c)
    (hle : ∀ w w', F.rel w w' → G.rel w w') : G.Calm c where
  send request w := hle _ _ (h.send request w)
  note message fields w hm := hle _ _ (h.note message fields w hm)
  unpin w := hle _ _ (h.unpin w)
  install pager w := hle _ _ (h.install pager w)

namespace Act

variable {σ α β : Type} {F : Frame σ}

/-- An action keeps a frame, whatever it comes to. -/
def Keeps (F : Frame σ) (act : Act σ α) : Prop :=
  ∀ w r w', act.runOn w = some (r, w') → F.rel w w'

/-- What comes to one result in one session keeps a frame that holds there. -/
theorem Keeps.of_runOn {act : Act σ α} {r : World σ → Except Failure α} {next : World σ → World σ}
    (hrun : ∀ w, act.runOn w = some (r w, next w)) (h : ∀ w, F.rel w (next w)) : act.Keeps F := by
  intro w r' w' hw
  rw [hrun w] at hw
  cases hw
  exact h w

theorem Keeps.pure (a : α) : (Pure.pure a : Act σ α).Keeps F :=
  .of_runOn (fun w => runOn_pure w a) F.refl

theorem Keeps.fail (f : Failure) : (Act.fail f : Act σ α).Keeps F :=
  .of_runOn (fun w => runOn_fail w f) F.refl

theorem Keeps.lift (r : Except Failure α) : (Act.lift r : Act σ α).Keeps F :=
  .of_runOn (fun w => runOn_lift w r) F.refl

theorem Keeps.get : (MonadState.get : Act σ (World σ)).Keeps F := .of_runOn runOn_get F.refl

theorem Keeps.state : (Act.state : Act σ SessionState).Keeps F := .of_runOn runOn_state F.refl

theorem Keeps.bind {act : Act σ α} {next : α → Act σ β} (h : act.Keeps F)
    (hnext : ∀ a, (next a).Keeps F) : (act >>= next).Keeps F := by
  intro w r w' hw
  rw [runOn_bind] at hw
  match hact : act.runOn w with
  | none =>
    rw [hact] at hw
    cases hw
  | some (.error f, v) =>
    rw [hact] at hw
    cases hw
    exact h w _ _ hact
  | some (.ok a, v) =>
    rw [hact] at hw
    exact F.trans (h w _ v hact) (hnext a v r w' hw)

theorem Keeps.attempt {act : Act σ α} (h : act.Keeps F) : act.attempt.Keeps F := by
  intro w r w' hw
  rw [runOn_attempt, Option.map_eq_some_iff] at hw
  obtain ⟨p, hp, hr⟩ := hw
  cases hr
  exact h w p.1 p.2 hp

theorem Keeps.inContext {act : Act σ α} (h : act.Keeps F) (context : String) :
    (act.inContext context).Keeps F := by
  intro w r w' hw
  rw [runOn_inContext, Option.map_eq_some_iff] at hw
  obtain ⟨p, hp, hr⟩ := hw
  cases hr
  exact h w p.1 p.2 hp

end Act

/-! ## 2. Commands -/

namespace Console

variable {σ : Type} {c : Console σ} {F : Frame σ}

theorem keeps_note (q : F.Quiet c) (message : String) (fields : List (String × String))
    (h : message ≠ hopMessage) : (Act.note message fields).Keeps F :=
  .of_runOn (Act.runOn_note · message fields) fun w => q.note message fields w h

theorem keeps_exchange (q : F.Quiet c) (text : String) (prompts : List String)
    (timeout : Option Nat) : (c.exchange text prompts timeout).Keeps F :=
  .of_runOn (c.runOn_exchange · text prompts timeout) (q.send _)

theorem keeps_readPage (q : F.Quiet c) (r : Reading) (text collected : String) (pages : Nat) :
    (c.readPage r text collected pages).Keeps F := by
  refine .bind (.inContext (keeps_exchange q _ _ _) _) fun x => ?_
  cases r.response with
  | none => exact .pure _
  | some response =>
    dsimp only
    split
    · exact .bind (keeps_note q _ _ (by decide)) fun _ => .pure _
    · exact .pure _

/-- Reading keeps what a round keeps, as far as it comes to an end. -/
theorem keeps_readPages (q : F.Quiet c) (r : Reading) (text : String) :
    (c.readPages r text).Keeps F := by
  intro w result w' h
  refine readPagesOn.partial_correctness c r (fun _ _ _ w p => F.rel w p.2) ?_ text "" 0 w _ h
  intro read ih text collected pages w p hp
  have hround := keeps_readPage q r text collected pages w
  match hrun : (c.readPage r text collected pages).runOn w with
  | none =>
    rw [hrun] at hp
    cases hp
  | some (.error f, w₁) =>
    rw [hrun] at hp
    cases hp
    exact hround _ _ hrun
  | some (.ok (.done output), w₁) =>
    rw [hrun] at hp
    cases hp
    exact hround _ _ hrun
  | some (.ok (.more next collected), w₁) =>
    rw [hrun] at hp
    exact F.trans (hround _ _ hrun) (ih _ _ _ _ _ hp)

theorem keeps_execute (q : F.Quiet c) (text : String) (mode : Mode) (options : CommandOptions) :
    (c.execute text mode options).Keeps F := by
  have hrest : ∀ w : World σ, (do
      let reading : Reading :=
        { command := text
          prompts := offeredPrompts mode w.state
          timeout := options.timeout
          response := w.state.pager.map (·.response) }
      let output ← c.readPages reading (c.outgoing text options)
      let w ← get
      Act.lift (checked mode text (c.link.dropEcho w.device (c.cleaned output) text))
      : Act σ String).Keeps F := fun w =>
    .bind (keeps_readPages q _ _) fun _ => .bind .get fun _ => .lift _
  rw [execute]
  split
  · exact .bind (.of_runOn (Act.runOn_modifyState · _) q.unpin) fun _ => .bind .get hrest
  · exact .bind .get hrest

theorem keeps_runAvoid (q : F.Quiet c) (mode : Mode) (label : String) (commands : List String) :
    (c.runAvoid mode label commands).Keeps F := by
  induction commands with
  | nil => exact .pure _
  | cons command rest ih =>
    refine .bind (.attempt (keeps_execute q command mode {})) fun outcome => ?_
    cases outcome with
    | ok output => exact ih
    | error f => exact .bind (keeps_note q _ _ (by decide)) fun _ => ih

theorem keeps_installPager (q : F.Calm c) (mode : Mode) (label : String) :
    (c.installPager mode label).Keeps F := by
  rw [installPager]
  refine .bind (.of_runOn (Act.runOn_modifyState · _) (q.install none)) fun _ => ?_
  cases mode.pager with
  | none => exact .pure _
  | some pager =>
    refine .bind (.lift _) fun _ => ?_
    dsimp only
    cases installable pager with
    | none => exact keeps_runAvoid q.toQuiet mode label pager.avoid
    | some active =>
      exact .bind (.of_runOn (Act.runOn_modifyState · _) (q.install (some active))) fun _ =>
        keeps_runAvoid q.toQuiet mode label pager.avoid

theorem keeps_installPresentPager (q : F.Calm c) : c.installPresentPager.Keeps F :=
  .bind .state fun _ => .bind (.lift _) fun _ => keeps_installPager q _ _

/-- **A command keeps what its steps keep.** -/
theorem keeps_runCommand (q : F.Calm c) (text : String) (options : CommandOptions) :
    (c.runCommand text options).Keeps F := by
  refine .bind ?_ fun mode => keeps_execute q.toQuiet text mode options
  rw [effectiveMode]
  cases options.mode with
  | none => exact .bind .state fun _ => .lift _
  | some override =>
    cases override with
    | named name =>
      exact .bind (.lift _) fun mode => .bind (keeps_installPager q mode name) fun _ =>
        .pure _
    | inline mode =>
      exact .bind (keeps_installPager q mode inlineLabel) fun _ => .pure _

/-! ## 3. Walks -/

section Walk

variable (q : F.Quiet c) (hhop : ∀ name target depth, (c.hop name target depth).Keeps F)
include q hhop

/-- **A walk keeps what its hops keep**, by induction on the hops left. -/
theorem keeps_walkFrom (chain : Chain) (left : Nat) (name : String) (target : Option String) :
    (c.walkFrom chain left name target).Keeps F := by
  have hlook : ∀ target, (lookFor chain target : Act σ Unit).Keeps F :=
    fun target => .bind .state fun s => by
      split
      · exact .pure _
      · exact .fail _
  induction left generalizing name target with
  | zero => exact .fail _
  | succ left ih =>
    rw [walkFrom_succ]
    refine .bind (hhop _ _ _) fun (target, landed) => ?_
    dsimp only
    unfold goOn
    split
    · exact keeps_note q _ _ (by decide)
    refine .bind (.lift _) fun mode => ?_
    cases mode.fail with
    | some message => exact .fail _
    | none =>
      dsimp only
      cases nextMacro mode chain.name with
      | none => exact hlook target
      | some next => exact .bind (ih next (some target)) fun _ => hlook target

theorem keeps_walk (name : String) : (c.walk name).Keeps F :=
  .bind .state fun _ => keeps_walkFrom q hhop _ _ name none

end Walk

/-- **A macro keeps what its hops and the installation of a pager keep.** -/
theorem keeps_runMacro (q : F.Calm c)
    (hhop : ∀ name target depth, (c.hop name target depth).Keeps F) (name : String) :
    (c.runMacro name).Keeps F := by
  refine .bind .state fun s => ?_
  split
  · exact .pure _
  · exact .bind (keeps_note q.toQuiet _ _ (by decide)) fun _ =>
      .bind (keeps_walk q.toQuiet hhop name) fun _ => keeps_installPresentPager q

end Console

end DeviceCli
