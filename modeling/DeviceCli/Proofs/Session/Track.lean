import DeviceCli.Driver.Routine
import DeviceCli.Proofs.Session.Frame
import DeviceCli.Proofs.Session.Hop
import DeviceCli.Proofs.Session.Journal
import Mathlib.Data.List.Chain

/-!
# The track of a session

A session keeps a list of the modes it has been in. Whatever calls are made and whatever the device
answers, that list is a track through the modes: it begins where the session began, ends where the
session is, and each of its steps is one that a macro allows.

* `Console.Reachable`: the sessions that calls and hops come to;
* `OnTrack`: the invariant; a hop lengthens the track (`OnTrack.enter`), nothing else changes it;
* `Frame.still` and `Frame.track`: what commands keep, and what walks keep;
* `onTrack_of_reachable`: **every session is on its track**, and so it never lacks the definition of
  its mode, nor a mode for an answer.
-/

namespace DeviceCli

/-! ## 1. Tracks -/

/-- A macro of a mode may lead to another mode. -/
def Registry.Leads (r : Registry) (left landed : String) : Prop :=
  ∃ mode name step, r.get? left = some mode ∧ mode.macros.get? name = some step ∧
    landed ∈ step.options

/-- The state of a session that began in a mode. -/
structure OnTrack (r : Registry) (initial : String) (s : SessionState) : Prop where
  known : ∃ mode, r.get? s.mode = some mode
  last : s.history.getLast? = some s.mode
  first : s.history.head? = some initial
  linked : s.history.IsChain r.Leads

namespace OnTrack

variable {r : Registry} {initial landed : String} {s : SessionState}

theorem start {mode : Mode} (h : r.get? initial = some mode) : OnTrack r initial (.start initial) :=
  ⟨⟨mode, h⟩, rfl, rfl, .singleton initial⟩

/-- The track goes on by a step of a macro. -/
theorem enter (h : OnTrack r initial s) (hleads : r.Leads s.mode landed) (strict : Option String) :
    OnTrack r initial (s.enter landed strict) where
  known := by
    obtain ⟨mode, name, step, hm, hs, ho⟩ := hleads
    exact Registry.get?_of_mem_options hm hs ho
  last := by simp [SessionState.enter]
  first := by simp [SessionState.enter, h.first]
  linked := by
    refine List.isChain_append.mpr ⟨h.linked, .singleton landed, fun x hx y hy => ?_⟩
    rw [h.last] at hx
    cases hx
    cases hy
    exact hleads

/-- The track is a matter of the mode and the history alone. -/
theorem congr {t : SessionState} (h : OnTrack r initial s) (hmode : t.mode = s.mode)
    (hhistory : t.history = s.history) : OnTrack r initial t := by
  obtain ⟨known, last, first, linked⟩ := h
  exact ⟨hmode ▸ known, hhistory ▸ hmode ▸ last, hhistory ▸ first, hhistory ▸ linked⟩

end OnTrack

/-! ## 2. Frames of a track -/

/-- What is done without entering a mode: the mode, the history and the landings are the same. -/
def Frame.still (σ : Type) : Frame σ where
  rel w w' := w'.state.mode = w.state.mode ∧ w'.state.history = w.state.history ∧
    ∃ es, w'.journal = w.journal ++ es ∧ landings es = []
  refl w := ⟨rfl, rfl, [], by simp, rfl⟩
  trans := by
    rintro u v w ⟨hm, hh, es, hj, hl⟩ ⟨hm', hh', es', hj', hl'⟩
    exact ⟨hm'.trans hm, hh'.trans hh, es ++ es', by simp [hj', hj], by simp [hl, hl']⟩

/-- What is done along a track: the history grows by the landings, and the session stays on the
    track. -/
def Frame.track (σ : Type) (r : Registry) : Frame σ where
  rel w w' :=
    (∃ es, w'.journal = w.journal ++ es ∧ w'.state.history = w.state.history ++ landings es) ∧
    ∀ initial, OnTrack r initial w.state → OnTrack r initial w'.state
  refl w := ⟨⟨[], by simp, by simp⟩, fun _ h => h⟩
  trans := by
    rintro u v w ⟨⟨es, hj, hh⟩, ht⟩ ⟨⟨es', hj', hh'⟩, ht'⟩
    exact ⟨⟨es ++ es', by simp [hj', hj], by simp [hh', hh]⟩, fun i h => ht' i (ht i h)⟩

theorem Frame.track_of_still {σ : Type} {w w' : World σ} (r : Registry)
    (h : (Frame.still σ).rel w w') : (Frame.track σ r).rel w w' := by
  obtain ⟨hmode, hhistory, es, hj, hl⟩ := h
  exact ⟨⟨es, hj, by simp [hhistory, hl]⟩, fun _ ht => ht.congr hmode hhistory⟩

namespace Console

variable {σ : Type} {c : Console σ}

/-! ## 3. Calls -/

theorem still_afterSend (request : Request) (w : World σ) :
    (Frame.still σ).rel w (c.afterSend request w) :=
  ⟨rfl, rfl, [.sent request], rfl, rfl⟩

theorem still_afterPause (ms : Option Nat) (w : World σ) :
    (Frame.still σ).rel w (c.afterPause ms w) := by
  cases ms with
  | none => exact (Frame.still σ).refl w
  | some ms => exact ⟨rfl, rfl, [.slept ms], rfl, rfl⟩

theorem still_afterPerform (plan : Plan) (w : World σ) :
    (Frame.still σ).rel w (c.afterPerform plan w) :=
  (Frame.still σ).trans
    ((Frame.still σ).trans (still_afterPause _ w) (still_afterSend _ _)) (still_afterPause _ _)

theorem still_calm : (Frame.still σ).Calm c where
  send := still_afterSend
  note message fields w h :=
    ⟨rfl, rfl, [.noted (.engine message fields)], rfl, landings_noted h fields⟩
  unpin w := ⟨rfl, rfl, [], by simp, rfl⟩
  install pager w := ⟨rfl, rfl, [], by simp, rfl⟩

theorem track_calm : (Frame.track σ c.registry).Calm c :=
  still_calm.mono fun _ _ => Frame.track_of_still _

/-- The modes that a hop enters by what it comes to. -/
def entered : Except Failure (String × String) → List String
  | .ok (_, landed) => [landed]
  | .error _ => []

/-- **A hop enters one mode if it is completed, and else none**; the mode is one of those its macro
    may lead to. -/
theorem landings_hop {w w' : World σ} {name : String} {target : Option String} {depth : Nat}
    {r : Except Failure (String × String)} (h : (c.hop name target depth).runOn w = some (r, w')) :
    w'.state.history = w.state.history ++ entered r ∧
    (∃ es, w'.journal = w.journal ++ es ∧ landings es = entered r) ∧
    ∀ initial, OnTrack c.registry initial w.state → OnTrack c.registry initial w'.state := by
  have hstill : ∀ {v : World σ} {f : Failure}, (Frame.still σ).rel w v →
      v.state.history = w.state.history ++ entered (.error f) ∧
      (∃ es, v.journal = w.journal ++ es ∧ landings es = entered (.error f)) ∧
      ∀ initial, OnTrack c.registry initial w.state → OnTrack c.registry initial v.state :=
    fun {v f} hv => ⟨by simp [hv.2.1, entered], hv.2.2, (Frame.track_of_still _ hv).2⟩
  rw [runOn_hop] at h
  cases hp : c.planOf w.state name target with
  | error f =>
    rw [hp] at h
    cases h
    exact hstill ((Frame.still σ).refl w)
  | ok plan =>
    rw [hp] at h
    dsimp only at h
    cases hl : landing name plan.mode plan.step (c.answerOf plan w) with
    | error f =>
      rw [hl] at h
      cases h
      exact hstill (still_afterPerform plan w)
    | ok l =>
      obtain ⟨landed, strict⟩ := l
      rw [hl] at h
      cases h
      obtain ⟨hm, hs, -, -⟩ := planOf_eq_ok_iff.mp hp
      obtain ⟨-, -, es, hj, hes⟩ := still_afterPerform (c := c) plan w
      have hleads : c.registry.Leads w.state.mode landed :=
        ⟨_, _, _, hm, hs, mem_options_of_landing hl⟩
      refine ⟨by simp [World.land, SessionState.enter, entered], 
        ⟨es ++ [.noted (hopEvent w.state.mode landed depth)], ?_, ?_⟩, fun initial ht => ?_⟩
      · simp [World.land, hj]
      · rw [landings_append, hes, landings_hopEvent]
        rfl
      · simpa [World.land] using ht.enter hleads strict

theorem track_hop (name : String) (target : Option String) (depth : Nat) :
    (c.hop name target depth).Keeps (Frame.track σ c.registry) := by
  intro w r w' h
  obtain ⟨hhistory, ⟨es, hj, hl⟩, ht⟩ := landings_hop h
  exact ⟨⟨es, hj, hl ▸ hhistory⟩, ht⟩

theorem track_sleepFor (ms : Int) : (c.sleepFor ms).Keeps (Frame.track σ c.registry) := by
  rw [sleepFor]
  split
  · exact .fail _
  · exact .of_runOn (c.runOn_pause · (some ms.toNat)) fun w =>
      Frame.track_of_still _ (still_afterPause _ w)

/-- **Each call of a driver goes on along the track.** -/
theorem track_perform (call : SessionCall) :
    (call.perform c).Keeps (Frame.track σ c.registry) := by
  cases call with
  | runMacro name => exact keeps_runMacro track_calm track_hop name
  | command text options => exact keeps_runCommand track_calm text options
  | sleep ms => exact track_sleepFor ms
  | state => exact .state
  | debug message =>
    exact .of_runOn (Act.runOn_record · _) fun w =>
      Frame.track_of_still _ ⟨rfl, rfl, [.noted (.script message)], rfl, rfl⟩
  | transmit request =>
    exact .of_runOn (c.runOn_transmit · request) fun w =>
      Frame.track_of_still _ (still_afterSend request w)

/-! ## 4. Runs -/

/-- The sessions that come to be by calls, and by the hops and remarks that a call is made of. -/
inductive Reachable (c : Console σ) (initial : String) : World σ → Prop
  | opened {device w} (h : c.openSession initial device = .ok w) : Reachable c initial w
  | called {w w'} (call : SessionCall) {r} (before : Reachable c initial w)
      (h : (call.perform c).runOn w = some (r, w')) : Reachable c initial w'
  | hopped {w w' name target depth r} (before : Reachable c initial w)
      (h : (c.hop name target depth).runOn w = some (r, w')) : Reachable c initial w'
  | noted {w} (e : Event) (before : Reachable c initial w) :
      Reachable c initial { w with journal := w.journal ++ [.noted e] }

/-- A session that is opened is on its track. -/
theorem onTrack_of_openSession {initial : String} {device : σ} {w : World σ}
    (h : c.openSession initial device = .ok w) : OnTrack c.registry initial w.state := by
  rw [openSession, Registry.require] at h
  split at h
  · next mode hm =>
    cases h
    exact .start hm
  · cases h

/-- The invariant, by induction on the run. -/
theorem Reachable.onTrack {initial : String} {w : World σ} (h : c.Reachable initial w) :
    OnTrack c.registry initial w.state := by
  induction h with
  | opened h => exact onTrack_of_openSession h
  | called call before h ih => exact (track_perform call _ _ _ h).2 _ ih
  | hopped before h ih => exact (track_hop _ _ _ _ _ _ h).2 _ ih
  | noted e before ih => exact ih

/-- An answer to a hop that goes on names one of the modes that the hop may lead to. -/
theorem matchIndex_lt_of_perform {s : SessionState} {name : String} {target : Option String}
    {plan : Plan} {x : Exchange} {w w' : World σ} (hp : c.planOf s name target = .ok plan)
    (h : (c.perform plan.step name plan.prompts).runOn w = some (.ok x, w')) :
    x.matchIndex < plan.step.options.length := by
  rw [runOn_perform, length_prompts hp] at h
  cases ha : c.answerOf plan w with
  | error f =>
    rw [ha] at h
    cases h
  | ok y =>
    rw [ha] at h
    change some ((inRange _ y).mapError _, _) = _ at h
    rw [inRange] at h
    split at h
    · next hy =>
      cases h
      exact hy
    · cases h

/-- **Every session is on its track.** Its mode is one of the registry and the last of its history,
    which began with the first mode and went on by steps of macros. A call lengthens it by the modes
    that hops enter, one for each hop that is completed, and a command not at all. So the mode of a
    session has its definition, and each answer that a hop goes on with has its mode. -/
theorem onTrack_of_reachable {initial : String} {w : World σ} (h : c.Reachable initial w) :
    OnTrack c.registry initial w.state ∧
    (∀ (call : SessionCall) r w', (call.perform c).runOn w = some (r, w') →
      ∃ es, w'.journal = w.journal ++ es ∧
        w'.state.history = w.state.history ++ landings es) ∧
    (∀ name target depth r w', (c.hop name target depth).runOn w = some (r, w') →
      w'.state.history = w.state.history ++ entered r ∧
        ∃ es, w'.journal = w.journal ++ es ∧ landings es = entered r) ∧
    (∀ text options r w', (c.runCommand text options).runOn w = some (r, w') →
      w'.state.mode = w.state.mode ∧ w'.state.history = w.state.history) ∧
    (∃ mode, c.registry.require w.state.mode = .ok mode) ∧
    ∀ name target plan x v w', c.planOf w.state name target = .ok plan →
      (c.perform plan.step name plan.prompts).runOn v = some (.ok x, w') →
      x.matchIndex < plan.step.options.length := by
  have htrack := h.onTrack
  obtain ⟨mode, hm⟩ := htrack.known
  refine ⟨htrack, fun call r w' hr => (track_perform call _ _ _ hr).1,
    fun name target depth r w' hr => ?_, fun text options r w' hr => ?_,
    ⟨mode, Registry.require_of_get? hm⟩,
    fun name target plan x v w' hp hx => matchIndex_lt_of_perform hp hx⟩
  · obtain ⟨hhistory, hjournal, -⟩ := landings_hop hr
    exact ⟨hhistory, hjournal⟩
  · obtain ⟨hmode, hhistory, -⟩ := keeps_runCommand still_calm text options _ _ _ hr
    exact ⟨hmode, hhistory⟩

/-- The track of a login that is asked for a password. -/
theorem onTrack_of_reachable_login :
    ∃ w, (loginConsole.runMacro "enable").runOn loginWorld = some (.ok (), w) ∧
      w.state.history = ["user", "password", "enable"] ∧
      OnTrack loginModes "user" w.state := by
  have hrun : ((loginConsole.runMacro "enable").runOn loginWorld).map
      (fun p => (p.1, p.2.state.history)) =
        some (.ok (), ["user", "password", "enable"]) := by rfl
  obtain ⟨⟨r, w⟩, hw, hp⟩ := Option.map_eq_some_iff.mp hrun
  obtain ⟨rfl, hhistory⟩ := Prod.mk.inj hp
  have hopened : loginConsole.openSession "user" loginWorld.device = .ok loginWorld := by rfl
  exact ⟨w, hw, hhistory,
    (onTrack_of_reachable (.called (.runMacro "enable") (.opened hopened) hw)).1⟩

end Console

end DeviceCli
