import DeviceCli.Proofs.Session.Track

/-!
# The pager in force

A session has one pager installed, or none. Hops, commands and pages use it and leave it alone; it
changes only where a mode is applied: by a macro, which applies the mode that it led to, or by a
command that is given another mode to run in.

* `pagerOf`: the pager that a mode comes with;
* `runOn_installPager`: what installing does;
* `installPager_cases`: installing leaves the pager of the mode, or none where it is refused;
* `paged_execute`, `paged_walk`: commands and walks leave the pager alone;
* `Applied`: the sessions that calls come to, with the modes that they applied on the way;
* `pager_of_applied`: **the pager in force is that of the mode applied last.**
-/

namespace DeviceCli

/-- The pager that a mode comes with: one that can be detected and answered. -/
def pagerOf (mode : Mode) : Option InstalledPager :=
  match mode.pager with
  | some { detect := some detect, response := some response, .. } => some ⟨detect, response⟩
  | _ => none

theorem pagerOf_of_none {mode : Mode} (h : mode.pager = none) : pagerOf mode = none := by
  unfold pagerOf
  rw [h]

theorem pagerOf_of_some {mode : Mode} {pager : Pager} (h : mode.pager = some pager) :
    pagerOf mode = Console.installable pager := by
  unfold pagerOf Console.installable
  rw [h]
  obtain ⟨detect, response, avoid⟩ := pager
  cases detect <;> cases response <;> rfl

/-- A pager is refused only for want of a response, so it could not be installed either. -/
theorem installable_of_validate_error {pager : Pager} {label : String} {cause : Misconfiguration}
    (h : pager.validate label = .error cause) : Console.installable pager = none := by
  obtain ⟨detect, response, avoid⟩ := pager
  cases detect with
  | none => rfl
  | some detect =>
    cases response with
    | none => rfl
    | some response => cases h

/-! ## 1. Installing -/

/-- The pager is the same. -/
def Frame.paged (σ : Type) : Frame σ where
  rel w w' := w'.state.pager = w.state.pager
  refl _ := rfl
  trans h h' := h'.trans h

namespace Console

variable {σ : Type} {c : Console σ} {w w' : World σ}

theorem paged_quiet : (Frame.paged σ).Quiet c where
  send _ _ := rfl
  note _ _ _ _ := rfl
  unpin _ := rfl

/-- A command leaves the pager alone, whatever it comes to. -/
theorem paged_execute {text : String} {mode : Mode} {options : CommandOptions}
    {r : Except Failure String} (h : (c.execute text mode options).runOn w = some (r, w')) :
    w'.state.pager = w.state.pager :=
  keeps_execute paged_quiet text mode options w r w' h

/-- Commands that avoid paging never stop what they belong to, whatever they come to. -/
theorem runAvoid_ok {mode : Mode} {label : String} {commands : List String}
    {r : Except Failure Unit} (h : (c.runAvoid mode label commands).runOn w = some (r, w')) :
    r = .ok () := by
  induction commands generalizing w with
  | nil =>
    cases h
    rfl
  | cons command rest ih =>
    rcases Act.runOn_bind_cases h with ⟨f, hattempt, -⟩ | ⟨outcome, v, -, hrest⟩
    · -- an attempt never fails
      rw [Act.runOn_attempt, Option.map_eq_some_iff] at hattempt
      obtain ⟨p, -, hp⟩ := hattempt
      cases hp
    · cases outcome with
      | ok output => exact ih hrest
      | error f =>
        change (Act.note _ _ >>= fun _ => c.runAvoid mode label rest).runOn v = _ at hrest
        rw [Act.runOn_bind_ok (Act.runOn_note v _ _)] at hrest
        exact ih hrest

/-- The session with another pager installed, or with none. -/
def withPager (w : World σ) (pager : Option InstalledPager) : World σ :=
  { w with state := { w.state with pager } }

/-- Installing takes the old pager away, checks the new one, and runs the commands that avoid
    paging with it in force. -/
theorem runOn_installPager (mode : Mode) (label : String) (w : World σ) :
    (c.installPager mode label).runOn w = match mode.pager with
      | none => some (.ok (), withPager w none)
      | some pager => match pager.validate label with
        | .error cause => some (.error (.definition cause), withPager w none)
        | .ok _ => (c.runAvoid mode label pager.avoid).runOn (withPager w (installable pager)) := by
  rw [installPager, Act.runOn_bind_ok (Act.runOn_modifyState w _)]
  cases mode.pager with
  | none => rfl
  | some pager =>
    change (Act.lift _ >>= _).runOn _ = match pager.validate label with
      | .error cause => some (.error (.definition cause), withPager w none)
      | .ok _ => (c.runAvoid mode label pager.avoid).runOn (withPager w (installable pager))
    rw [Act.runOn_bind, Act.runOn_lift]
    cases pager.validate label with
    | error cause => rfl
    | ok u =>
      dsimp only [Except.mapError]
      cases installable pager with
      | none => rfl
      | some active => exact Act.runOn_bind_ok (Act.runOn_modifyState _ _) _

/-- **Installing a pager** leaves that of the mode in force and succeeds, unless the pager can be
    detected but not answered: then none is left, and that is what it fails with. -/
theorem installPager_cases {mode : Mode} {label : String} {r : Except Failure Unit}
    (h : (c.installPager mode label).runOn w = some (r, w')) :
    w'.state.pager = pagerOf mode ∧
      (r = .ok () ∨ ∃ pager cause, mode.pager = some pager ∧ pager.validate label = .error cause ∧
        r = .error (.definition cause)) := by
  rw [runOn_installPager] at h
  cases hp : mode.pager with
  | none =>
    rw [hp] at h
    cases h
    exact ⟨(pagerOf_of_none hp).symm, .inl rfl⟩
  | some pager =>
    rw [hp] at h
    rw [pagerOf_of_some hp]
    dsimp only at h
    cases hv : pager.validate label with
    | error cause =>
      rw [hv] at h
      cases h
      exact ⟨(installable_of_validate_error hv).symm, .inr ⟨pager, cause, rfl, hv, rfl⟩⟩
    | ok u =>
      rw [hv] at h
      exact ⟨keeps_runAvoid paged_quiet mode label pager.avoid _ _ _ h, .inl (runAvoid_ok h)⟩

/-- A mode of the registry has a pager that is not refused, so installing it succeeds. -/
theorem installPresentPager_cases {mode : Mode} {r : Except Failure Unit}
    (hm : c.registry.get? w.state.mode = some mode)
    (h : c.installPresentPager.runOn w = some (r, w')) :
    r = .ok () ∧ w'.state.pager = pagerOf mode ∧ w'.state.mode = w.state.mode ∧
      w'.state.history = w.state.history := by
  obtain ⟨hmode, hhistory, -⟩ := keeps_installPresentPager still_calm w r w' h
  rw [installPresentPager, Act.runOn_bind_ok (Act.runOn_state w), Registry.require_of_get? hm] at h
  change (c.installPager mode w.state.mode).runOn w = _ at h
  obtain ⟨hpager, hr⟩ := installPager_cases h
  refine ⟨?_, hpager, hmode, hhistory⟩
  rcases hr with hr | ⟨pager, cause, hp, hv, -⟩
  · exact hr
  · rw [Registry.validate_pager hm hp] at hv
    cases hv

/-! ## 2. Applying -/

/-- The mode that a command is given in place of the present one. -/
def overriding (c : Console σ) : CommandMode → Option Mode
  | .named name => c.registry.get? name
  | .inline mode => some mode

/-- How the mode that a command is given is called in remarks and failures. -/
def overridingLabel : CommandMode → String
  | .named name => name
  | .inline _ => inlineLabel

/-- A command without a mode of its own runs in the present one. -/
theorem runOn_effectiveMode_present {options : CommandOptions} (ho : options.mode = none)
    (w : World σ) :
    (c.effectiveMode options).runOn w = some (c.registry.require w.state.mode, w) := by
  rw [effectiveMode, ho]
  exact Act.runOn_lift _ _

/-- One that is given a mode has it applied. -/
theorem runOn_effectiveMode_applied {options : CommandOptions} {override : CommandMode}
    {mode : Mode} (ho : options.mode = some override) (hm : c.overriding override = some mode)
    (w : World σ) :
    (c.effectiveMode options).runOn w =
      (c.installPager mode (overridingLabel override) >>= fun _ => pure mode).runOn w := by
  rw [effectiveMode, ho]
  cases override with
  | inline given =>
    obtain rfl : given = mode := Option.some.inj hm
    rfl
  | named name =>
    change (Act.lift (c.registry.require name) >>= _).runOn w = _
    rw [Registry.require_of_get? hm]
    rfl

/-- One that is given a mode which does not exist is refused. -/
theorem runOn_effectiveMode_unknown {options : CommandOptions} {override : CommandMode}
    (ho : options.mode = some override) (hm : c.overriding override = none) (w : World σ) :
    ∃ f, (c.effectiveMode options).runOn w = some (.error f, w) := by
  rw [effectiveMode, ho]
  cases override with
  | inline mode => cases hm
  | named name =>
    change ∃ f, (Act.lift (c.registry.require name) >>= _).runOn w = _
    change c.registry.get? name = none at hm
    rw [Registry.require, hm]
    exact ⟨_, rfl⟩

/-- A command that is given a mode has the pager of that mode installed, even if it fails; another
    one finds the pager as it was. -/
theorem pager_effectiveMode {options : CommandOptions} {r : Except Failure Mode}
    (h : (c.effectiveMode options).runOn w = some (r, w')) :
    w'.state.pager = match options.mode.bind c.overriding with
      | some mode => pagerOf mode
      | none => w.state.pager := by
  cases ho : options.mode with
  | none =>
    rw [runOn_effectiveMode_present ho] at h
    cases h
    rfl
  | some override =>
    rw [Option.bind_some]
    cases hm : c.overriding override with
    | none =>
      obtain ⟨f, hrefused⟩ := runOn_effectiveMode_unknown ho hm w
      cases hrefused.symm.trans h
      rfl
    | some mode =>
      rw [runOn_effectiveMode_applied ho hm] at h
      rcases Act.runOn_bind_cases h with ⟨f, hinstall, -⟩ | ⟨_, v, hinstall, hpure⟩
      · exact (installPager_cases hinstall).1
      · cases hpure
        exact (installPager_cases hinstall).1

/-- A hop leaves the pager alone. -/
theorem paged_hop (name : String) (target : Option String) (depth : Nat) :
    (c.hop name target depth).Keeps (Frame.paged σ) := by
  intro w r v h
  have hperform : ∀ plan : Plan, (c.afterPerform plan w).state.pager = w.state.pager := by
    intro plan
    rw [state_afterPerform]
  rcases hop_cases h with ⟨f, -, -, rfl⟩ | ⟨plan, -, ⟨f, -, -, rfl⟩ | ⟨landed, strict, -, -, rfl⟩⟩
  · rfl
  · exact hperform plan
  · exact hperform plan

/-- A walk leaves the pager alone, whatever it comes to. -/
theorem paged_walk {name : String} {r : Except Failure Unit}
    (h : (c.walk name).runOn w = some (r, w')) : w'.state.pager = w.state.pager :=
  keeps_walk paged_quiet paged_hop name w r w' h

/-- A session in which the walk of a macro begins. -/
def begun (name : String) (w : World σ) : World σ :=
  { w with
    journal := w.journal ++
      [.noted (.engine "Running CLI macro" [("macro_name", name), ("mode", w.state.mode)])] }

/-- A macro is its walk; one that succeeds is followed by the installation of a pager. -/
theorem runOn_runMacro {name : String} (h : w.state.mode ≠ name) :
    (c.runMacro name).runOn w = match (c.walk name).runOn (begun name w) with
      | some (.ok _, v) => c.installPresentPager.runOn v
      | some (.error f, v) => some (.error f, v)
      | none => none := by
  rw [runMacro, Act.runOn_bind_ok (Act.runOn_state w), if_neg h,
    Act.runOn_bind_ok (Act.runOn_note w _ _)]
  show (c.walk name >>= fun _ => c.installPresentPager).runOn (begun name w) = _
  rw [Act.runOn_bind]
  match (c.walk name).runOn (begun name w) with
  | some (.ok _, v) => rfl
  | some (.error f, v) => rfl
  | none => rfl

/-- The mode that a call applies, by the state before it, whether it succeeded, and the state that
    it left: a macro that walked and succeeded applies the mode that it led to, and a command the
    mode that it was given. -/
def applies (c : Console σ) (before : SessionState) (succeeded : Bool) (after : SessionState) :
    SessionCall → Option Mode
  | .runMacro name =>
    if before.mode ≠ name ∧ succeeded then c.registry.get? after.mode else none
  | .command _ options => options.mode.bind c.overriding
  | _ => none

/-- **A call that applies a mode leaves the pager of that mode in force, and any other call leaves
    the pager alone.** -/
theorem pager_perform {initial : String} (htrack : OnTrack c.registry initial w.state)
    (call : SessionCall) {r : Except Failure call.Answer}
    (h : (call.perform c).runOn w = some (r, w')) :
    w'.state.pager = match c.applies w.state r.isOk w'.state call with
      | some mode => pagerOf mode
      | none => w.state.pager := by
  cases call with
  | runMacro name =>
    by_cases hname : w.state.mode = name
    · change (c.runMacro name).runOn w = _ at h
      rw [runMacro, Act.runOn_bind_ok (Act.runOn_state w), if_pos hname] at h
      cases h
      rw [applies, if_neg fun hn => hn.1 hname]
    · change (c.runMacro name).runOn w = _ at h
      rw [runOn_runMacro hname] at h
      cases hwalk : (c.walk name).runOn (begun name w) with
      | none =>
        rw [hwalk] at h
        cases h
      | some p =>
        obtain ⟨result, v⟩ := p
        rw [hwalk] at h
        have hv : v.state.pager = w.state.pager := (paged_walk hwalk).trans rfl
        cases result with
        | error f =>
          cases h
          rw [applies, if_neg fun hn => Bool.false_ne_true hn.2]
          exact hv
        | ok u =>
          -- the walk stays on the track, so the mode that it led to is one of the registry
          have hwalked := (keeps_walk track_calm.toQuiet track_hop name _ _ _ hwalk).2 initial
          obtain ⟨mode, hm⟩ := (hwalked htrack).known
          obtain ⟨rfl, hpager, hmode, -⟩ := installPresentPager_cases hm h
          rw [applies, if_pos ⟨hname, rfl⟩, hmode, hm]
          exact hpager
  | command text options =>
    change (c.runCommand text options).runOn w = _ at h
    rcases Act.runOn_bind_cases h with ⟨f, he, -⟩ | ⟨mode, v, he, hrun⟩
    · exact pager_effectiveMode he
    · exact (paged_execute hrun).trans (pager_effectiveMode he)
  | sleep ms =>
    change (c.sleepFor ms).runOn w = _ at h
    rw [sleepFor] at h
    split at h
    · cases h
      rfl
    · cases h
      rfl
  | state =>
    cases h
    rfl
  | debug message =>
    cases h
    rfl
  | transmit request =>
    change (c.transmit request).runOn w = _ at h
    rw [runOn_transmit] at h
    cases h
    rfl

/-! ## 3. Runs of calls -/

/-- The sessions that calls come to, each with the modes that the calls applied, the last one
    last. -/
inductive Applied (c : Console σ) (initial : String) : List Mode → World σ → Prop
  | opened {device w} (h : c.openSession initial device = .ok w) : Applied c initial [] w
  | called {modes w w'} (call : SessionCall) {r} (before : Applied c initial modes w)
      (h : (call.perform c).runOn w = some (r, w')) :
      Applied c initial (modes ++ (c.applies w.state r.isOk w'.state call).toList) w'

theorem Applied.reachable {initial : String} {modes : List Mode} {w : World σ}
    (h : c.Applied initial modes w) : c.Reachable initial w := by
  induction h with
  | opened h => exact .opened h
  | called call before h ih => exact .called call ih h

/-- The invariant, by induction on the calls. -/
theorem Applied.pager {initial : String} {modes : List Mode} {w : World σ}
    (h : c.Applied initial modes w) : w.state.pager = modes.getLast?.bind pagerOf := by
  induction h with
  | @opened device w h =>
    rw [openSession, Registry.require] at h
    split at h
    · cases h
      rfl
    · cases h
  | @called modes w w' call r before h ih =>
    rw [pager_perform before.reachable.onTrack call h]
    cases c.applies w.state r.isOk w'.state call with
    | none =>
      rw [Option.toList_none, List.append_nil]
      exact ih
    | some mode =>
      rw [Option.toList_some, List.getLast?_concat]
      rfl

/-- A console on a device whose mode `enable` shows long outputs in pages. -/
def pagingConsole : Console (List (Except Failure Exchange)) where
  link := Link.canned
  registry :=
    { modes := Keyed.ofList
        [ ("enable",
            { prompt := ⟨"#", default⟩
              pager := some { detect := some ⟨"--More--", default⟩, response := some " " } }),
          ("user",
            { prompt := ⟨">", default⟩
              macros := Keyed.ofList
                [("enable",
                  { cmd := some "enable", options := ["enable"], target := some "enable" })] }) ]
      valid := by rfl }
  engine := {}

/-- A session that was opened in the mode `user` of that device. -/
def pagingWorld : World (List (Except Failure Exchange)) where
  device := [.ok ⟨"", "#", 0, [some "#"]⟩]
  state := .start "user"
  journal := [.noted (.engine "Opening CLI session" [("mode", "user")])]

/-- Options that give a command a mode whose pager can be detected but not answered. -/
def unanswered : CommandOptions where
  mode := some (.inline
    { prompt := ⟨"#", default⟩, pager := some { detect := some ⟨"more", default⟩ } })

/-- **The pager in force is that of the mode applied last**, if that mode comes with one that can be
    detected and answered, and else there is none. A call that applies no mode leaves the pager
    alone: so does a macro that fails or has nothing to do, and a command in the present mode. So do
    walks, single commands (also those that avoid paging) and the rounds in which their pages are
    read. -/
theorem pager_of_applied {initial : String} {modes : List Mode} {w : World σ}
    (h : c.Applied initial modes w) :
    w.state.pager = modes.getLast?.bind pagerOf ∧
    (∀ (call : SessionCall) r w', (call.perform c).runOn w = some (r, w') →
      c.applies w.state r.isOk w'.state call = none → w'.state.pager = w.state.pager) ∧
    (∀ name r (v v' : World σ), (c.walk name).runOn v = some (r, v') →
      v'.state.pager = v.state.pager) ∧
    (∀ text mode options r (v v' : World σ), (c.execute text mode options).runOn v = some (r, v') →
      v'.state.pager = v.state.pager) ∧
    ∀ reading text collected pages r (v v' : World σ),
      (c.readPage reading text collected pages).runOn v = some (r, v') →
      v'.state.pager = v.state.pager := by
  refine ⟨h.pager, fun call r w' hr hnone => ?_, fun name r v v' hv => paged_walk hv,
    fun text mode options r v v' hv => paged_execute hv,
    fun reading text collected pages r v v' hv =>
      keeps_readPage paged_quiet reading text collected pages v r v' hv⟩
  have hpager := pager_perform h.reachable.onTrack call hr
  rw [hnone] at hpager
  exact hpager

/-- The pager of the mode that a macro led to is in force until a command is given a mode whose
    pager is refused: that command fails, and leaves none. -/
theorem pager_of_applied_refused :
    ∃ w w', (pagingConsole.runMacro "enable").runOn pagingWorld = some (.ok (), w) ∧
      w.state.pager = some ⟨⟨"--More--", default⟩, " "⟩ ∧
      (pagingConsole.runCommand "reload" unanswered).runOn w =
        some (.error (.definition (.pagerWithoutResponse inlineLabel)), w') ∧
      w'.state.pager = none := by
  have hopened : pagingConsole.openSession "user" pagingWorld.device = .ok pagingWorld := by rfl
  have hrun : ((pagingConsole.runMacro "enable").runOn pagingWorld).map
      (fun p => (p.1, p.2.state.mode)) = some (.ok (), "enable") := by rfl
  obtain ⟨⟨r, w⟩, hw, hp⟩ := Option.map_eq_some_iff.mp hrun
  obtain ⟨rfl, hmode⟩ := Prod.mk.inj hp
  have hreload : (pagingConsole.runCommand "reload" unanswered).runOn w =
      some (.error (.definition (.pagerWithoutResponse inlineLabel)),
        { w with state := { w.state with pager := none } }) := by rfl
  have hfirst := Applied.called (.runMacro "enable") (.opened hopened) hw
  have hsecond := Applied.called (.command "reload" unanswered) hfirst hreload
  refine ⟨w, _, hw, (pager_of_applied hfirst).1.trans ?_, hreload,
    (pager_of_applied hsecond).1.trans ?_⟩
  · rw [applies, if_pos ⟨by decide, rfl⟩, hmode]
    rfl
  · rw [List.getLast?_append]
    rfl

end Console

end DeviceCli
