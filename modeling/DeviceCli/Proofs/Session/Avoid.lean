import DeviceCli.Proofs.Session.Prompt

/-!
# Commands that avoid paging

A mode may come with commands that switch paging off. They run where its pager is installed, each
once and in order, with the pager already in force: so their own output may come in pages. What
becomes of one is noted if it is a failure, and concerns nothing that comes later.

* `AvoidsEnd`: none of such commands is kept waiting for good;
* `runAvoid_of_ends`: what they send, by induction on the commands;
* `runCommand_of_installed`, `runMacro_of_installed`: what becomes of what they belong to;
* `installed_of_ends`: **installing a pager succeeds whatever becomes of them**, and so does what it
  belongs to: a macro comes to what its walk comes to, and a command is sent behind all of them.
-/

namespace DeviceCli.Console

variable {σ : Type} {c : Console σ} {mode : Mode} {label : String}

/-! ## 1. Attempts -/

/-- The session behind an attempt at a command: a failure is noted. -/
def attempted (label command : String) (w : World σ) : Except Failure String → World σ
  | .ok _ => w
  | .error f =>
    let remark : Event := .engine "Pager avoid command failed"
      [("mode", label), ("command", command), ("error", f.message)]
    { w with journal := w.journal ++ [.noted remark] }

@[simp] theorem state_attempted (command : String) (w : World σ) (r : Except Failure String) :
    (attempted label command w r).state = w.state := by
  cases r <;> rfl

@[simp] theorem requestsOf_attempted (command : String) (w : World σ) (r : Except Failure String) :
    requestsOf (attempted label command w r).journal = requestsOf w.journal := by
  cases r with
  | ok output => rfl
  | error f => exact (requestsOf_append _ _).trans (List.append_nil _)

/-- The reading of pages comes to an end for each of some commands, in the session that the ones
    before it have left. -/
def AvoidsEnd (c : Console σ) (mode : Mode) (label : String) : List String → World σ → Prop
  | [], _ => True
  | command :: rest, w => ∃ r v, (c.execute command mode {}).runOn w = some (r, v) ∧
      AvoidsEnd c mode label rest (attempted label command v r)

/-- One command after another, whatever the first one comes to. -/
theorem runOn_runAvoid_cons {command : String} {rest : List String} {w v : World σ}
    {r : Except Failure String} (h : (c.execute command mode {}).runOn w = some (r, v)) :
    (c.runAvoid mode label (command :: rest)).runOn w =
      (c.runAvoid mode label rest).runOn (attempted label command v r) := by
  have hattempt : (Act.attempt (c.execute command mode {})).runOn w = some (.ok r, v) := by
    rw [Act.runOn_attempt, h]
    rfl
  rw [runAvoid, Act.runOn_bind_ok hattempt]
  cases r with
  | ok output => rfl
  | error f => exact Act.runOn_bind_ok (Act.runOn_note v _ _) _

/-! ## 2. All attempts -/

/-- What commands send in a mode, one after the other, each on so many pages. -/
def avoidRequests (c : Console σ) (mode : Mode) (s : SessionState) (commands : List String)
    (pages : List Nat) : List Request :=
  (List.zipWith (fun command n => c.pageRequests command mode {} s n) commands pages).flatten

theorem commandState_commandState (mode : Mode) (options : CommandOptions) (s : SessionState) :
    commandState mode options (commandState mode options s) = commandState mode options s := by
  simp only [commandState]
  split <;> rfl

/-- **Each command is attempted once and in order**, if none is kept waiting for good. -/
theorem runAvoid_of_ends {commands : List String} {w : World σ}
    (hends : c.AvoidsEnd mode label commands w) :
    ∃ v pages, (c.runAvoid mode label commands).runOn w = some (.ok (), v) ∧
      pages.length = commands.length ∧
      requestsOf v.journal = requestsOf w.journal ++
        c.avoidRequests mode (commandState mode {} w.state) commands pages := by
  induction commands generalizing w with
  | nil => exact ⟨w, [], rfl, rfl, (List.append_nil _).symm⟩
  | cons command rest ih =>
    obtain ⟨r, u, hrun, hrest⟩ := hends
    obtain ⟨hstate, n, hsent⟩ := sent_of_execute hrun
    obtain ⟨v, pages, hruns, hlength, hmore⟩ := ih hrest
    refine ⟨v, n :: pages, (runOn_runAvoid_cons hrun).trans hruns, congrArg (· + 1) hlength, ?_⟩
    rw [state_attempted, hstate, commandState_commandState] at hmore
    rw [hmore, requestsOf_attempted, hsent, List.append_assoc]
    rfl

/-! ## 3. What they belong to -/

/-- A command that is given a mode is executed behind the installation of its pager. -/
theorem runCommand_of_installed {text : String} {options : CommandOptions}
    {override : CommandMode} {w v : World σ} (hoverride : options.mode = some override)
    (hmode : c.overriding override = some mode)
    (h : (c.installPager mode (overridingLabel override)).runOn w = some (.ok (), v)) :
    (c.runCommand text options).runOn w = (c.execute text mode options).runOn v := by
  have heffective : (c.effectiveMode options).runOn w = some (.ok mode, v) := by
    rw [runOn_effectiveMode_applied hoverride hmode]
    exact Act.runOn_bind_ok h _
  rw [runCommand, Act.runOn_bind_ok heffective]

/-- A macro whose walk succeeds comes to what the installation of a pager comes to. -/
theorem runMacro_of_installed {name : String} {start w v : World σ}
    {r : Except Failure Unit} (hname : start.state.mode ≠ name)
    (hwalk : (c.walk name).runOn (begun name start) = some (.ok (), w))
    (hmode : c.registry.get? w.state.mode = some mode)
    (h : (c.installPager mode w.state.mode).runOn w = some (r, v)) :
    (c.runMacro name).runOn start = some (r, v) := by
  rw [runOn_runMacro hname, hwalk]
  dsimp only
  rw [installPresentPager, Act.runOn_bind_ok (Act.runOn_state w), Registry.require_of_get? hmode]
  exact h

/-! ## 4. Installing -/

/-- **Installing a pager succeeds whatever becomes of the commands that avoid paging**, if none of
    them is kept waiting for good. Each of them is sent once and in order, and behind each only the
    response of the pager that was just installed. So a macro comes to what its walk comes to. And a
    command that is given the mode is executed where they have ended: it is sent behind all of
    them. -/
theorem installed_of_ends {pager : Pager} {w : World σ} (hpager : mode.pager = some pager)
    (hvalid : pager.validate label = .ok ())
    (hends : c.AvoidsEnd mode label pager.avoid (withPager w (installable pager))) :
    ∃ v pages, (c.installPager mode label).runOn w = some (.ok (), v) ∧
      v.state.pager = installable pager ∧ pages.length = pager.avoid.length ∧
      requestsOf v.journal = requestsOf w.journal ++
        c.avoidRequests mode (commandState mode {} (withPager w (installable pager)).state)
          pager.avoid pages ∧
      (∀ name start, start.state.mode ≠ name →
        (∀ f u, (c.walk name).runOn (begun name start) = some (.error f, u) →
          (c.runMacro name).runOn start = some (.error f, u)) ∧
        ((c.walk name).runOn (begun name start) = some (.ok (), w) →
          c.registry.get? w.state.mode = some mode → label = w.state.mode →
          (c.runMacro name).runOn start = some (.ok (), v))) ∧
      ∀ text options override, options.mode = some override →
        c.overriding override = some mode → label = overridingLabel override →
        (c.runCommand text options).runOn w = (c.execute text mode options).runOn v ∧
        ∀ r u, (c.runCommand text options).runOn w = some (r, u) → ∃ n,
          requestsOf u.journal = requestsOf v.journal ++
            c.pageRequests text mode options (commandState mode options v.state) n := by
  obtain ⟨v, pages, hruns, hlength, hsent⟩ := runAvoid_of_ends hends
  have hinstall : (c.installPager mode label).runOn w = some (.ok (), v) := by
    rw [runOn_installPager, hpager]
    dsimp only
    rw [hvalid]
    exact hruns
  refine ⟨v, pages, hinstall, ?_, hlength, hsent, ?_, ?_⟩
  · rw [(installPager_cases hinstall).1, pagerOf_of_some hpager]
  · intro name start hname
    refine ⟨fun f u hwalk => ?_, fun hwalk hmode hlabel => ?_⟩
    · rw [runOn_runMacro hname, hwalk]
    · exact runMacro_of_installed hname hwalk hmode (hlabel ▸ hinstall)
  · intro text options override hoverride hmode hlabel
    have hrun : (c.runCommand text options).runOn w = (c.execute text mode options).runOn v :=
      runCommand_of_installed hoverride hmode (hlabel ▸ hinstall)
    refine ⟨hrun, fun r u h => ?_⟩
    rw [hrun] at h
    exact (sent_of_execute h).2

/-- A mode with commands that switch paging off. -/
def avoidingMode : Mode where
  prompt := ⟨"#", default⟩
  pager := some
    { detect := some ⟨"--More--", default⟩
      response := some " "
      avoid := ["terminal length 0", "no paging"] }

/-- A session on a device that answers the first of these commands out of range, and shows a page
    for the second. -/
def avoidingWorld : World (List (Except Failure Exchange)) where
  device :=
    [ .ok ⟨"", "?", 7, []⟩,
      .ok ⟨"off\n", "off\n--More--", 1, [some "--More--"]⟩,
      .ok ⟨"", "#", 0, [some "#"]⟩ ]
  state := { mode := "user", history := ["user"] }

/-- A command that comes to nothing does not keep the next one from being sent. -/
theorem installed_of_ends_failing :
    ∃ v, (cannedConsole.installPager avoidingMode inlineLabel).runOn avoidingWorld =
        some (.ok (), v) ∧
      requestsOf v.journal =
        [ ⟨"terminal length 0\r", ["#", "--More--"], none⟩,
          ⟨"no paging\r", ["#", "--More--"], none⟩,
          ⟨" ", ["#", "--More--"], none⟩ ] ∧
      (cannedConsole.runCommand "show" { mode := some (.inline avoidingMode) }).runOn
          avoidingWorld =
        (cannedConsole.execute "show" avoidingMode { mode := some (.inline avoidingMode) }).runOn
          v := by
  let start := withPager avoidingWorld (some ⟨⟨"--More--", default⟩, " "⟩)
  obtain ⟨r, u, r', v, hfirst, hsecond, hrequests⟩ : ∃ r u r' v,
      (cannedConsole.execute "terminal length 0" avoidingMode {}).runOn start = some (r, u) ∧
      (cannedConsole.execute "no paging" avoidingMode {}).runOn
        (attempted inlineLabel "terminal length 0" u r) = some (r', v) ∧
      requestsOf (attempted inlineLabel "no paging" v r').journal =
        [ ⟨"terminal length 0\r", ["#", "--More--"], none⟩,
          ⟨"no paging\r", ["#", "--More--"], none⟩,
          ⟨" ", ["#", "--More--"], none⟩ ] :=
    ⟨_, _, _, _, runOn_execute_of_readPagesOn (by rw [readPagesOn]; rfl),
      runOn_execute_of_readPagesOn (by
        rw [readPagesOn]
        show readPagesOn _ _ _ _ _ _ = _
        rw [readPagesOn]
        rfl), rfl⟩
  have hends : cannedConsole.AvoidsEnd avoidingMode inlineLabel
      ["terminal length 0", "no paging"] start := ⟨r, u, hfirst, r', v, hsecond, trivial⟩
  obtain ⟨v', pages, hinstall, -, -, -, -, hcommand⟩ :=
    @installed_of_ends _ cannedConsole avoidingMode inlineLabel _ avoidingWorld rfl rfl hends
  have hruns : (cannedConsole.installPager avoidingMode inlineLabel).runOn avoidingWorld =
      some (.ok (), attempted inlineLabel "no paging" v r') :=
    (runOn_installPager _ _ _).trans
      ((runOn_runAvoid_cons hfirst).trans (runOn_runAvoid_cons hsecond))
  obtain ⟨-, rfl⟩ := Prod.mk.inj (Option.some.inj (hinstall.symm.trans hruns))
  exact ⟨_, hinstall, hrequests, (hcommand "show" _ _ rfl rfl rfl).1⟩

end DeviceCli.Console
