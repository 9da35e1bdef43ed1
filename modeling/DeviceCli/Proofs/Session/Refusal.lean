import DeviceCli.Proofs.Session.Prompt

/-!
# Refused commands

A command may be refused before anything is sent: there is no mode to run it in, or it was given
one whose pager can be detected but not answered. By then the pager that was installed is gone
already, since nothing stacks: the old one is taken away before the new one is looked at.

* `sent_of_effectiveMode`: what precedes a command only adds to what was sent;
* `refused_installPager`, `refused_effectiveMode`: what is refused, and what it leaves;
* `refused_iff`: **a command that fails before anything is sent leaves the session as it was, but for
  the pager where that of its mode is refused.**
-/

namespace DeviceCli.Console

variable {σ : Type} {c : Console σ} {w w' : World σ}

/-! ## 1. Sending -/

/-- What precedes the execution of a command only adds to what was sent. -/
theorem sent_of_effectiveMode {options : CommandOptions} {r : Except Failure Mode}
    (h : (c.effectiveMode options).runOn w = some (r, w')) :
    ∃ requests, requestsOf w'.journal = requestsOf w.journal ++ requests := by
  obtain ⟨hs, hcourse, -⟩ := c.tells_effectiveMode options w
  rw [h] at hcourse
  obtain ⟨requests, hsent, -⟩ := hcourse.sent
  exact ⟨requests, hsent⟩

/-! ## 2. Refusals -/

/-- A pager that can be detected but not answered. -/
def Unanswerable (mode : Mode) : Prop :=
  ∃ pager, mode.pager = some pager ∧ pager.detect.isSome ∧ pager.response = none

/-- No mode of a registry has such a pager. -/
theorem not_unanswerable {r : Registry} {name : String} {mode : Mode}
    (hm : r.get? name = some mode) : ¬ Unanswerable mode := by
  rintro ⟨pager, hp, hrefused⟩
  obtain ⟨cause, herror⟩ := (pager.validate_eq_error_iff name).mpr hrefused
  rw [Registry.validate_pager hm hp] at herror
  cases herror

/-- The installation of a pager is refused if that cannot be answered, and leaves none. -/
theorem refused_installPager {mode : Mode} {label : String} :
    (∃ f, (c.installPager mode label).runOn w = some (.error f, w')) ↔
      Unanswerable mode ∧ w' = withPager w none := by
  rw [runOn_installPager, Unanswerable]
  cases hp : mode.pager with
  | none =>
    constructor
    · rintro ⟨f, ⟨⟩⟩
    · rintro ⟨⟨pager, ⟨⟩, -⟩, -⟩
  | some pager =>
    dsimp only
    cases hv : pager.validate label with
    | error cause =>
      constructor
      · rintro ⟨f, ⟨⟩⟩
        exact ⟨⟨pager, rfl, (pager.validate_eq_error_iff label).mp ⟨cause, hv⟩⟩, rfl⟩
      · rintro ⟨-, rfl⟩
        exact ⟨_, rfl⟩
    | ok u =>
      constructor
      · rintro ⟨f, h⟩
        cases runAvoid_ok h
      · rintro ⟨⟨_, ⟨⟩, hrefused⟩, -⟩
        obtain ⟨cause, herror⟩ := (pager.validate_eq_error_iff label).mpr hrefused
        cases hv.symm.trans herror

/-- The mode of a command is refused where there is none, or where its pager is. -/
theorem refused_effectiveMode {options : CommandOptions} :
    (∃ f, (c.effectiveMode options).runOn w = some (.error f, w')) ↔
      (c.modeFor options.mode w.state = none ∧ w' = w) ∨
      ∃ mode, options.mode = some (.inline mode) ∧ Unanswerable mode ∧ w' = withPager w none := by
  cases ho : options.mode with
  | none =>
    rw [runOn_effectiveMode_present ho, Registry.require, modeFor]
    cases c.registry.get? w.state.mode <;> simp [eq_comm]
  | some override =>
    rw [modeFor]
    cases hm : c.overriding override with
    | none =>
      obtain ⟨f, hrefused⟩ := runOn_effectiveMode_unknown ho hm w
      rw [hrefused]
      cases override with
      | inline mode => cases hm
      | named name => simp [eq_comm]
    | some mode =>
      -- A mode that is applied is refused as its pager is, and none of the registry is.
      have happlied : (∃ f, (c.effectiveMode options).runOn w = some (.error f, w')) ↔
          Unanswerable mode ∧ w' = withPager w none := by
        rw [← @refused_installPager _ c _ _ mode (overridingLabel override),
          runOn_effectiveMode_applied ho hm]
        constructor
        · rintro ⟨f, h⟩
          rcases Act.runOn_bind_cases h with ⟨f', hinstall, -⟩ | ⟨_, v, -, hpure⟩
          · exact ⟨f', hinstall⟩
          · cases hpure
        · rintro ⟨f, h⟩
          exact ⟨f, Act.runOn_bind_error h _⟩
      rw [happlied]
      cases override with
      | inline given =>
        obtain rfl : given = mode := Option.some.inj hm
        simp
      | named name => simp [not_unanswerable hm]

/-- **A command that fails before anything is sent** leaves the whole session as it was: it is one
    without a mode to run in. There is one exception. If it was given a mode in place whose pager can
    be detected but not answered, the session is left without a pager, and otherwise as it was. -/
theorem refused_iff {text : String} {options : CommandOptions} :
    (∃ f, (c.runCommand text options).runOn w = some (.error f, w')) ∧
      requestsOf w'.journal = requestsOf w.journal ↔
    (c.modeFor options.mode w.state = none ∧ w' = w) ∨
      ∃ mode, options.mode = some (.inline mode) ∧ Unanswerable mode ∧ w' = withPager w none := by
  rw [← refused_effectiveMode]
  constructor
  · rintro ⟨⟨f, h⟩, hsame⟩
    rcases Act.runOn_bind_cases h with ⟨f', heff, -⟩ | ⟨mode, v, heff, hrun⟩
    · exact ⟨f', heff⟩
    · -- the command was executed, so something was sent
      obtain ⟨first, hfirst⟩ := sent_of_effectiveMode heff
      obtain ⟨-, pages, hsent⟩ := sent_of_execute hrun
      rw [hsent, hfirst, List.append_assoc, List.append_right_eq_self] at hsame
      cases (List.append_eq_nil_iff.mp hsame).2
  · rintro ⟨f, h⟩
    refine ⟨⟨f, Act.runOn_bind_error h _⟩, ?_⟩
    rcases refused_effectiveMode.mp ⟨f, h⟩ with ⟨-, rfl⟩ | ⟨mode, -, -, rfl⟩
    · rfl
    · rfl

/-- The session that a macro led to a mode with a pager has none any more behind a command that was
    refused for the pager of the mode it was given. -/
theorem refused_without_pager :
    ∃ w w' f, pagingConsole.Reachable "user" w ∧
      w.state.pager = some ⟨⟨"--More--", default⟩, " "⟩ ∧
      (pagingConsole.runCommand "reload" unanswered).runOn w = some (.error f, w') ∧
      requestsOf w'.journal = requestsOf w.journal ∧ w'.state.pager = none := by
  have hopened : pagingConsole.openSession "user" pagingWorld.device = .ok pagingWorld := by rfl
  have hrun : ((pagingConsole.runMacro "enable").runOn pagingWorld).map
      (fun p => (p.1, p.2.state.pager)) =
        some (.ok (), some ⟨⟨"--More--", default⟩, " "⟩) := by rfl
  obtain ⟨⟨r, w⟩, hw, hp⟩ := Option.map_eq_some_iff.mp hrun
  obtain ⟨-, hpager⟩ := Prod.mk.inj hp
  have hreached : pagingConsole.Reachable "user" w :=
    .called (.runMacro "enable") (.opened hopened) hw
  exact ⟨w, withPager w none, _, hreached, hpager, by rfl, rfl, rfl⟩

end DeviceCli.Console
