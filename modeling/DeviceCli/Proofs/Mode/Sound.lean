import DeviceCli.Mode.Registry
import DeviceCli.Proofs.Keyed

/-!
# What a registry promises

The checks of a registry go through modes and steps in order and stop at the first fault. Here they
are shown to say what `SoundModes` says: `validateModes_eq_ok_iff`. So in a registry every option
of a step is a mode (`Registry.get?_of_mem_options`), and a pager passes its check
(`Registry.validate_pager`).
-/

namespace DeviceCli

/-! ## 1. Checks -/

theorem checkEach_eq_ok_iff {α : Type} (check : α → Except Misconfiguration Unit) (list : List α) :
    checkEach check list = .ok () ↔ ∀ a ∈ list, check a = .ok () := by
  induction list with
  | nil => simp [checkEach, pure, Except.pure]
  | cons a rest ih =>
    rw [checkEach]
    cases h : check a with
    | ok u => simp [ih, h]
    | error e => simp [h]

theorem throw_ne_ok (e : Misconfiguration) : (throw e : Except Misconfiguration Unit) ≠ .ok () := by
  rintro ⟨⟩

theorem Step.validate_eq_ok_iff (modes : Keyed Mode) (mode name : String) (step : Step) :
    step.validate modes mode name = .ok () ↔
      name ≠ "" ∧ step.options ≠ [] ∧ (∀ option ∈ step.options, modes.contains option) ∧
        ∀ target, step.target = some target → modes.contains target := by
  rw [Step.validate]
  split
  · next h => simpa [throw_ne_ok] using fun hn => absurd (by simpa using h) hn
  · next hname =>
    have hname : name ≠ "" := by simpa using hname
    split
    · next h => simpa [throw_ne_ok] using fun _ hn => absurd (by simpa using h) hn
    · next hoptions =>
      have hoptions : step.options ≠ [] := by simpa using hoptions
      split
      · next option h =>
        have hm := List.mem_of_find?_eq_some h
        have hnot : modes.contains option = false := by simpa using List.find?_some h
        simp only [throw_ne_ok, false_iff]
        exact fun ⟨_, _, hall, _⟩ => absurd (hall option hm) (by simp [hnot])
      · next h =>
        have hall : ∀ option ∈ step.options, modes.contains option := by simpa using h
        cases ht : step.target with
        | none => simpa [pure, Except.pure] using ⟨hname, hoptions, hall⟩
        | some target =>
          by_cases hc : modes.contains target = true
          · simpa [hc, pure, Except.pure] using ⟨hname, hoptions, hall⟩
          · simp [hc, throw_ne_ok]

theorem Pager.validate_eq_ok_iff (pager : Pager) (mode : String) :
    pager.validate mode = .ok () ↔ (pager.detect.isSome → pager.response.isSome) := by
  rw [Pager.validate]
  cases pager.detect <;> cases pager.response <;> simp [throw_ne_ok, pure, Except.pure]

theorem Pager.validate_eq_error_iff (pager : Pager) (mode : String) :
    (∃ cause, pager.validate mode = .error cause) ↔
      pager.detect.isSome ∧ pager.response = none := by
  match pager with
  | ⟨some _, none, _⟩ => exact ⟨fun _ => ⟨rfl, rfl⟩, fun _ => ⟨_, rfl⟩⟩
  | ⟨none, _, _⟩ => exact ⟨fun ⟨_, h⟩ => (nomatch h), fun h => (nomatch h.1)⟩
  | ⟨some _, some _, _⟩ => exact ⟨fun ⟨_, h⟩ => (nomatch h), fun h => (nomatch h.2)⟩

theorem Mode.validate_eq_ok_iff (modes : Keyed Mode) (name : String) (mode : Mode) :
    mode.validate modes name = .ok () ↔
      name ≠ "" ∧
      (∀ pager, mode.pager = some pager → pager.detect.isSome → pager.response.isSome) ∧
      ∀ entry ∈ mode.macros.entries, entry.2.validate modes name entry.1 = .ok () := by
  rw [Mode.validate, ← checkEach_eq_ok_iff]
  by_cases hname : name = ""
  · simp [hname, throw, throwThe, MonadExceptOf.throw, bind, Except.bind]
  · have he : name.isEmpty = false := by simpa using hname
    cases hp : mode.pager with
    | none => simp [he, hname]
    | some pager =>
      have hv := pager.validate_eq_ok_iff name
      cases hr : pager.validate name with
      | ok u => simp_all [bind, Except.bind]
      | error e => simp_all [bind, Except.bind]

/-- **The checks find no fault in sound modes, and in no others.** -/
theorem validateModes_eq_ok_iff (modes : Keyed Mode) :
    validateModes modes = .ok () ↔ SoundModes modes := by
  rw [validateModes, checkEach_eq_ok_iff, SoundModes]
  constructor
  · intro h name mode hm
    obtain ⟨hn, hp, hs⟩ :=
      (Mode.validate_eq_ok_iff modes name mode).mp (h _ (modes.mem_entries_iff.mpr hm))
    refine ⟨hn, hp, fun macroName step hstep => ?_⟩
    exact (Step.validate_eq_ok_iff modes name macroName step).mp
      (hs _ (mode.macros.mem_entries_iff.mpr hstep))
  · rintro h ⟨name, mode⟩ hm
    obtain ⟨hn, hp, hs⟩ := h name mode (modes.mem_entries_iff.mp hm)
    refine (Mode.validate_eq_ok_iff modes name mode).mpr ⟨hn, hp, ?_⟩
    rintro ⟨macroName, step⟩ hstep
    exact (Step.validate_eq_ok_iff modes name macroName step).mpr
      (hs macroName step (mode.macros.mem_entries_iff.mp hstep))

/-! ## 2. Registries -/

namespace Registry

theorem sound (r : Registry) : SoundModes r.modes := (validateModes_eq_ok_iff r.modes).mp r.valid

theorem require_of_get? {r : Registry} {name : String} {mode : Mode} (h : r.get? name = some mode) :
    r.require name = .ok mode := by
  rw [require, h]

theorem get?_of_require {r : Registry} {name : String} {mode : Mode}
    (h : r.require name = .ok mode) : r.get? name = some mode := by
  rw [require] at h
  split at h
  · next found hm =>
    cases h
    exact hm
  · cases h

variable {r : Registry} {name macroName : String} {mode : Mode} {step : Step}

/-- The pager of a mode can be answered if it can be detected. -/
theorem validate_pager {pager : Pager} (hm : r.get? name = some mode) (hp : mode.pager = some pager)
    (label : String) : pager.validate label = .ok () :=
  (pager.validate_eq_ok_iff label).mpr ((r.sound name mode hm).2.1 pager hp)

/-- **Each option of a step is a mode.** -/
theorem get?_of_mem_options (hm : r.get? name = some mode)
    (hs : mode.macros.get? macroName = some step) {option : String} (ho : option ∈ step.options) :
    ∃ landed, r.get? option = some landed :=
  r.modes.contains_iff.mp (((r.sound name mode hm).2.2 macroName step hs).2.2.1 option ho)

/-- The target of a step is a mode. -/
theorem get?_of_target (hm : r.get? name = some mode)
    (hs : mode.macros.get? macroName = some step) {target : String}
    (ht : step.target = some target) : ∃ landed, r.get? target = some landed :=
  r.modes.contains_iff.mp (((r.sound name mode hm).2.2 macroName step hs).2.2.2 target ht)

end Registry

end DeviceCli
