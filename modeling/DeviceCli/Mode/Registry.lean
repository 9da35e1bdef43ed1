import DeviceCli.Mode.Document

/-!
# Registries of modes

A `Registry` holds the modes of a device by name, and its references are sound: `validate` finds
the first fault in name order, and a registry can only be built from modes without one.

`SoundModes` says what soundness is without the checks.
-/

namespace DeviceCli

open DeviceCli.Json

/-! ## 1. Validation -/

/-- The first fault of a step: an empty name, no options, or a mode that is not there. -/
def Step.validate (modes : Keyed Mode) (mode name : String) (step : Step) :
    Except Misconfiguration Unit :=
  if name.isEmpty then throw (.emptyMacroName mode)
  else if step.options.isEmpty then throw (.emptyOptions name mode)
  else match step.options.find? fun option => !modes.contains option with
    | some option => throw (.unknownOption name mode option)
    | none => match step.target with
      | some target =>
        if modes.contains target then pure () else throw (.unknownTarget name mode target)
      | none => pure ()

/-- Applies a check to the entries of a list until one fails. -/
def checkEach {α : Type} (check : α → Except Misconfiguration Unit) :
    List α → Except Misconfiguration Unit
  | [] => pure ()
  | a :: rest => match check a with
    | .ok () => checkEach check rest
    | .error e => .error e

/-- The first fault of a mode. -/
def Mode.validate (modes : Keyed Mode) (name : String) (mode : Mode) :
    Except Misconfiguration Unit := do
  if name.isEmpty then throw .emptyModeName
  match mode.pager with
  | some pager => pager.validate name
  | none => pure ()
  checkEach (fun (entry : String × Step) => entry.2.validate modes name entry.1)
    mode.macros.entries

/-- The first fault of a set of modes, in name order. -/
def validateModes (modes : Keyed Mode) : Except Misconfiguration Unit :=
  checkEach (fun (entry : String × Mode) => entry.2.validate modes entry.1) modes.entries

/-- What sound modes are: all names are non-empty, a pager that can be detected has a response,
    and each step has options, which are modes, as is its target. -/
def SoundModes (modes : Keyed Mode) : Prop :=
  ∀ name mode, modes.get? name = some mode →
    name ≠ "" ∧
    (∀ pager, mode.pager = some pager → pager.detect.isSome → pager.response.isSome) ∧
    ∀ macroName step, mode.macros.get? macroName = some step →
      macroName ≠ "" ∧ step.options ≠ [] ∧
      (∀ option ∈ step.options, modes.contains option) ∧
      ∀ target, step.target = some target → modes.contains target

/-! ## 2. Registries -/

/-- The modes of a device, with sound references. -/
structure Registry where
  modes : Keyed Mode
  valid : validateModes modes = .ok ()

namespace Registry

/-- The registry of some modes, unless there is a fault in them. -/
def ofModes (modes : Keyed Mode) : Except Misconfiguration Registry :=
  match h : validateModes modes with
  | .ok () => .ok ⟨modes, h⟩
  | .error e => .error e

/-- The registry of a list of named modes; of equal names the last counts. -/
def ofList (modes : List (String × Mode)) : Except Misconfiguration Registry :=
  ofModes (Keyed.ofList modes)

instance : Inhabited Registry := ⟨⟨Keyed.empty, rfl⟩⟩

/-- The mode of that name. -/
def get? (r : Registry) (name : String) : Option Mode := r.modes.get? name

/-- The mode of that name, or the fault that there is none. -/
def require (r : Registry) (name : String) : Except Failure Mode :=
  match r.get? name with
  | some mode => .ok mode
  | none => .error (.definition (.noSuchMode name))

/-- Whether there is a mode of that name. -/
def contains (r : Registry) (name : String) : Bool := r.modes.contains name

/-- The names of the modes, ascending. -/
def names (r : Registry) : List String := r.modes.keys

/-- How many modes there are. -/
def size (r : Registry) : Nat := r.modes.size

/-- Whether there are no modes. -/
def isEmpty (r : Registry) : Bool := r.modes.isEmpty

/-- Writes a registry. -/
def toJson (r : Registry) : Json := ofKeyed Mode.toJson r.modes

/-- Reads a registry; a fault in the modes is a mismatch too. -/
def ofJson (d : Dialect) (j : Json) : Except Mismatch Registry := do
  let modes ← modesOfJson d j
  match ofModes modes with
  | .ok r => pure r
  | .error e => throw (.invalid (Failure.definition e).message)

end Registry

/-! ## 3. Building registries mode by mode -/

/-- Modes collected so far. -/
structure RegistryBuilder where
  modes : Keyed Mode := Keyed.empty
  deriving Inhabited

namespace RegistryBuilder

/-- Adds a mode, in place of an earlier one of that name. -/
def mode (b : RegistryBuilder) (name : String) (m : Mode) : RegistryBuilder :=
  ⟨b.modes.insert name m⟩

/-- The registry of the modes collected. -/
def build (b : RegistryBuilder) : Except Misconfiguration Registry := Registry.ofModes b.modes

end RegistryBuilder

end DeviceCli
