import DeviceCli.Inventory.Store
import DeviceCli.Json.Record

/-!
# Diagnostics

A `Diagnostic` is a question to a device, with a name under which the answer is stored. A simple
one is a command in a mode; a scripted one is left to the driver.

In a document a diagnostic is an object whose member `type` tells which kind it is, by name or by
number; members that it does not need are passed over.
-/

namespace DeviceCli

open DeviceCli.Json

/-- How a diagnostic is carried out. -/
inductive DiagnosticTask where
  | simple (mode command : String)
  | scripted
  deriving DecidableEq, Inhabited

/-- A diagnostic: the name of its result, and what to do. -/
structure Diagnostic where
  name : String
  task : DiagnosticTask
  deriving DecidableEq, Inhabited

namespace Diagnostic

/-- The command `command` in mode `mode`. -/
def simple (name mode command : String) : Diagnostic := ⟨name, .simple mode command⟩

/-- A diagnostic that the driver carries out. -/
def scripted (name : String) : Diagnostic := ⟨name, .scripted⟩

/-! ## 1. Documents -/

/-- Whether a diagnostic is simple, by its type. -/
def isSimple : Json → Except Mismatch Bool
  | .string "simple" => pure true
  | .string "scripted" => pure false
  | .string name => throw (.unknownVariant name)
  | .int 0 => pure true
  | .int 1 => pure false
  | _ => throw (.wrongKind "a type of diagnostic")

/-- Reads a diagnostic. -/
def ofJson : Json → Except Mismatch Diagnostic
  | .object members => do
    let row ← record .json false ["name", "type"] (.object members)
    let name ← required row "name" asString
    if ← required row "type" isSimple then
      let row ← record .json false ["mode", "command"] (.object members)
      pure (simple name (← required row "mode" asString) (← required row "command" asString))
    else pure (scripted name)
  | _ => throw (.wrongKind "a diagnostic")

/-- Writes a diagnostic. -/
def toJson (d : Diagnostic) : Json :=
  .object <| ("name", .string d.name) :: match d.task with
    | .simple mode command =>
      [("type", .string "simple"), ("mode", .string mode), ("command", .string command)]
    | .scripted => [("type", .string "scripted")]

end Diagnostic

/-! ## 2. Results -/

/-- Diagnostics to be run, and the results of those that were. -/
structure DiagnosticStore where
  pending : List Diagnostic := []
  results : Keyed Attribute := Keyed.empty
  deriving Inhabited

namespace DiagnosticStore

/-- Stores the result of a diagnostic. -/
def setResult (s : DiagnosticStore) (name : String) (value : Attribute) : DiagnosticStore :=
  { s with results := s.results.insert name value }

/-- Stores the result of a diagnostic by a name that must not be empty. -/
def setKey (s : DiagnosticStore) (key : String) (value : Attribute) :
    Except Failure DiagnosticStore := do
  refuseEmptyKey key "diagnostic.set"
  pure (s.setResult key value)

end DiagnosticStore

end DeviceCli
