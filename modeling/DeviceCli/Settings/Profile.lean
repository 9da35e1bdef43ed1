import DeviceCli.Settings.Engine
import DeviceCli.Mode.Registry
import DeviceCli.Json.Parser
import DeviceCli.Toml.Parser

/-!
# Driver profiles

A `Profile` is what a file says about one type of device: the settings of the engine and the
modes. It is written in TOML or in JSON, and which of them follows from the file's extension.
-/

namespace DeviceCli

open DeviceCli.Json

/-- The format of a document. -/
inductive Format where
  | toml | json
  deriving DecidableEq, Inhabited

namespace Format

/-- The name of a format. -/
def name : Format → String
  | toml => "toml"
  | json => "json"

/-- The format of a file extension, in any case. No letter outside A to Z has one of the letters
    of these extensions as its lower case. -/
def ofExtension? (extension : String) : Option Format :=
  match Text.lowerLatin extension with
  | "toml" => some toml
  | "json" => some json
  | _ => none

/-- The differences in reading records. -/
def dialect : Format → Dialect
  | toml => .toml
  | json => .json

/-- A document as a value. -/
def read (f : Format) (text : String) : Except Failure Json :=
  match f with
  | toml => match Toml.parse? text with
    | some j => .ok j
    | none => .error (.toml "malformed document")
  | json => match Json.parse? text with
    | some j => .ok j
    | none => .error (.json "malformed document")

/-- The failure of a document that is not of the kind asked for. -/
def mismatch (f : Format) (m : Mismatch) : Failure :=
  match f with
  | toml => .toml m.message
  | json => .json m.message

end Format

/-! ## 1. Paths -/

/-- The steps of a path between slashes. -/
def pathSteps (path : String) : List (List Char) :=
  (Text.splitBy (· == '/') path.toList).filter (!·.isEmpty)

/-- The steps of a path without those that stay where they are. -/
def pathParts (path : String) : List (List Char) := (pathSteps path).filter (· != ['.'])

/-- The name of the file that a path leads to. -/
def fileName? (path : String) : Option (List Char) :=
  match (pathParts path).getLast? with
  | some ['.', '.'] => none
  | last => last

/-- What is behind the last point of a file name, if there is something before it. -/
def extension? (name : List Char) : Option (List Char) :=
  let back := name.reverse
  match back.dropWhile (· != '.') with
  | '.' :: _ :: _ => some (back.takeWhile (· != '.')).reverse
  | _ => none

/-- The format that the extension of a path stands for. -/
def Format.ofPath? (path : String) : Option Format := do
  let name ← fileName? path
  let extension ← extension? name
  ofExtension? (String.ofList extension)

/-! ## 2. Profiles -/

/-- The settings and the modes of one type of device. -/
structure Profile where
  engine : Engine
  modes : Registry

namespace Profile

/-- Reads the parts of a profile; the modes are not yet checked. -/
def partsOfJson (d : Dialect) (j : Json) : Except Mismatch (Engine × Keyed Mode) := do
  let row ← record d true ["engine", "modes"] j
  let engine ← withDefault row "engine" (Engine.ofJson d) {}
  let modes ← required row "modes" (modesOfJson d)
  pure (engine, modes)

/-- Reads a profile. -/
def parse (format : Format) (text : String) : Except Failure Profile := do
  let j ← format.read text
  let (engine, modes) ← (partsOfJson format.dialect j).mapError format.mismatch
  let modes ← (Registry.ofModes modes).mapError .definition
  pure ⟨engine, modes⟩

end Profile

end DeviceCli
