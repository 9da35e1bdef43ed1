import DeviceCli.Failure
import DeviceCli.Json.Record
import DeviceCli.Text.Case

/-!
# Settings of the engine

`Engine` holds what a session needs to know beside the modes: how a line ends, how many hops a
walk may take, how long a command may take, whether control sequences are removed, and how to log.
-/

namespace DeviceCli

open DeviceCli.Json

/-- How log lines are laid out. -/
inductive LogFormat where
  | pretty | compact | json
  deriving DecidableEq, Inhabited

namespace LogFormat

/-- The name of a format. -/
def name : LogFormat → String
  | pretty => "pretty"
  | compact => "compact"
  | json => "json"

/-- The format of exactly that name. -/
def named? : String → Option LogFormat
  | "pretty" => some pretty
  | "compact" => some compact
  | "json" => some json
  | _ => none

/-- The format of a name in any case of the letters A to Z. -/
def parse (s : String) : Except Misconfiguration LogFormat :=
  let lowered := Text.lowerLatin s
  match named? lowered with
  | some f => .ok f
  | none => .error (.unknownLogFormat lowered)

/-- Reads a format. -/
def ofJson (d : Dialect) (j : Json) : Except Mismatch LogFormat := do
  let s ← asVariant d j
  match named? s with
  | some f => pure f
  | none => throw (.unknownVariant s)

end LogFormat

/-- What is logged, and how. -/
structure Logging where
  filter : String := "info"
  format : LogFormat := .compact
  deriving DecidableEq, Inhabited

/-- The settings of the engine; a timeout is in milliseconds. -/
structure Engine where
  lineEnding : String := "\r"
  maxHops : Nat := 10
  commandTimeout : Option Nat := none
  stripControls : Bool := false
  logging : Logging := {}
  deriving DecidableEq, Inhabited

namespace Logging

/-- Reads logging settings; what is absent has its default. -/
def ofJson (d : Dialect) (j : Json) : Except Mismatch Logging := do
  let row ← record d true ["filter", "format"] j
  pure
    { filter := ← withDefault row "filter" asString "info"
      format := ← withDefault row "format" (LogFormat.ofJson d) .compact }

/-- Writes logging settings. -/
def toJson (l : Logging) : Json :=
  .object [("filter", .string l.filter), ("format", .string l.format.name)]

end Logging

namespace Engine

/-- The members of the settings, in order. -/
def memberNames : List String :=
  ["line_ending", "max_macro_hops", "command_timeout", "strip_ansi", "logging"]

/-- Reads settings; what is absent has its default. -/
def ofJson (d : Dialect) (j : Json) : Except Mismatch Engine := do
  let row ← record d true memberNames j
  pure
    { lineEnding := ← withDefault row "line_ending" asString "\r"
      maxHops := ← withDefault row "max_macro_hops" asNat 10
      commandTimeout := ← optional row "command_timeout" asNat
      stripControls := ← withDefault row "strip_ansi" asBool false
      logging := ← withDefault row "logging" (Logging.ofJson d) {} }

/-- Writes settings. -/
def toJson (e : Engine) : Json :=
  .object
    [ ("line_ending", .string e.lineEnding),
      ("max_macro_hops", ofNat e.maxHops),
      ("command_timeout", (e.commandTimeout.map ofNat).getD .null),
      ("strip_ansi", .bool e.stripControls),
      ("logging", e.logging.toJson) ]

/-- The settings with a command timeout given in microseconds, of which whole milliseconds
    count. -/
def withTimeoutMicros (e : Engine) (micros : Nat) : Engine :=
  { e with commandTimeout := some (micros / 1000) }

end Engine

end DeviceCli
