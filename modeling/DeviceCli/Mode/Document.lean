import DeviceCli.Mode.Basic
import DeviceCli.Json.Record

/-!
# Modes in documents

Modes are written as objects with a fixed set of members. A document may leave out what has a
default, and may give a single command to avoid paging without a list around it; what is written
here leaves out what is absent or empty, and always has the members without which a reader would
have to know a default: `prompt`, `clearPrompt`, `noCr` and `options`.
-/

namespace DeviceCli

open DeviceCli.Json

namespace Pattern

/-- Reads a pattern. -/
def ofJson : Json → Except Mismatch Pattern
  | .string source => match compile source with
    | .ok p => pure p
    | .error e => throw (.invalidPattern source e)
  | _ => throw (.wrongKind "a regular expression string")

/-- Writes a pattern. -/
def toJson (p : Pattern) : Json := .string p.source

end Pattern

namespace Step

/-- The members of a step, in order. -/
def memberNames : List String :=
  ["cmd", "noCr", "waitBefore", "waitAfter", "timeout", "options", "target"]

/-- Reads a step. -/
def ofJson (d : Dialect) (j : Json) : Except Mismatch Step := do
  let row ← record d true memberNames j
  pure
    { cmd := ← optional row "cmd" asString
      noCr := ← withDefault row "noCr" asBool false
      waitBefore := ← optional row "waitBefore" asNat
      waitAfter := ← optional row "waitAfter" asNat
      timeout := ← optional row "timeout" asNat
      options := ← required row "options" asStrings
      target := ← optional row "target" asString }

/-- Writes a step. -/
def toJson (step : Step) : Json :=
  .object <|
    memberIf "cmd" .string step.cmd ++
    [("noCr", .bool step.noCr)] ++
    memberIf "waitBefore" ofNat step.waitBefore ++
    memberIf "waitAfter" ofNat step.waitAfter ++
    memberIf "timeout" ofNat step.timeout ++
    [("options", ofStrings step.options)] ++
    memberIf "target" .string step.target

end Step

namespace Pager

/-- The members of a pager, in order. -/
def memberNames : List String := ["match", "response", "avoid"]

/-- One command, or a list of them. -/
def commandsOfJson : Json → Except Mismatch (List String)
  | .string command => pure [command]
  | j => asStrings j

/-- Reads a pager. -/
def ofJson (d : Dialect) (j : Json) : Except Mismatch Pager := do
  let row ← record d true memberNames j
  pure
    { detect := ← optional row "match" Pattern.ofJson
      response := ← optional row "response" asString
      avoid := ← withDefault row "avoid" commandsOfJson [] }

/-- Writes a pager. -/
def toJson (pager : Pager) : Json :=
  .object <|
    memberIf "match" Pattern.toJson pager.detect ++
    memberIf "response" .string pager.response ++
    (if pager.avoid.isEmpty then [] else [("avoid", ofStrings pager.avoid)])

end Pager

namespace Mode

/-- The members of a mode, in order. -/
def memberNames : List String := ["prompt", "error", "fail", "clearPrompt", "pager", "macros"]

/-- Reads a mode. -/
def ofJson (d : Dialect) (j : Json) : Except Mismatch Mode := do
  let row ← record d true memberNames j
  pure
    { prompt := ← required row "prompt" Pattern.ofJson
      error := ← optional row "error" Pattern.ofJson
      fail := ← optional row "fail" asString
      clearPrompt := ← withDefault row "clearPrompt" asBool false
      pager := ← optional row "pager" (Pager.ofJson d)
      macros := ← withDefault row "macros" (asKeyed (Step.ofJson d)) Keyed.empty }

/-- Writes a mode. -/
def toJson (mode : Mode) : Json :=
  .object <|
    [("prompt", mode.prompt.toJson)] ++
    memberIf "error" Pattern.toJson mode.error ++
    memberIf "fail" .string mode.fail ++
    [("clearPrompt", .bool mode.clearPrompt)] ++
    memberIf "pager" Pager.toJson mode.pager ++
    (if mode.macros.isEmpty then [] else [("macros", ofKeyed Step.toJson mode.macros)])

end Mode

/-- Reads modes by name. -/
def modesOfJson (d : Dialect) (j : Json) : Except Mismatch (Keyed Mode) :=
  asKeyed (Mode.ofJson d) j

end DeviceCli
