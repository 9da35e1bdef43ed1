import DeviceCli.Failure
import DeviceCli.Json.Printer
import DeviceCli.Json.Record
import DeviceCli.Json.Skip

/-!
# Verdicts

A `Verdict` is what a rule finds about a device: a `Finding` and a comment.

* `Verdict.ofReturned` makes a verdict of what a rule returned: the name of a result, or an object
  with one. That the rule is invalid is a result that no rule may return.
* `Verdict.ofJson`, `parse` and `toJson` read and write verdicts in documents, where that result may
  stand.
-/

namespace DeviceCli

open DeviceCli.Json

/-- What a rule finds. -/
inductive Finding where
  | conforming | nonconforming | notApplicable
  /-- the rule failed, or returned something unusable -/
  | invalidRule
  deriving DecidableEq, Inhabited

namespace Finding

/-- The name of a result. -/
def name : Finding → String
  | conforming => "CONFORMING"
  | nonconforming => "NONCONFORMING"
  | notApplicable => "NOTAPPLICABLE"
  | invalidRule => "INVALIDRULE"

/-- The result of a name. -/
def named? : String → Option Finding
  | "CONFORMING" => some conforming
  | "NONCONFORMING" => some nonconforming
  | "NOTAPPLICABLE" => some notApplicable
  | "INVALIDRULE" => some invalidRule
  | _ => none

/-- The result of a name that a rule may return. -/
def parse (s : String) : Except Failure Finding :=
  match s with
  | "CONFORMING" => .ok conforming
  | "NONCONFORMING" => .ok nonconforming
  | "NOTAPPLICABLE" => .ok notApplicable
  | _ => .error (.argument (.unknownResult s))

/-- Reads a result. -/
def ofJson (j : Json) : Except Mismatch Finding := do
  let s ← asVariant .json j
  match named? s with
  | some r => pure r
  | none => throw (.unknownVariant s)

end Finding

/-- A result with a comment, which is empty if there is none. -/
structure Verdict where
  result : Finding
  comment : String := ""
  deriving DecidableEq, Inhabited

namespace Verdict

/-- The verdict that a rule is invalid, with the reason. -/
def invalid (reason : String) : Verdict := ⟨.invalidRule, reason⟩

/-- The verdict that a rule returned: the name of a result, or an object with the name and a
    comment. A comment that is no string does not count. -/
def ofReturned : Json → Except Failure Verdict
  | .string s => do
    let result ← Finding.parse s
    pure { result }
  | .object members =>
    match (Json.object members).member? "result" with
    | some (.string s) => do
      let result ← Finding.parse s
      let comment := ((Json.object members).member? "comment").bind asString?
      pure { result, comment := comment.getD "" }
    | _ => .error (.argument .noResult)
  | other => .error (.argument (.unusableResult other.canonical.compact))

/-- The members of a verdict in documents. -/
def members : List String := ["result", "comment"]

/-- Reads a verdict. -/
def ofJson (j : Json) : Except Mismatch Verdict := do
  let row ← record .json false members j
  pure
    { result := ← required row "result" Finding.ofJson
      comment := ← withDefault row "comment" asString "" }

/-- Reads the text of a verdict, whose other members are passed over unread. -/
def parse (text : String) : Except Mismatch Verdict :=
  match parsePicked? members text with
  | some j => ofJson j
  | none => throw (.invalid "malformed document")

/-- Writes a verdict. -/
def toJson (v : Verdict) : Json :=
  .object [("result", .string v.result.name), ("comment", .string v.comment)]

end Verdict

end DeviceCli
