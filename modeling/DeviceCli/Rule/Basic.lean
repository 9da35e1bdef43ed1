import DeviceCli.Rule.Provider
import DeviceCli.Rule.Verdict
import DeviceCli.Section

/-!
# Rules

A `Rule` reads from a provider and returns a JSON value, or fails. `Rule.evaluate` always comes to a
verdict: whatever fails or cannot be used makes the rule invalid, with the failure as the comment.
-/

namespace DeviceCli

/-- A check of a device. -/
abbrev Rule := Provider → Except Failure Json

namespace Rule

/-- The comment on a rule that failed. -/
def failureComment (f : Failure) : String := s!"error while running the rule: {f.message}"

/-- The verdict of a rule. -/
def evaluate (rule : Rule) (p : Provider) : Verdict :=
  match (rule p).bind Verdict.ofReturned with
  | .ok verdict => verdict
  | .error f => .invalid (failureComment f)

end Rule

end DeviceCli
