import DeviceCli.Failure
import DeviceCli.Keyed
import DeviceCli.Pattern

/-!
# Modes of a command line

A device's command line is always in some `Mode`, which its prompt shows. A mode declares

* the pattern of its prompt and, optionally, the pattern by which it reports errors;
* whether being in it is a dead end;
* a `Pager`: how a long output stops for a key, what to answer, and commands to avoid it;
* macros: each a `Step` that sends a text and waits for the prompt of one of several modes.

Durations are in milliseconds.
-/

namespace DeviceCli

/-- A macro's action: send a command and see in which of some modes the device is then. -/
structure Step where
  /-- the command, none to send nothing but wait -/
  cmd : Option String := none
  /-- send the command without a line ending -/
  noCr : Bool := false
  waitBefore : Option Nat := none
  waitAfter : Option Nat := none
  timeout : Option Nat := none
  /-- the modes the device may be in afterwards -/
  options : List String
  /-- the mode that the macro is meant to reach -/
  target : Option String := none
  deriving DecidableEq, Inhabited

/-- What the step sends. -/
def Step.outgoing (step : Step) (lineEnding : String) : String :=
  match step.cmd with
  | some cmd => if step.noCr then cmd else cmd ++ lineEnding
  | none => ""

/-- How a mode's output stops in pages. -/
structure Pager where
  /-- what the device shows when a page is full -/
  detect : Option Pattern := none
  /-- what to send for the next page -/
  response : Option String := none
  /-- commands that switch paging off -/
  avoid : List String := []
  deriving Inhabited

/-- A pager that can be detected needs a response. -/
def Pager.validate (pager : Pager) (mode : String) : Except Misconfiguration Unit :=
  match pager.detect, pager.response with
  | some _, none => throw (.pagerWithoutResponse mode)
  | _, _ => pure ()

/-- A mode of a command line. -/
structure Mode where
  prompt : Pattern
  error : Option Pattern := none
  /-- a message if being in the mode is a dead end -/
  fail : Option String := none
  /-- commands in the mode may change the prompt -/
  clearPrompt : Bool := false
  pager : Option Pager := none
  macros : Keyed Step := Keyed.empty
  deriving Inhabited

/-- The macro that a chain of macros goes on with where there is one. -/
def autoMacro : String := "auto"

end DeviceCli
