import DeviceCli.Settings.Engine
import DeviceCli.Text.Numeral
import DeviceCli.Text.Blank

/-!
# Settings from variables

An `Environment` gives variables by name. A setting is looked up under its name in upper case,
behind a prefix and an underscore.

* `Environment.nat?`, `int?`, `flag?` and `format?` read a variable as a value of some kind, if it
  is set; the blanks around it do not count;
* `Engine.withEnvironment` replaces exactly the settings whose variables are set.
-/

namespace DeviceCli

open DeviceCli.Text

/-- A reader of variables. -/
structure Environment where
  /-- what is in front of the name of a setting; nothing if it is empty -/
  lead : String
  lookup : String → Option String

namespace Environment

/-- The environment of a list of variables, under a prefix. -/
def ofList (lead : String) (assigned : List (String × String)) : Environment :=
  ⟨lead, fun name => assigned.lookup name⟩

/-- The prefix of the program's own settings. -/
def ownLead : String := "CLIMODE"

variable (env : Environment)

/-- The name of the variable of a setting. -/
def variableName (name : String) : String :=
  if env.lead.isEmpty then upper name else env.lead ++ "_" ++ upper name

/-- The text of a variable, if it is set. -/
def get? (name : String) : Option String := env.lookup (env.variableName name)

/-- Whether a variable is set. -/
def isSet (name : String) : Bool := (env.get? name).isSome

/-- Reads a variable, if it is set, and puts its name and text into the error. -/
def read? {α : Type} (name : String) (parse : String → Except String α) :
    Except Misconfiguration (Option α) :=
  match env.get? name with
  | none => .ok none
  | some raw => match parse (trim raw) with
    | .ok a => .ok (some a)
    | .error reason => .error (.unreadableVariable (env.variableName name) raw reason)

/-- A natural number up to a limit. -/
def nat? (limit : Nat) (name : String) : Except Misconfiguration (Option Nat) :=
  env.read? name fun s => (parseNat limit s.toList).mapError NumeralError.message

/-- An integer between bounds. -/
def int? (least most : Nat) (name : String) : Except Misconfiguration (Option Int) :=
  env.read? name fun s => (parseInt least most s.toList).mapError NumeralError.message

/-- A log format. -/
def format? (name : String) : Except Misconfiguration (Option LogFormat) :=
  env.read? name fun s => (LogFormat.parse s).mapError fun e => (Failure.definition e).message

/-- The truth value that a word stands for, if it is one of the words for one. -/
def flagWord? : String → Option Bool
  | "1" | "true" | "yes" | "on" | "enabled" => some true
  | "0" | "false" | "no" | "off" | "disabled" | "" => some false
  | _ => none

/-- A truth value, written as a word in any case. Only words of the letters A to Z are such words,
    and no other letter has one of theirs as its lower case, so lowering A to Z suffices. -/
def flag? (name : String) : Except Misconfiguration (Option Bool) :=
  match env.get? name with
  | none => .ok none
  | some raw => match flagWord? (lowerLatin (trim raw)) with
    | some b => .ok (some b)
    | none => .error (.notBoolean (env.variableName name) raw)

end Environment

/-! ## 1. Overlaying settings -/

/-- The settings with those replaced whose variables are set. -/
def Engine.withEnvironment (e : Engine) (env : Environment) : Except Misconfiguration Engine := do
  let hops ← env.nat? maxNat64 "MAX_MACRO_HOPS"
  let timeout ← env.nat? maxNat64 "COMMAND_TIMEOUT_MS"
  let strip ← env.flag? "STRIP_ANSI"
  let filter := env.get? "LOG_FILTER"
  let format ← env.format? "LOG_FORMAT"
  pure
    { e with
      maxHops := hops.getD e.maxHops
      commandTimeout := timeout.or e.commandTimeout
      stripControls := strip.getD e.stripControls
      logging :=
        { filter := filter.getD e.logging.filter
          format := format.getD e.logging.format } }

end DeviceCli
