import DeviceCli.Regex.Basic
import DeviceCli.Text.Duration
import DeviceCli.Text.Line

/-!
# What can fail

Every failure says its cause. The causes are grouped by how the author of a driver has to react:

* `Misconfiguration`: a definition, a profile or a setting is missing or malformed;
* `InvalidArgument`: a script passed something that cannot be used;
* the transport failed, with what had been received so far where it is known;
* a walk between modes ended elsewhere than at its target, or the device reported an error.

`Failure.message` is the one place where failures are put into words.
-/

namespace DeviceCli

open DeviceCli.Text

/-! ## 1. Causes -/

/-- What is missing or malformed in a definition, a profile or a setting. -/
inductive Misconfiguration where
  | emptyModeName
  | emptyMacroName (mode : String)
  | emptyOptions (name mode : String)
  | unknownOption (name mode option : String)
  | unknownTarget (name mode target : String)
  | pagerWithoutResponse (mode : String)
  | noSuchMode (mode : String)
  | noMacros (mode : String)
  | noSuchMacro (name mode : String)
  | noTarget (name mode : String)
  | unknownLogFormat (name : String)
  | unreadableVariable (name raw reason : String)
  | notBoolean (name raw : String)
  | unknownProfileFormat (path : String)
  | noSuchProfile (name : String)
  | snapshotWithoutStore
  | runWithoutStore
  | diagnosticsWithoutStore
  | noRunRoutine
  | noDiagnoseRoutine (diagnostic : String)
  | stated (text : String)
  deriving DecidableEq, Inhabited

/-- What makes an argument unusable. -/
inductive InvalidArgument where
  | sectionPattern (error : Regex.Error)
  | sleepDuration (ms : Int)
  | unknownFunction (name : String)
  | unknownDownloadMethod (name : String)
  | unknownResult (name : String)
  | noResult
  | unusableResult (json : String)
  | undefinedValue
  | undefinedFor (operation key : String)
  | emptyKey (operation : String)
  | emptyFileName
  | addUnavailable
  | stated (text : String)
  deriving DecidableEq

/-- A failure of any operation. Durations and limits are counted in milliseconds and in hops. -/
inductive Failure where
  | definition (cause : Misconfiguration)
  /-- the transport failed; `buffer` is what had been received -/
  | transport (context message : String) (buffer : Option String)
  /-- the device is in a mode that is declared a dead end -/
  | deadEnd (mode message : String)
  /-- a chain of macros ended in a mode that is not its target -/
  | chainEnded (name origin target reached : String)
  /-- a chain of macros took more hops than allowed -/
  | tooManyHops (limit : Nat)
  /-- the error pattern of a mode matched the output of a command -/
  | reported (detail : Option String) (command : String)
  | argument (cause : InvalidArgument)
  | pattern (error : Regex.Error)
  /-- a file could not be read -/
  | file (context reason : String)
  /-- a text is no TOML document of the kind asked for -/
  | toml (reason : String)
  /-- a text or a value is no JSON document of the kind asked for -/
  | json (reason : String)
  deriving DecidableEq

/-! ## 2. Words -/

/-- A misconfiguration in words. -/
def Misconfiguration.message : Misconfiguration → String
  | emptyModeName => "mode with an empty name"
  | emptyMacroName mode => s!"mode {mode} has a macro with an empty name"
  | emptyOptions name mode => s!"macro {name} in mode {mode} has an empty options list"
  | unknownOption name mode option => s!"macro {name} in mode {mode} lists unknown mode '{option}' in options"
  | unknownTarget name mode target => s!"macro {name} in mode {mode} targets unknown mode '{target}'"
  | pagerWithoutResponse mode => s!"in CLI mode {mode} the pager response is not a string"
  | noSuchMode mode => s!"no mode {mode} in CLI"
  | noMacros mode => s!"no macros in mode {mode} in CLI"
  | noSuchMacro name mode => s!"can't find macro {name} in macros of mode {mode} in CLI"
  | noTarget name mode => s!"can't find target in macro {name} of mode {mode} in CLI"
  | unknownLogFormat name => s!"unknown log format '{name}'"
  | unreadableVariable name raw reason => s!"{name}='{raw}': {reason}"
  | notBoolean name raw => s!"{name}='{raw}' is not a boolean"
  | unknownProfileFormat path => s!"unknown profile format: {path}"
  | noSuchProfile name => s!"profile not found: {name}"
  | snapshotWithoutStore => "snapshot needs a configuration store"
  | runWithoutStore => "run needs a configuration store"
  | diagnosticsWithoutStore => "diagnostics need a diagnostic store"
  | noRunRoutine => "No 'run' function"
  | noDiagnoseRoutine diagnostic => s!"No 'diagnose' function for diagnostic {diagnostic}"
  | stated text => text

/-- An unusable argument in words. -/
def InvalidArgument.message : InvalidArgument → String
  | sectionPattern error => s!"invalid regex parameter in find_sections: {error.message}"
  | sleepDuration ms => s!"invalid sleep duration {ms} ms"
  | unknownFunction name => s!"unknown driver function '{name}'"
  | unknownDownloadMethod name => s!"invalid download method {name}"
  | unknownResult name => s!"invalid rule result '{name}'"
  | noResult => "rule returned no result"
  | unusableResult json => s!"rule returned an unusable value: {json}"
  | undefinedValue => "undefined value"
  | undefinedFor operation key => s!"undefined value used in {operation}, for key {key}"
  | emptyKey operation => s!"the key should be a non-empty string in {operation}"
  | emptyFileName => "the remote file name should be a non-empty string in config.download"
  | addUnavailable => "device.add is not available here"
  | stated text => text

namespace Failure

/-- The longest buffer, in bytes, that is shown whole. -/
def wholeBufferLimit : Nat := 500

/-- How many rows at the end of a longer buffer are shown. -/
def tailRows : Nat := 6

/-- Rows one below the other behind a bar. -/
def barred (rows : List (List Char)) : String :=
  String.ofList (joinWith "\n│ ".toList rows)

/-- A buffer as a framed excerpt: the whole of a short one, the last rows of a longer one. -/
def excerpt (buffer : String) : String :=
  let size := buffer.utf8ByteSize
  let all := rows buffer.toList
  if size = 0 then "(empty buffer)"
  else if size ≤ wholeBufferLimit then
    s!"┌─ buffer ({size} bytes) ──────────────────────\n│ {barred all}\n└────────────────────────────────────────"
  else
    let shown := all.drop (all.length - tailRows)
    let hidden := all.length - shown.length
    s!"┌─ buffer ({size} bytes, {all.length} lines) ─────────────\n│ ... ({hidden} lines hidden)\n│ {barred shown}\n└────────────────────────────────────────"

/-- A failure in words. -/
def message : Failure → String
  | definition cause => s!"configuration error: {cause.message}"
  | transport context text none => s!"{context}: {text}"
  | transport context text (some buffer) => s!"{context}: {text}\n\n{excerpt buffer}"
  | deadEnd mode text => s!"in mode {mode}: {text}"
  | chainEnded name origin target reached =>
    s!"couldn't switch to mode {target} using macro {name} from mode {origin} (reached mode {reached})"
  | tooManyHops limit => s!"too many steps while switching to a new mode (limit is {limit})"
  | reported (some detail) command =>
    s!"CLI error returned by the device: '{detail}' after command '{command}'"
  | reported none command => s!"CLI error returned by the device after command '{command}'"
  | argument cause => s!"invalid input: {cause.message}"
  | pattern error => s!"invalid regex pattern: {error.message}"
  | file context reason => s!"{context}: {reason}"
  | toml reason => s!"invalid TOML profile: {reason}"
  | json reason => s!"invalid JSON: {reason}"

/-! ## 3. Reading and changing failures -/

/-- No prompt that was offered came, within the time allowed if one was. -/
def timeout (after : Option Nat) (received : String) : Failure :=
  let text := match after with
    | some ms => s!"timeout after {durationText ms} waiting for a prompt"
    | none => "timeout waiting for a prompt"
  transport "no expected prompt received" text (some received)

/-- A failure of the transport told in another context; other failures stay. -/
def inContext (context : String) : Failure → Failure
  | transport _ text buffer => transport context text buffer
  | other => other

/-- Whether a definition, a profile or a setting is to blame. -/
def isConfig : Failure → Bool
  | definition _ | pattern _ | toml _ | json _ | file _ _ => true
  | _ => false

/-- Whether the transport failed. -/
def isTransport : Failure → Bool
  | transport _ _ _ => true
  | _ => false

/-- Whether the device reported the error. -/
def isReported : Failure → Bool
  | reported _ _ => true
  | _ => false

/-- Whether a script passed something unusable. -/
def isArgument : Failure → Bool
  | argument _ => true
  | _ => false

/-- Whether a chain of macros did not reach its target. -/
def isChain : Failure → Bool
  | chainEnded _ _ _ _ | tooManyHops _ | deadEnd _ _ => true
  | _ => false

/-- What had been received before the failure, where it is known. -/
def buffer? : Failure → Option String
  | transport _ _ buffer => buffer
  | _ => none

end Failure

end DeviceCli
