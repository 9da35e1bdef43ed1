import DeviceCli.Device.Link
import DeviceCli.Keyed
import DeviceCli.Regex.Basic

/-!
# A scripted device

A `Scripted` device gives prepared replies, one for each text that is sent, in the order in which
they were queued, and records what was sent and slept.

* `matchPrompts` looks for the first prompt that matches a reply, with `^` and `$` at line ends; it
  splits the reply into what is around the match and the match;
* `compiled` keeps each pattern it has compiled, so that a prompt offered again is not read again;
* `answer` is what a send yields for a reply where nothing has been kept.
-/

namespace DeviceCli

/-- A prepared reply: what the device prints, or a failure of the connection. -/
inductive Reply where
  | text (s : String)
  | failure (message : String)
  deriving DecidableEq, Inhabited

/-- A device with prepared replies, the record of what was done to it, and the prompts that have
    been compiled so far. -/
structure Scripted where
  replies : List Reply := []
  sent : List Request := []
  sleeps : List Nat := []
  patterns : Keyed Regex := .empty
  deriving DecidableEq, Inhabited

namespace Scripted

/-- The device with those replies. -/
def ofReplies (replies : List Reply) : Scripted := { replies }

/-- The device with one more reply behind the others. -/
def queue (d : Scripted) (reply : Reply) : Scripted := { d with replies := d.replies ++ [reply] }

/-- How many replies are left. -/
def pending (d : Scripted) : Nat := d.replies.length

/-- How many texts have been sent. -/
def sendCount (d : Scripted) : Nat := d.sent.length

/-- The exchange of a reply that a prompt matched. -/
def exchangeOf (reply : String) (index : Nat) (m : Match) : Exchange :=
  ⟨m.without, reply, index, m.groupTexts⟩

/-- The pattern of a prompt, and the patterns kept from then on. One that is kept is not compiled
    again; what is no pattern is not kept. -/
def compiled (patterns : Keyed Regex) (source : String) : Except Failure (Regex × Keyed Regex) :=
  match patterns.get? source with
  | some pattern => .ok (pattern, patterns)
  | none => match Regex.compileMultiLine source with
    | .error e => .error (.transport "compiling prompt pattern" e.message none)
    | .ok pattern => .ok (pattern, patterns.insert source pattern)

/-- Tries the prompts from an index on; a pattern that cannot be compiled ends the search. -/
def matchPrompts (reply : String) (timeout : Option Nat) :
    Nat → List String → Keyed Regex → Except Failure Exchange × Keyed Regex
  | _, [], patterns => (.error (.timeout timeout reply), patterns)
  | index, source :: rest, patterns =>
    match compiled patterns source with
    | .error f => (.error f, patterns)
    | .ok (pattern, patterns) =>
      match pattern.find? reply with
      | some m => (.ok (exchangeOf reply index m), patterns)
      | none => matchPrompts reply timeout (index + 1) rest patterns

/-- What a request yields when the next reply is the one given, and the patterns kept from then
    on. -/
def respond (reply : Option Reply) (request : Request) (patterns : Keyed Regex) :
    Except Failure Exchange × Keyed Regex :=
  match reply with
  | none => (.error (.timeout request.timeout ""), patterns)
  | some (.failure message) => (.error (.transport "scripted device" message none), patterns)
  | some (.text reply) => matchPrompts reply request.timeout 0 request.prompts patterns

/-- What a request yields when the next reply is the one given and no pattern has been kept. -/
def answer (reply : Option Reply) (request : Request) : Except Failure Exchange :=
  (respond reply request .empty).1

/-- Sends a text: it is recorded, and one reply is used up. -/
def send (d : Scripted) (request : Request) : Except Failure Exchange × Scripted :=
  let (result, patterns) := respond d.replies.head? request d.patterns
  (result, { d with replies := d.replies.tail, sent := d.sent ++ [request], patterns })

/-- Lets time pass: it is recorded. -/
def sleep (d : Scripted) (ms : Nat) : Scripted := { d with sleeps := d.sleeps ++ [ms] }

/-- The connection to a scripted device. -/
def link : Link Scripted where
  send := send
  sleep := sleep

end Scripted

end DeviceCli
