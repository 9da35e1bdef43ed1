import DeviceCli.Device.Scripted

/-!
# A device that replays outcomes

A `Replay` device is a scripted one whose queue may also hold whole exchanges, failures of any kind,
and answers that never come. What is a reply of a scripted device is treated as there.
-/

namespace DeviceCli

/-- A prepared outcome of a send. -/
inductive Outcome where
  | reply (r : Reply)
  | exchange (x : Exchange)
  | fails (f : Failure)
  | silence
  deriving DecidableEq, Inhabited

/-- A device with prepared outcomes, and the record of what was done to it. -/
structure Replay where
  outcomes : List Outcome := []
  sent : List Request := []
  sleeps : List Nat := []
  deriving DecidableEq, Inhabited

namespace Replay

/-- The device with one more outcome behind the others. -/
def queue (d : Replay) (o : Outcome) : Replay := { d with outcomes := d.outcomes ++ [o] }

/-- How many outcomes are left. -/
def pending (d : Replay) : Nat := d.outcomes.length

/-- What a request yields when the next outcome is the one given. -/
def answer (outcome : Option Outcome) (request : Request) : Option (Except Failure Exchange) :=
  match outcome with
  | none => some (Scripted.answer none request)
  | some (.reply r) => some (Scripted.answer (some r) request)
  | some (.exchange x) => some (.ok x)
  | some (.fails f) => some (.error f)
  | some .silence => none

/-- The connection to a replaying device. -/
def asyncLink : AsyncLink Replay where
  send d request :=
    (answer d.outcomes.head? request,
      { d with outcomes := d.outcomes.tail, sent := d.sent ++ [request] })
  sleep d ms := { d with sleeps := d.sleeps ++ [ms] }

/-- The connection, with a wait for each answer. -/
def link : Link Replay := asyncLink.blocking

end Replay

end DeviceCli
