import DeviceCli.Failure
import DeviceCli.Screen.Echo

/-!
# Connections to a device

A `Link σ` says how a connection in a state of type `σ` behaves: it sends a text and waits until
one of the prompts that were offered comes back, and it can let time pass. Nothing else is known of
it, so what is proved for every `Link` holds whatever the device does.

* `Request` and `Exchange` are what goes out and what comes back;
* `AsyncLink.blocking` waits for a connection that may not answer, up to the time allowed.
-/

namespace DeviceCli

/-- A text to send, the patterns of the prompts to wait for, and how long to wait. -/
structure Request where
  text : String
  prompts : List String
  timeout : Option Nat := none
  deriving DecidableEq, Inhabited

/-- What came back: the output without the prompt, the whole of it, which of the prompts it was,
    and the groups of the match, the whole match first. -/
structure Exchange where
  output : String
  fullOutput : String
  matchIndex : Nat
  groups : List (Option String)
  deriving DecidableEq, Inhabited

namespace Exchange

/-- An exchange whose prompt is behind its output. -/
def ofMatch (output matched : String) (index : Nat) : Exchange :=
  ⟨output, output ++ matched, index, [some matched]⟩

/-- The exchange with other groups behind the whole match. -/
def withGroups (x : Exchange) (groups : List (Option String)) : Exchange :=
  { x with groups := x.groups.take 1 ++ groups }

/-- The text of a group. -/
def group? (x : Exchange) (i : Nat) : Option String := (x.groups[i]?).getD none

end Exchange

/-- How a connection behaves. -/
structure Link (σ : Type) where
  send : σ → Request → Except Failure Exchange × σ
  /-- lets so many milliseconds pass -/
  sleep : σ → Nat → σ
  /-- takes the echo of a command off an output -/
  dropEcho : σ → String → String → String := fun _ => Screen.dropEcho

/-- The connection that gives the answers of a list, one to a request, and none behind them. -/
def Link.canned : Link (List (Except Failure Exchange)) where
  send
    | [], request => (.error (.timeout request.timeout ""), [])
    | answer :: rest, _ => (answer, rest)
  sleep answers _ := answers

/-- How a connection behaves that may not answer at all. -/
structure AsyncLink (σ : Type) where
  /-- the answer, none if there will never be one -/
  send : σ → Request → Option (Except Failure Exchange) × σ
  sleep : σ → Nat → σ
  dropEcho : σ → String → String → String := fun _ => Screen.dropEcho

/-- Waits for each answer. One that does not come is reported when the time allowed is over, with
    nothing received; without a time allowed the wait is reported without a duration. -/
def AsyncLink.blocking {σ : Type} (l : AsyncLink σ) : Link σ where
  send device request :=
    match l.send device request with
    | (some answer, device) => (answer, device)
    | (none, device) => (.error (.timeout request.timeout ""), device)
  sleep := l.sleep
  dropEcho := l.dropEcho

end DeviceCli
