import Std.Data.HashSet
import DeviceCli.Regex.Program

/-!
# Searching a text

A program runs as a list of threads in order of preference, one character at a time. At each
position an instruction is entered once, by the thread that prefers it most, so a run is bounded
by the length of the text and the size of the program.

* `Program.close` follows the instructions that take no character;
* `Program.withStart` lets a match begin at a position, behind all threads that began further left;
* `Program.search` goes over a text once and gives the slots of the leftmost match, and among
  those of the one that the pattern prefers.
-/

namespace DeviceCli.Regex

open DeviceCli.Text

/-- A position in a text: how many characters are before it, and the ones next to it. -/
structure View where
  pos : Nat
  before : Option Char
  after : Option Char

/-- A word character of ASCII. -/
def isAsciiWord (c : Char) : Bool := isLatinLetter c || isDigit c || c == '_'

/-- A word character of Unicode. -/
def isWord (c : Char) : Bool := if c.toNat < 128 then isAsciiWord c else wordCodes.has c

/-- Whether there is a word character. -/
def isWordAt (unicode : Bool) : Option Char → Bool
  | none => false
  | some c => if unicode then isWord c else isAsciiWord c

/-- Whether a condition holds at a position. -/
def Look.holds (v : View) : Look → Bool
  | textStart => v.before.isNone
  | textEnd => v.after.isNone
  | lineStart => v.before.isNone || v.before == some '\n'
  | lineEnd => v.after.isNone || v.after == some '\n'
  | crlfStart =>
    v.before.isNone || v.before == some '\n' || (v.before == some '\r' && v.after != some '\n')
  | crlfEnd =>
    v.after.isNone || v.after == some '\r' || (v.after == some '\n' && v.before != some '\r')
  | boundary u => isWordAt u v.before != isWordAt u v.after
  | notBoundary u => isWordAt u v.before == isWordAt u v.after
  | wordStart u => !isWordAt u v.before && isWordAt u v.after
  | wordEnd u => isWordAt u v.before && !isWordAt u v.after
  | wordStartHalf u => !isWordAt u v.before
  | wordEndHalf u => !isWordAt u v.after

/-- The positions noted so far: slot `2k` is where group `k` begins, slot `2k + 1` where it
    ends. -/
abbrev Slots := List (Nat × Nat)

/-- Notes a position in a slot, in place of an earlier one. -/
def Slots.note (slots : Slots) (slot pos : Nat) : Slots :=
  (slot, pos) :: slots.filter (·.1 != slot)

/-- A thread: the instruction it stands at and the positions it has noted. -/
structure Thread where
  pc : Nat
  slots : Slots
  deriving Inhabited

/-- Threads under construction: the instructions entered at this position, and the threads that
    wait for a character or have matched, the least preferred first. -/
structure Frontier where
  seen : Std.HashSet Nat := {}
  threads : List Thread := []
  deriving Inhabited

namespace Program

variable (p : Program)

/-- Enters the instructions that threads stand at, the most preferred first, and follows them as
    far as no character is taken. -/
def close (v : View) : Nat → List Thread → Frontier → Frontier
  | 0, _, f => f
  | _, [], f => f
  | fuel + 1, t :: todo, f =>
    if f.seen.contains t.pc then close v fuel todo f
    else
      let entered : Frontier := { f with seen := f.seen.insert t.pc }
      match p.insts[t.pc]? with
      | none => close v fuel todo entered
      | some (.look l next) =>
        close v fuel (if l.holds v then ⟨next, t.slots⟩ :: todo else todo) entered
      | some (.save slot next) => close v fuel (⟨next, t.slots.note slot v.pos⟩ :: todo) entered
      | some (.split first second) =>
        close v fuel (⟨first, t.slots⟩ :: ⟨second, t.slots⟩ :: todo) entered
      | some _ => close v fuel todo { entered with threads := t :: entered.threads }

/-- Enough steps to enter every instruction once: each makes at most two threads more. -/
def fuel : Nat := 2 * p.insts.size + 2

/-- The threads that are preferred to the first one that has matched, and the slots of that
    one. -/
def upToMatch : List Thread → List Thread × Option Slots
  | [] => ([], none)
  | t :: rest =>
    match p.insts[t.pc]? with
    | some .accept => ([], some t.slots)
    | _ => let (live, found) := upToMatch rest; (t :: live, found)

/-- Lets one thread take a character, if its instruction takes that one. -/
def takeOne (c : Char) (v : View) (f : Frontier) (t : Thread) : Frontier :=
  match p.insts[t.pc]? with
  | some (.char d next) => if c = d then p.close v p.fuel [⟨next, t.slots⟩] f else f
  | some (.take members next) =>
    if members.has c then p.close v p.fuel [⟨next, t.slots⟩] f else f
  | _ => f

/-- The threads behind one character. -/
def takeChar (c : Char) (v : View) (threads : List Thread) : Frontier :=
  threads.foldl (p.takeOne c v) {}

/-- Lets a match begin at a position, unless one has been found. The new thread is preferred to
    none of those that are there, so a match that begins further left wins. -/
def withStart (v : View) (found : Option Slots) (f : Frontier) : Frontier :=
  if found.isSome then f else p.close v p.fuel [⟨p.start, []⟩] f

/-- Runs over the rest of a text. The threads in `f` have come to its front; `found` is the best
    match so far, and all of them are preferred to it. -/
def searchFrom (pos : Nat) (before : Option Char) :
    List Char → Frontier → Option Slots → Option Slots
  | [], f, found =>
    (p.upToMatch (p.withStart ⟨pos, before, none⟩ found f).threads.reverse).2.or found
  | c :: rest, f, found =>
    let (live, now) := p.upToMatch (p.withStart ⟨pos, before, some c⟩ found f).threads.reverse
    let found := now.or found
    if live.isEmpty && found.isSome then found
    else searchFrom (pos + 1) (some c) rest (p.takeChar c ⟨pos + 1, some c, rest.head?⟩ live) found

/-- The leftmost match in a text. -/
def search (text : List Char) : Option Slots := p.searchFrom 0 none text {} none

end Program

end DeviceCli.Regex
