import Std.Data.HashMap
import DeviceCli.Regex.ByteRanges
import DeviceCli.Regex.Node

/-!
# The size of a pattern

A pattern is charged for the states of two machines that read a text byte by byte: one reads it
forward and notes captures, the other reads it backward. A state takes 32 bytes, each range of
bytes that a state with several tells apart takes 8, and each branch of a split takes 4. States are
numbered in the order in which they are laid out.

* `Node.lay` lays out a pattern; repetitions are laid out as often as their counts say, until the
  limit is passed;
* `LayOut.set` lays out a set of characters, in which equal ends are shared as far as a table of
  fixed size remembers them;
* `Node.tooLarge` says whether one of the two machines is larger than `sizeLimit`.
-/

namespace DeviceCli.Regex

open DeviceCli.Text

/-- The greatest size of a pattern, in bytes. -/
def sizeLimit : Nat := 10 * Nat.pow 2 20

/-- A machine as far as its size goes: how many states it has, and how many bytes they take beside
    the 32 of each. -/
structure Layout where
  states : Nat
  extra : Nat
  deriving DecidableEq, Inhabited, Repr

namespace Layout

/-- The size in bytes. -/
def bytes (m : Layout) : Nat := 32 * m.states + m.extra

/-- Whether the limit is passed. -/
def isFull (m : Layout) : Bool := decide (sizeLimit < m.bytes)

/-- More states, with so many bytes beside them. -/
def add (m : Layout) (states extra : Nat) : Layout := ⟨m.states + states, m.extra + extra⟩

/-- The layout behind a part that is left: leaving a split takes a branch. -/
def leave (m : Layout) (split : Bool) : Layout := m.add 0 (if split then 4 else 0)

end Layout

/-! ## 1. Sets of characters -/

/-- A range of bytes and the state behind it. -/
structure Arc where
  first : Nat
  last : Nat
  next : Nat
  deriving DecidableEq, Inhabited

/-- Mixes numbers into one, 64 bits wide. -/
def mixed (numbers : List Nat) : UInt64 :=
  numbers.foldl (fun h n => (h ^^^ UInt64.ofNat n) * 1099511628211) 14695981039346656037

/-- A layout, and the table of the states that sets share: for each slot the arcs that a state has
    and its number. An entry gives way to a later one of the same slot. -/
structure Sharing where
  layout : Layout
  table : Std.HashMap Nat (List Arc × Nat)

namespace Sharing

/-- How many slots the table has for reading forward. -/
def forwardSlots : Nat := 10000

/-- How many slots the table has for reading backward. -/
def backwardSlots : Nat := 1000

/-- The number that the table has for some arcs. -/
def known? (slot : Nat) (arcs : List Arc) (s : Sharing) : Option Nat :=
  match s.table[slot]? with
  | some (known, number) => if known = arcs then some number else none
  | none => none

/-- The state with some arcs, shared if the table has it, else a new one that takes so many bytes
    beside its own. -/
def state (slot : Nat) (arcs : List Arc) (extra : Nat) (s : Sharing) : Nat × Sharing :=
  match s.known? slot arcs with
  | some number => (number, s)
  | none =>
    let number := s.layout.states
    (number, ⟨s.layout.add 1 extra, s.table.insert slot (arcs, number)⟩)

end Sharing

/-- Rows of byte ranges by their first range, where they follow one another: the range and what the
    rows have behind it. -/
def byFirst : List (List CodeRange) → List (CodeRange × List (List CodeRange))
  | [] => []
  | [] :: rows => byFirst rows
  | (r :: tail) :: rows => match byFirst rows with
    | (r', tails) :: more =>
      if r = r' then (r, tail :: tails) :: more else (r, [tail]) :: (r', tails) :: more
    | [] => [(r, [tail])]

/-- The state that reads one of some rows of byte ranges forward, to end at the state `target`;
    `depth` bounds the length of the rows. -/
def forwardState (target : Nat) : Nat → List (List CodeRange) → Sharing → Nat × Sharing
  | 0, _, s => (target, s)
  | depth + 1, rows, s =>
    let (arcs, s) := (byFirst rows).foldl (fun (arcs, s) (r, tails) =>
      match tails with
      | [] :: _ => (Arc.mk r.first r.last target :: arcs, s)
      | _ =>
        let (next, s) := forwardState target depth tails s
        (Arc.mk r.first r.last next :: arcs, s)) (([] : List Arc), s)
    let arcs := arcs.reverse
    let slot := (mixed (arcs.flatMap fun a => [a.first, a.last, a.next])).toNat
    s.state (slot % Sharing.forwardSlots) arcs (8 * arcs.length)

/-- The states that read one row of byte ranges backward, from the one with the number `next`. -/
def backwardRow (s : Sharing) : Nat → List CodeRange → Nat × Sharing
  | next, [] => (next, s)
  | next, r :: row =>
    let slot := (mixed [next, r.first, r.last]).toNat
    let (number, s) := s.state (slot % Sharing.backwardSlots) [⟨r.first, r.last, next⟩] 0
    backwardRow s number row

/-- Lays out a set of characters. -/
def Layout.set (forward : Bool) (members : CodeSet) (m : Layout) : Layout :=
  if members.isAscii then m.add 2 (8 * members.ranges.size)
  else
    let rows := setByteRanges members
    if forward then
      (forwardState m.states 4 rows ⟨m.add 1 0, {}⟩).2.layout
    else
      let s : Sharing := rows.foldl (fun s row =>
        let s := (backwardRow s (m.states + 1) row).2
        { s with layout := s.layout.leave true }) ⟨m.add 2 0, {}⟩
      s.layout

/-! ## 2. Alternatives that are literals -/

/-- The bytes of a literal in the order in which they are read. -/
def literalBytes (forward : Bool) (chars : List Char) : List Nat :=
  let bytes := chars.flatMap fun c => encodeCode c.toNat
  if forward then bytes else bytes.reverse

/-- Words cut at the empty ones. -/
def cutAtEmpty : List (List Nat) → List (List (List Nat))
  | [] => [[]]
  | [] :: rest => [] :: cutAtEmpty rest
  | word :: rest => match cutAtEmpty rest with
    | chunk :: more => (word :: chunk) :: more
    | [] => [[word]]

/-- The chunks of a state from what stands between the words that end there: of the empty ones in
    front only the first counts, and the last chunk always does. -/
def keptChunks : List (List (List Nat)) → List (List (List Nat))
  | first :: rest =>
    if first.isEmpty then
      match rest.dropWhile (·.isEmpty) with
      | [] => if rest.isEmpty then [first] else [first, []]
      | more => first :: more
    else first :: rest
  | [] => []

/-- The first bytes of some words, each once. -/
def firstBytes (words : List (List Nat)) : List Nat := (words.filterMap List.head?).eraseDups

/-- What some words have behind a first byte. -/
def behindByte (b : Nat) (words : List (List Nat)) : List (List Nat) :=
  words.filterMap fun
    | c :: rest => if c = b then some rest else none
    | [] => none

/-- Lays out the states that read one of some words, a tree in which words share their beginnings
    unless a word that ends there comes between them; `depth` bounds the length of the words. -/
def Layout.tree : Nat → List (List Nat) → Layout → Layout
  | 0, _, m => m
  | depth + 1, words, m =>
    let chunks := keptChunks (cutAtEmpty words)
    let m := chunks.foldl (fun m chunk =>
      let bytes := firstBytes chunk
      let m := bytes.foldl (fun m b =>
        let below := behindByte b chunk
        if below.all (·.isEmpty) then m else m.tree depth below) m
      match bytes.length with
      | 0 => m
      | 1 => m.add 1 0
      | n => m.add 1 (8 * n)) m
    m.add 1 (4 * ((chunks.filter (!·.isEmpty)).length + (chunks.length - 1)))

/-- Lays out alternatives that are literals. -/
def Layout.literals (forward : Bool) (literals : List (List Char)) (m : Layout) : Layout :=
  let words := literals.map (literalBytes forward)
  (m.add 1 0).tree ((words.map List.length).foldl max 0 + 1) words

/-! ## 3. Patterns -/

/-- Where a part stands among alternatives: alone or first, second, or later. -/
inductive Place where
  | first | second | later

/-- Lays out what an alternative needs behind it: the split and the end that all share come behind
    the second one, and each takes a branch and leads to the end. -/
def Place.finish : Place → Layout × Bool → Layout × Bool
  | first, part => part
  | second, (m, split) => ((m.add 2 4).leave split, false)
  | later, (m, split) => ((m.add 0 4).leave split, false)

/-- Lays out a part so many times more in a row, unless the limit is passed. -/
def copies (part : Layout → Layout × Bool) : Nat → Layout × Bool → Layout × Bool
  | 0, done => done
  | n + 1, (m, split) => if m.isFull then (m, split) else copies part n (part (m.leave split))

/-- Lays out a part so many times in a row. -/
def exactly (part : Layout → Layout × Bool) : Nat → Layout → Layout × Bool
  | 0, m => (m.add 1 0, false)
  | n + 1, m => copies part n (part m)

/-- Lays out a part up to so many times, each behind a split that may leave, unless the limit is
    passed. -/
def options (part : Layout → Layout × Bool) : Nat → Layout × Bool → Layout × Bool
  | 0, done => done
  | n + 1, (m, split) =>
    if m.isFull then (m, split) else options part n (part ((m.leave split).add 1 8))

/-- Lays out a repetition. -/
def layRepeats (part : Layout → Layout × Bool) (maybeEmpty : Bool) (count : Count) (m : Layout) :
    Layout × Bool :=
  match count.least, count.most with
  | 0, some 1 =>
    let (m, split) := part (m.add 1 0)
    ((m.add 1 8).leave split, false)
  | 0, none =>
    if maybeEmpty then
      let (m, split) := part m
      ((m.add 3 16).leave split, false)
    else
      let (m, split) := part (m.add 1 4)
      (m.leave split, true)
  | n + 1, none =>
    let (m, split) := copies part n (part m)
    ((m.add 1 4).leave split, true)
  | least, some most =>
    let (m, split) := exactly part least m
    if most ≤ least then (m, split)
    else
      let (m, split) := options part (most - least) (m.add 1 0, split)
      (m.leave split, false)

/-- The literals of alternatives, if all are. -/
def Node.literals? (node : Node) : Option (List (List Char)) :=
  node.branches.mapM fun
    | .literal chars => some chars
    | _ => none

/-- Lays out a pattern at a place, and says whether its last state is a split. -/
def Node.lay (forward : Bool) : Node → Place → Layout → Layout × Bool
  | empty, p, m => p.finish (m.add 1 0, false)
  | literal chars, p, m => p.finish (m.add (literalBytes forward chars).length 0, false)
  | set members, p, m => p.finish (m.set forward members, false)
  | look _, p, m => p.finish (m.add 1 0, false)
  | capture _ body, p, m =>
    if forward then
      let (m, split) := body.lay forward .first (m.add 1 0)
      p.finish ((m.add 1 0).leave split, false)
    else p.finish (body.lay forward .first m)
  | repeats count _ body, p, m =>
    p.finish (layRepeats (body.lay forward .first) body.maybeEmpty count m)
  | seq a b, p, m =>
    if forward then
      let (m, split) := a.lay forward .first m
      p.finish (b.lay forward .first (m.leave split))
    else
      let (m, split) := b.lay forward .first m
      p.finish (a.lay forward .first (m.leave split))
  | alt a b, .first, m => match (alt a b).literals? with
    | some literals => (m.literals forward literals, false)
    | none =>
      let (m, split) := a.lay forward .first m
      b.lay forward .second ((m.add 0 4).leave split)
  | alt a b, .second, m =>
    let (m, split) := a.lay forward .first m
    b.lay forward .later ((m.add 2 4).leave split)
  | alt a b, .later, m =>
    let (m, split) := a.lay forward .first m
    b.lay forward .later ((m.add 0 4).leave split)

/-! ## 4. Machines -/

/-- Whether every match begins where a condition holds, as far as the shape tells. -/
def Node.beginsWith (l : Look) : Node → Bool
  | look k => k == l
  | capture _ body => body.beginsWith l
  | repeats count _ body => count.least != 0 && body.beginsWith l
  | seq a b => a.beginsWith l || (a.onlyEmpty && b.beginsWith l)
  | alt a b => a.beginsWith l && b.beginsWith l
  | _ => false

/-- Whether every match ends where a condition holds, as far as the shape tells. -/
def Node.endsWith (l : Look) : Node → Bool
  | look k => k == l
  | capture _ body => body.endsWith l
  | repeats count _ body => count.least != 0 && body.endsWith l
  | seq a b => b.endsWith l || (b.onlyEmpty && a.endsWith l)
  | alt a b => a.endsWith l && b.endsWith l
  | _ => false

/-- The states in front of a pattern: one, or a loop that passes over the text before a match. -/
def lead (anchored : Bool) : Layout := if anchored then ⟨1, 0⟩ else ⟨3, 16⟩

/-- The machine that reads forward, with the capture of the whole match. -/
def Node.forwardLayout (node : Node) : Layout :=
  let (m, split) := node.lay true .first ((lead (node.beginsWith .textStart)).add 1 0)
  (m.add 2 0).leave split

/-- The machine that reads backward. -/
def Node.backwardLayout (node : Node) : Layout :=
  let (m, split) := node.lay false .first (lead (node.endsWith .textEnd))
  (m.add 1 0).leave split

/-! ## 5. An estimate from above -/

/-- No range of characters of this width has more pieces as ranges of bytes. -/
def piecesBound (r : CodeRange) : Nat :=
  let width := r.last - r.first
  if width < 0x40 then 2 else if width < 0x1000 then 6 else if width < 0x40000 then 12 else 24

/-- A pattern takes no more bytes than this in either machine. -/
def Node.bound : Node → Nat
  | empty => 40
  | literal chars => 400 * chars.length
  | set members => members.ranges.foldl (fun n r => n + 164 * piecesBound r) 100
  | look _ => 40
  | capture _ body => body.bound + 100
  | repeats count _ body => max (count.most.getD 1) (count.least + 1) * (body.bound + 60) + 200
  | seq a b => a.bound + b.bound + 20
  | alt a b => a.bound + b.bound + 120

/-- Whether a pattern is larger than allowed. Most patterns are so small that the estimate tells. -/
def Node.tooLarge (node : Node) : Bool :=
  decide (sizeLimit < node.bound + 400) &&
    (node.forwardLayout.isFull || node.backwardLayout.isFull)

end DeviceCli.Regex
