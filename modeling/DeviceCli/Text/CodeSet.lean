import DeviceCli.Text.Run

/-!
# Sets of code points

A `CodeSet` is a list of inclusive ranges in ascending order, no two of which overlap or touch.
The ends of a range are characters; what lies between the two blocks of characters, the
surrogates, is skipped by counting (`codeAfter`, `codeBefore`).

* `CodeSet.contains` is membership, by bisection;
* `CodeSet.union`, `inter`, `difference`, `symmetricDifference` and `complement` are the operations
  of sets;
* `CodeSet.whereRun` is the set of code points that have a property in a table of runs;
* `readCodes` reads a set from its written form.
-/

namespace DeviceCli.Text

/-- The code points from the first to the last, both included. -/
structure CodeRange where
  first : Nat
  last : Nat
  deriving DecidableEq, Inhabited, Repr

/-- A set of code points, as ascending ranges with gaps between them. -/
structure CodeSet where
  ranges : Array CodeRange
  deriving DecidableEq, Inhabited, Repr

/-- The greatest code point. -/
def lastCode : Nat := 0x10FFFF

/-- The next character. -/
def codeAfter (n : Nat) : Nat := if n = 0xD7FF then 0xE000 else n + 1

/-- The character before. -/
def codeBefore (n : Nat) : Nat := if n = 0xE000 then 0xD7FF else n - 1

namespace CodeSet

/-! ## 1. Membership -/

/-- The last index in `[lo, hi)` whose range begins at or below `n`, if the range at `lo` does. -/
def lastIndex (ranges : Array CodeRange) (n lo hi : Nat) : Nat :=
  if _h : hi ≤ lo + 1 then lo
  else
    let mid := lo + (hi - lo) / 2
    match ranges[mid]? with
    | some r => if r.first ≤ n then lastIndex ranges n mid hi else lastIndex ranges n lo mid
    | none => lastIndex ranges n lo mid
  termination_by hi - lo
  decreasing_by all_goals omega

/-- Whether a code point is a member. -/
def contains (s : CodeSet) (n : Nat) : Bool :=
  match s.ranges[lastIndex s.ranges n 0 s.ranges.size]? with
  | some r => decide (r.first ≤ n) && decide (n ≤ r.last)
  | none => false

/-- Whether a character is a member. -/
def has (s : CodeSet) (c : Char) : Bool := s.contains c.toNat

/-- Whether there is no member. -/
def isEmpty (s : CodeSet) : Bool := s.ranges.isEmpty

/-- Whether all members are ASCII. -/
def isAscii (s : CodeSet) : Bool :=
  match s.ranges.back? with
  | some r => decide (r.last < 128)
  | none => true

/-- The only member, if there is just one. -/
def only? (s : CodeSet) : Option Nat :=
  match s.ranges.toList with
  | [r] => if r.first = r.last then some r.first else none
  | _ => none

/-! ## 2. Building sets -/

/-- No code point. -/
def empty : CodeSet := ⟨#[]⟩

/-- Ranges in ascending order of their first code points, put together where they overlap or
    touch; `done` are the finished ones, latest first. -/
def joinOnto : List CodeRange → List CodeRange → List CodeRange
  | done, [] => done.reverse
  | [], r :: rest => joinOnto [r] rest
  | p :: done, r :: rest =>
    if r.first ≤ p.last + 1 then joinOnto (⟨p.first, max p.last r.last⟩ :: done) rest
    else joinOnto (r :: p :: done) rest

/-- The set of all code points in some ranges, in whatever order they come. -/
def ofRanges (list : List CodeRange) : CodeSet :=
  ⟨(joinOnto [] (list.mergeSort fun a b => decide (a.first ≤ b.first))).toArray⟩

/-- The code points from the first to the last. -/
def range (first last : Nat) : CodeSet := ⟨#[⟨first, last⟩]⟩

/-- One code point. -/
def single (n : Nat) : CodeSet := range n n

/-- All code points. -/
def all : CodeSet := range 0 lastCode

/-- The set of some code points. -/
def ofCodes (codes : List Nat) : CodeSet := ofRanges (codes.map fun n => ⟨n, n⟩)

/-! ## 3. Operations -/

/-- The members of either set. -/
def union (a b : CodeSet) : CodeSet := ofRanges (a.ranges.toList ++ b.ranges.toList)

/-- The members of a list of sets. -/
def unionAll (sets : List CodeSet) : CodeSet := ofRanges (sets.flatMap (·.ranges.toList))

/-- What two lists of ranges have in common. -/
def interRanges : List CodeRange → List CodeRange → List CodeRange
  | [], _ => []
  | _ :: _, [] => []
  | a :: as, b :: bs =>
    let first := max a.first b.first
    let last := min a.last b.last
    let rest := if a.last < b.last then interRanges as (b :: bs) else interRanges (a :: as) bs
    if first ≤ last then ⟨first, last⟩ :: rest else rest
  termination_by as bs => as.length + bs.length

/-- The members of both sets. -/
def inter (a b : CodeSet) : CodeSet := ⟨(interRanges a.ranges.toList b.ranges.toList).toArray⟩

/-- The gaps behind a range that ends at `last`, as pairs of a first and a last character. Between
    ranges that meet at the surrogates there is no character: the pair is then in reverse. -/
def gapsBehind (last : Nat) : List CodeRange → List (Nat × Nat)
  | [] => if last < lastCode then [(codeAfter last, lastCode)] else []
  | r :: rest => (codeAfter last, codeBefore r.first) :: gapsBehind r.last rest

/-- The gaps before, between and behind ranges. -/
def gaps : List CodeRange → List (Nat × Nat)
  | [] => [(0, lastCode)]
  | r :: rest =>
    if r.first = 0 then gapsBehind r.last rest
    else (0, codeBefore r.first) :: gapsBehind r.last rest

/-- The characters outside a set. Where two ranges meet at the surrogates, the two characters on
    both sides are taken for the gap. -/
def complement (s : CodeSet) : CodeSet :=
  ⟨((gaps s.ranges.toList).map fun (a, b) => ⟨min a b, max a b⟩).toArray⟩

/-- The members of the first set that are not in the second. -/
def difference (a b : CodeSet) : CodeSet :=
  let outside := (gaps b.ranges.toList).filterMap fun (x, y) =>
    if x ≤ y then some (⟨x, y⟩ : CodeRange) else none
  ⟨(interRanges a.ranges.toList outside).toArray⟩

/-- What is in exactly one of two sets. -/
def symmetricDifference (a b : CodeSet) : CodeSet := difference (union a b) (inter a b)

/-- The code points whose value in a table of runs passes a test. -/
def whereRun {α : Type} (runs : Array (Run α)) (p : α → Bool) : CodeSet :=
  ofRanges (spans runs.toList)
where
  /-- The passing runs, each up to the start of the next one. -/
  spans : List (Run α) → List CodeRange
    | [] => []
    | [r] => if p r.value then [⟨r.start, lastCode⟩] else []
    | r :: next :: rest =>
      let more := spans (next :: rest)
      if p r.value then ⟨r.start, next.start - 1⟩ :: more else more

end CodeSet

/-! ## 4. Reading -/

/-- The ranges of one word of a table: `first-last`, `first` alone, or `first-last/step`, which is
    every code point that many apart. -/
def readCodeWord (word : List Char) : List CodeRange :=
  match piecesAt '/' word with
  | [span, step] => match piecesAt '-' span with
    | [first, last] =>
      let (a, b, d) := (hexNat first, hexNat last, hexNat step)
      (List.range ((b - a) / d + 1)).map fun i => ⟨a + i * d, a + i * d⟩
    | _ => []
  | _ => match piecesAt '-' word with
    | [first, last] => [⟨hexNat first, hexNat last⟩]
    | _ => [⟨hexNat word, hexNat word⟩]

/-- The set that the words of a table make up. -/
def readCodes (table : List String) : CodeSet :=
  CodeSet.ofRanges ((words table).flatMap readCodeWord)

end DeviceCli.Text
