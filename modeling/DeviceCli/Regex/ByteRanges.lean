import DeviceCli.Text.CodeSet

/-!
# Ranges of characters as ranges of bytes

A range of characters is cut until all characters of a piece have encodings of one length that
differ independently in their last bytes. A piece is then one range for each byte.

* `encodeCode` is the encoding of a code point;
* `byteRanges` are the pieces of a range, in ascending order, each as its ranges of bytes.
-/

namespace DeviceCli.Regex

open DeviceCli.Text

/-- The bytes that encode a code point. -/
def encodeCode (n : Nat) : List Nat :=
  if n < 0x80 then [n]
  else if n < 0x800 then [0xC0 + n / 0x40, 0x80 + n % 0x40]
  else if n < 0x10000 then [0xE0 + n / 0x1000, 0x80 + n / 0x40 % 0x40, 0x80 + n % 0x40]
  else
    [0xF0 + n / 0x40000, 0x80 + n / 0x1000 % 0x40, 0x80 + n / 0x40 % 0x40, 0x80 + n % 0x40]

/-- The first number at which a test on a few numbers tells to cut. -/
def firstCut (cuts : List (Option Nat)) : Option Nat := cuts.findSome? id

/-- Where a range is cut since encodings get longer there: the last code point before it. -/
def lengthCut? (a b : Nat) : Option Nat :=
  firstCut ([0x7F, 0x7FF, 0xFFFF].map fun n => if a ≤ n ∧ n < b then some n else none)

/-- Where a range is cut since it does not hold all code points with the same first bytes: the last
    code point before it. -/
def alignmentCut? (a b : Nat) : Option Nat :=
  firstCut ([0x40, 0x1000, 0x40000].map fun block =>
    if a / block = b / block then none
    else if a % block ≠ 0 then some (a / block * block + (block - 1))
    else if b % block ≠ block - 1 then some (b / block * block - 1)
    else none)

/-- The pieces of a range; `fuel` bounds how often a piece is cut again. -/
def piecesWithin : Nat → Nat → Nat → List (List CodeRange)
  | 0, _, _ => []
  | fuel + 1, a, b =>
    if a < 0xE000 ∧ 0xD7FF < b then
      piecesWithin fuel a 0xD7FF ++ piecesWithin fuel 0xE000 b
    else if b < a then []
    else match lengthCut? a b with
      | some n => piecesWithin fuel a n ++ piecesWithin fuel (n + 1) b
      | none =>
        if b < 0x80 then [[⟨a, b⟩]]
        else match alignmentCut? a b with
          | some n => piecesWithin fuel a n ++ piecesWithin fuel (n + 1) b
          | none => [(encodeCode a).zipWith CodeRange.mk (encodeCode b)]

/-- The pieces of a range. One cut is for the surrogates, three are for lengths and two for each of
    three alignments. -/
def byteRanges (r : CodeRange) : List (List CodeRange) := piecesWithin 12 r.first r.last

/-- The pieces of all ranges of a set. -/
def setByteRanges (s : CodeSet) : List (List CodeRange) := s.ranges.toList.flatMap byteRanges

end DeviceCli.Regex
