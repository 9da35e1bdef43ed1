/-!
# Runs of code points

A property of characters is a table of runs: each says from which code point on its value holds,
up to the start of the next run.

* `valueAt` reads the value of a code point off a table, by bisection;
* `hexNat` and `words` read the written form of the tables;
* `hexDigit?` is the value of one hexadecimal digit, of either case.
-/

namespace DeviceCli.Text

/-! ## 1. Hexadecimal numbers -/

/-- The value of a hexadecimal digit, in either case. -/
def hexDigit? (c : Char) : Option Nat :=
  if '0' ≤ c ∧ c ≤ '9' then some (c.toNat - 48)
  else if 'a' ≤ c ∧ c ≤ 'f' then some (c.toNat - 87)
  else if 'A' ≤ c ∧ c ≤ 'F' then some (c.toNat - 55)
  else none

/-- The number that hexadecimal digits spell; any other character counts as zero. -/
def hexNat (digits : List Char) : Nat :=
  digits.foldl (fun n c => 16 * n + (hexDigit? c).getD 0) 0

/-- A hexadecimal number with a sign in front of it. -/
def hexInt : List Char → Int
  | '-' :: digits => -(hexNat digits : Int)
  | '+' :: digits => hexNat digits
  | digits => hexNat digits

/-- The pieces of `cs` between occurrences of `sep`. -/
def piecesAt (sep : Char) (cs : List Char) : List (List Char) :=
  cs.foldr (fun c acc =>
    if c = sep then [] :: acc
    else match acc with
      | [] => [[c]]
      | piece :: more => (c :: piece) :: more) [[]]

/-- The words of a table that is written over several lines. -/
def words (table : List String) : List (List Char) :=
  table.flatMap fun line => (piecesAt ' ' line.toList).filter (!·.isEmpty)

/-! ## 2. Tables of runs -/

/-- From the code point `start` on, the value is `value`. -/
structure Run (α : Type) where
  start : Nat
  value : α
  deriving Inhabited

/-- The last index in `[lo, hi)` whose run starts at or below `n`, if the run at `lo` does. -/
def lastRunIndex {α : Type} (runs : Array (Run α)) (n lo hi : Nat) : Nat :=
  if _h : hi ≤ lo + 1 then lo
  else
    let mid := lo + (hi - lo) / 2
    match runs[mid]? with
    | some run => if run.start ≤ n then lastRunIndex runs n mid hi else lastRunIndex runs n lo mid
    | none => lastRunIndex runs n lo mid
  termination_by hi - lo
  decreasing_by all_goals omega

/-- The value of the run that holds the code point `n`. -/
def valueAt {α : Type} (runs : Array (Run α)) (absent : α) (n : Nat) : α :=
  match runs[lastRunIndex runs n 0 runs.size]? with
  | some run => if run.start ≤ n then run.value else absent
  | none => absent

end DeviceCli.Text
