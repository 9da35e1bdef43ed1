import DeviceCli.Text.CodeSet
import DeviceCli.Text.CategoryTable
import DeviceCli.Text.AlphabeticTable

/-!
# General categories and the classes built on them

* `Category.of` is the general category of a character, and `Category.members` the set of
  characters of some categories;
* `isAlphabetic`, `isNumeric` and `isAlphanumeric` are the classes that names are made of.

Characters below 128 are classified directly; only the others are looked up.
-/

namespace DeviceCli.Text

/-- A general category: the letter of its group and the letter within the group. -/
structure Category where
  group : Char
  kind : Char
  deriving DecidableEq, Inhabited

namespace Category

/-- The category of code points that no character is assigned to. -/
def unassigned : Category := ⟨'C', 'n'⟩

/-- The table of runs, read from its written form. -/
def runs : Array (Run Category) :=
  ((words categoryRunText).map fun word => match word with
    | group :: kind :: start => ⟨hexNat start, ⟨group, kind⟩⟩
    | _ => ⟨0, unassigned⟩).toArray

/-- The general category of a character. -/
def of (c : Char) : Category := valueAt runs unassigned c.toNat

/-- The characters whose category passes a test. -/
def members (p : Category → Bool) : CodeSet := CodeSet.whereRun runs p

end Category

/-- The alphabetic characters: letters, letter numbers, and the marks and symbols that count as
    letters. -/
def alphabeticCodes : CodeSet :=
  (Category.members fun k => k.group == 'L' || k == ⟨'N', 'l'⟩).union
    (readCodes alphabeticRangeText)

/-- The numbers of any kind. -/
def numericCodes : CodeSet := Category.members (·.group == 'N')

/-- A letter of the basic Latin alphabet. -/
def isLatinLetter (c : Char) : Bool :=
  ('a' ≤ c && c ≤ 'z') || ('A' ≤ c && c ≤ 'Z')

/-- One of the ten digits 0 to 9. -/
def isDigit (c : Char) : Bool := '0' ≤ c && c ≤ '9'

/-- A letter, a letter number, or a mark or symbol that counts as alphabetic. -/
def isAlphabetic (c : Char) : Bool :=
  if c.toNat < 128 then isLatinLetter c else alphabeticCodes.has c

/-- A number of any kind: a decimal digit, a letter number or another number. -/
def isNumeric (c : Char) : Bool :=
  if c.toNat < 128 then isDigit c else numericCodes.has c

/-- Alphabetic or a number. -/
def isAlphanumeric (c : Char) : Bool := isAlphabetic c || isNumeric c

end DeviceCli.Text
