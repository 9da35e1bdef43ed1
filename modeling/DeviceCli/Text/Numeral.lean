/-!
# Numbers in decimal

`parseNat` and `parseInt` read a whole text as a number within bounds. The digits are taken one
after the other, and the first thing that is wrong decides the error: a character that is no digit,
or a digit with which the number leaves its bounds.
-/

namespace DeviceCli.Text

/-- Why a text is no number of the range asked for. -/
inductive NumeralError where
  | empty
  | invalidDigit
  | tooLarge
  | tooSmall
  deriving DecidableEq, Repr

/-- A numeral error in words. -/
def NumeralError.message : NumeralError → String
  | empty => "cannot parse integer from empty string"
  | invalidDigit => "invalid digit found in string"
  | tooLarge => "number too large to fit in target type"
  | tooSmall => "number too small to fit in target type"

/-- Appends digits to a number up to a limit. -/
def digitsUpTo (limit : Nat) (beyond : NumeralError) : Nat → List Char → Except NumeralError Nat
  | n, [] => .ok n
  | n, c :: rest =>
    if c < '0' ∨ '9' < c then .error .invalidDigit
    else
      let m := 10 * n + (c.toNat - 48)
      if m ≤ limit then digitsUpTo limit beyond m rest else .error beyond

/-- Digits, of which there must be some, up to a limit. -/
def unsigned (limit : Nat) (beyond : NumeralError) : List Char → Except NumeralError Nat
  | [] => .error .invalidDigit
  | cs => digitsUpTo limit beyond 0 cs

/-- A natural number up to a limit, perhaps with a plus sign. -/
def parseNat (limit : Nat) : List Char → Except NumeralError Nat
  | [] => .error .empty
  | '+' :: rest => unsigned limit .tooLarge rest
  | cs => unsigned limit .tooLarge cs

/-- An integer from `-least` to `most`, perhaps with a sign. -/
def parseInt (least most : Nat) : List Char → Except NumeralError Int
  | [] => .error .empty
  | '+' :: rest => (unsigned most .tooLarge rest).map Int.ofNat
  | '-' :: rest => (unsigned least .tooSmall rest).map fun n => -(n : Int)
  | cs => (unsigned most .tooLarge cs).map Int.ofNat

/-- The greatest number of 64 bits. -/
def maxNat64 : Nat := Nat.pow 2 64 - 1

end DeviceCli.Text
