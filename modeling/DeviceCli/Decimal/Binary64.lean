/-!
# Numbers of 64 bits

A finite number in binary floating point is a sign, a mantissa below 2^53 and an exponent from
-1074 on, its value `mantissa * 2 ^ exponent`. Of the ways to write a value, the mantissa is the
greatest that the bounds allow.

* `ofRatio?` rounds a quotient to the nearest number, ties to even; it fails beyond the range;
* `times?` and `over?` multiply and divide, each rounded once.
-/

namespace DeviceCli

/-- A finite number in binary floating point. -/
structure Binary64 where
  negative : Bool
  mantissa : Nat
  exponent : Int
  deriving DecidableEq, Inhabited, Repr

namespace Binary64

/-- The least exponent. -/
def minExponent : Int := -1074

/-- The number of bits in a mantissa. -/
def width : Nat := 53

/-- The greatest exponent. -/
def maxExponent : Int := 971

/-- Zero with a sign. -/
def zero (negative : Bool) : Binary64 := ⟨negative, 0, minExponent⟩

/-- Rounds a quotient to a natural number, ties to even. -/
def roundDiv (num den : Nat) : Nat :=
  let q := num / den
  let r := num % den
  if 2 * r < den then q
  else if 2 * r > den then q + 1
  else if q % 2 = 0 then q else q + 1

/-- The quotient in units of `2 ^ e`, as a quotient again. -/
def inUnits (num den : Nat) (e : Int) : Nat × Nat :=
  if e < 0 then (num * Nat.pow 2 e.natAbs, den) else (num, den * Nat.pow 2 e.natAbs)

/-- The number nearest to a quotient, ties to even; none if it is too large. -/
def ofRatio? (negative : Bool) (num den : Nat) : Option Binary64 :=
  if num = 0 ∨ den = 0 then some (zero negative)
  else
    -- the mantissa has 53 bits, or 54 if the guess is one too low
    let guess : Int := (num.log2 : Int) - (den.log2 : Int) - 53
    let (n, d) := inUnits num den guess
    let e := if n / d < Nat.pow 2 width then guess else guess + 1
    let e := max e minExponent
    let (n, d) := inUnits num den e
    let m := roundDiv n d
    -- rounding may carry into one more bit
    let (m, e) := if m = Nat.pow 2 width then (Nat.pow 2 (width - 1), e + 1) else (m, e)
    if e > maxExponent then none
    else if m = 0 then some (zero negative)
    else some ⟨negative, m, e⟩

/-- The absolute value as a quotient. -/
def ratio (x : Binary64) : Nat × Nat :=
  if x.exponent < 0 then (x.mantissa, Nat.pow 2 x.exponent.natAbs)
  else (x.mantissa * Nat.pow 2 x.exponent.natAbs, 1)

/-- The product, rounded; none if it is too large. -/
def times? (x y : Binary64) : Option Binary64 :=
  let (a, b) := x.ratio
  let (c, d) := y.ratio
  ofRatio? (x.negative != y.negative) (a * c) (b * d)

/-- The quotient, rounded; none if it is too large. -/
def over? (x y : Binary64) : Option Binary64 :=
  let (a, b) := x.ratio
  let (c, d) := y.ratio
  ofRatio? (x.negative != y.negative) (a * d) (b * c)

/-- The number nearest to a natural number below 2^1023. -/
def ofNat (n : Nat) : Binary64 := (ofRatio? false n 1).getD (zero false)

/-- The number with the other sign. -/
def negate (x : Binary64) : Binary64 := { x with negative := !x.negative }

/-- Whether the number is zero, of either sign. -/
def isZero (x : Binary64) : Bool := x.mantissa == 0

/-- The number nearest to an integer. -/
def ofInt (n : Int) : Binary64 :=
  if n < 0 then (ofNat n.natAbs).negate else ofNat n.natAbs

end Binary64

end DeviceCli
