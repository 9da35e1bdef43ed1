import DeviceCli.Decimal.Binary64

/-!
# The shortest decimal that reads back

`shortest` gives the digits and the power of ten of the decimal with the fewest digits that rounds
to a given number, and of those the nearest to it. For each number of digits the two decimals next
to the value are tried.

`positional` and `compact` are two layouts of such a decimal.
-/

namespace DeviceCli

namespace Binary64

/-- A decimal: `digits * 10 ^ power`. -/
structure Shortest where
  digits : Nat
  power : Int
  deriving DecidableEq, Inhabited, Repr

/-- `n * 10 ^ k` compared with `m * 2 ^ e`, both as natural numbers over one denominator. -/
def overOne (n : Nat) (k : Int) (m : Nat) (e : Int) : Nat × Nat :=
  let n := if k < 0 then n else n * Nat.pow 10 k.natAbs
  let m := if e < 0 then m else m * Nat.pow 2 e.natAbs
  let n := if e < 0 then n * Nat.pow 2 e.natAbs else n
  let m := if k < 0 then m * Nat.pow 10 k.natAbs else m
  (n, m)

/-- Whether a decimal rounds to the number with the given positive mantissa and exponent. -/
def readsBack (m : Nat) (e : Int) (n : Nat) (k : Int) : Bool :=
  -- in quarters of a unit the interval is 4m - 2 to 4m + 2, but below a power of two the unit
  -- is half as large
  let low := if m = Nat.pow 2 (width - 1) ∧ e > minExponent then 4 * m - 1 else 4 * m - 2
  let high := 4 * m + 2
  let even := m % 2 = 0
  let (a, b) := overOne n k low (e - 2)
  let (c, d) := overOne n k high (e - 2)
  if even then decide (b ≤ a) && decide (c ≤ d) else decide (b < a) && decide (c < d)

/-- The greatest power of ten that is not above the value of a positive mantissa and exponent. -/
def leadingPower (m : Nat) (e : Int) : Int :=
  let guess := Int.fdiv (((m.log2 : Int) + e) * 30103) 100000
  let (a, b) := overOne 1 (guess + 1) m e
  if a ≤ b then guess + 1
  else
    let (a, b) := overOne 1 guess m e
    if a ≤ b then guess else guess - 1

/-- The value in units of `10 ^ k`, rounded down, and whether the next one up is nearer. -/
def gridBelow (m : Nat) (e k : Int) : Nat × Bool :=
  let (a, b) := overOne 1 k m e
  (b / a, decide (a < 2 * (b % a)) || (decide (a = 2 * (b % a)) && (b / a) % 2 == 1))

/-- The first decimal that reads back, from so many digits on. -/
def shortestFrom (m : Nat) (e lead : Int) : Nat → Nat → Shortest
  | 0, used =>
    let k := lead - used
    ⟨(gridBelow m e k).1, k⟩
  | fuel + 1, used =>
    let k := lead - used
    let (n, up) := gridBelow m e k
    let below := readsBack m e n k
    let above := readsBack m e (n + 1) k
    if below && (!above || !up) then ⟨n, k⟩
    else if above then ⟨n + 1, k⟩
    else shortestFrom m e lead fuel (used + 1)

/-- Without the zeros at the end of the digits. -/
def Shortest.trimmed : Nat → Shortest → Shortest
  | 0, s => s
  | fuel + 1, s =>
    if s.digits ≠ 0 ∧ s.digits % 10 = 0 then trimmed fuel ⟨s.digits / 10, s.power + 1⟩ else s

/-- The decimal with the fewest digits that rounds to the number, up to its sign. -/
def shortest (x : Binary64) : Shortest :=
  if x.mantissa = 0 then ⟨0, 0⟩
  else (shortestFrom x.mantissa x.exponent (leadingPower x.mantissa x.exponent) 17 0).trimmed 20

/-! ## 1. Layouts -/

/-- The digits with so many places behind the point, which stands only before digits. -/
def withPlaces (digits : List Char) (places : Nat) : List Char :=
  if places = 0 then digits
  else if digits.length ≤ places then
    ['0', '.'] ++ List.replicate (places - digits.length) '0' ++ digits
  else digits.take (digits.length - places) ++ '.' :: digits.drop (digits.length - places)

/-- All digits in their places, never an exponent. -/
def Shortest.plain (s : Shortest) : List Char :=
  let digits := (Nat.toDigits 10 s.digits)
  if s.power < 0 then withPlaces digits s.power.natAbs
  else if s.digits = 0 then ['0']
  else digits ++ List.replicate s.power.natAbs '0'

/-- One digit before the point, the others behind it, and the exponent with its sign. -/
def Shortest.scientific (s : Shortest) : List Char :=
  let digits := Nat.toDigits 10 s.digits
  let exponent := s.power + (digits.length - 1 : Nat)
  let mantissa := match digits with
    | first :: [] => [first]
    | first :: rest => first :: '.' :: rest
    | [] => ['0']
  mantissa ++ 'e' :: (if exponent < 0 then '-' else '+') :: Nat.toDigits 10 exponent.natAbs

/-- The sign of a number. -/
def signChars (x : Binary64) : List Char := if x.negative then ['-'] else []

/-- The number with all its digits in their places and no point behind a whole number. -/
def positional (x : Binary64) : String := String.ofList (x.signChars ++ x.shortest.plain)

/-- The number with a point in it: with its digits in their places where the first one stands for
    a power of ten from -5 to 15, else with an exponent. -/
def compact (x : Binary64) : String :=
  let s := x.shortest
  let lead := s.power + ((Nat.toDigits 10 s.digits).length - 1 : Nat)
  let body :=
    if -5 ≤ lead ∧ lead < 16 then
      if s.power < 0 then s.plain else s.plain ++ ['.', '0']
    else s.scientific
  String.ofList (x.signChars ++ body)

end Binary64

end DeviceCli
