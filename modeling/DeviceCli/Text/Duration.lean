/-!
# Durations in words

A duration of whole milliseconds is written with the largest of the units s, ms and ns in which
it is at least one, with the fraction's trailing zeros left off; no time at all is `0ns`.
-/

namespace DeviceCli.Text

/-- A number below 1000 as the digits behind a decimal point, without trailing zeros. -/
def thousandths (n : Nat) : List Char :=
  let digits := [n / 100, n / 10 % 10, n % 10]
  ((digits.reverse.dropWhile (· == 0)).reverse).map Nat.digitChar

/-- A duration in milliseconds, in words. -/
def durationText (ms : Nat) : String :=
  if ms = 0 then "0ns"
  else if ms < 1000 then s!"{ms}ms"
  else
    let fraction := thousandths (ms % 1000)
    if fraction.isEmpty then s!"{ms / 1000}s"
    else s!"{ms / 1000}.{String.ofList fraction}s"

end DeviceCli.Text
