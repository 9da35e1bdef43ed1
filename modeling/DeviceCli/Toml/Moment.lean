import DeviceCli.Json.Parser

/-!
# Dates and times in TOML

A moment is a date, a time of day, or both with or without an offset:
`1979-05-27`, `07:32:00.999`, `1979-05-27T07:32:00Z`, `1979-05-27 00:32:00-07:00`. The parts have to
be in their ranges, and the day has to be one of its month.

No setting takes a moment, so `skipMoment` only says what stands behind it.
-/

namespace DeviceCli.Toml

/-- The number of exactly so many digits at the front, if it lies between two others, and the text
    behind it. -/
def readField (width least most : Nat) (s : List Char) : Option (Nat × List Char) :=
  let digits := s.take width
  let n := digits.foldl (fun n c => 10 * n + Json.digitValue c) 0
  if digits.length = width ∧ digits.all Json.isDigit ∧ least ≤ n ∧ n ≤ most then
    some (n, s.drop width)
  else none

/-- The text behind a character. -/
def expect (c : Char) : List Char → Option (List Char)
  | d :: rest => if d = c then some rest else none
  | [] => none

/-- Whether a year has a leap day. -/
def isLeapYear (year : Nat) : Bool := year % 4 == 0 && (year % 100 != 0 || year % 400 == 0)

/-- How many days a month has. -/
def daysIn (year month : Nat) : Nat :=
  if month = 2 then (if isLeapYear year then 29 else 28)
  else if month = 4 ∨ month = 6 ∨ month = 9 ∨ month = 11 then 30
  else 31

/-- What stands behind a date. -/
def skipDate (s : List Char) : Option (List Char) := do
  let (year, s) ← readField 4 0 9999 s
  let (month, s) ← readField 2 1 12 (← expect '-' s)
  let (_, s) ← readField 2 1 (daysIn year month) (← expect '-' s)
  pure s

/-- What stands behind an hour and a minute. -/
def skipClock (s : List Char) : Option (List Char) := do
  let (_, s) ← readField 2 0 23 s
  let (_, s) ← readField 2 0 59 (← expect ':' s)
  pure s

/-- What stands behind a time of day; a second may be a leap second. -/
def skipTime (s : List Char) : Option (List Char) := do
  let (_, s) ← readField 2 0 60 (← expect ':' (← skipClock s))
  match s with
  | '.' :: c :: rest => pure (if Json.isDigit c then rest.dropWhile Json.isDigit else s)
  | _ => pure s

/-- What stands behind the offset of a time, if it has one. -/
def skipOffset (s : List Char) : List Char :=
  match s with
  | 'Z' :: rest | 'z' :: rest => rest
  | '+' :: rest | '-' :: rest => (skipClock rest).getD s
  | _ => s

/-- What stands behind a moment. -/
def skipMoment (s : List Char) : Option (List Char) :=
  match skipDate s with
  | none => skipTime s
  | some rest => match rest with
    | 'T' :: more | 't' :: more | ' ' :: more => match skipTime more with
      | some after => some (skipOffset after)
      | none => some rest
    | _ => some rest

end DeviceCli.Toml
