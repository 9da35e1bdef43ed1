import DeviceCli.Json.Basic
import DeviceCli.Text.Run

/-!
# Reading JSON

`Json.parse?` reads a text that is one JSON value with white space around it, by the strict rules:
no comments, no trailing commas, no leading zeros, no lone surrogates, no number too large for
floating point, and no more than `nestLimit` arrays and objects within each other.

A number with a fraction, an exponent or too many digits is rounded in steps: its leading digits,
as many as fit into 64 bits, are rounded once, and the power of ten is applied with a second
rounding.
-/

namespace DeviceCli.Json

open DeviceCli.Text

/-! ## 1. White space and digits -/

/-- White space between the parts of a document. -/
def isSpace (c : Char) : Bool := c == ' ' || c == '\n' || c == '\t' || c == '\r'

/-- Without the white space in front. -/
def skipSpace (s : List Char) : List Char := s.dropWhile isSpace

/-- One of the ten digits. -/
def isDigit (c : Char) : Bool := '0' ≤ c && c ≤ '9'

/-- The value of a digit. -/
def digitValue (c : Char) : Nat := c.toNat - 48

/-! ## 2. Strings -/

/-- The number of four hexadecimal digits. -/
def hexQuad (a b c d : Char) : Option Nat := do
  let a ← hexDigit? a
  let b ← hexDigit? b
  let c ← hexDigit? c
  let d ← hexDigit? d
  pure (((a * 16 + b) * 16 + c) * 16 + d)

/-- The character of an escape with one letter. -/
def shortEscape : Char → Option Char
  | '"' => some '"'
  | '\\' => some '\\'
  | '/' => some '/'
  | 'b' => some '\x08'
  | 'f' => some '\x0c'
  | 'n' => some '\n'
  | 'r' => some '\r'
  | 't' => some '\t'
  | _ => none

/-- One more character in front of what was read. -/
def cons (c : Char) (read : Option (List Char × List Char)) : Option (List Char × List Char) :=
  read.map fun (cs, rest) => (c :: cs, rest)

/-- The characters of a string behind its opening quote, and the text behind the closing one. -/
def readString : List Char → Option (List Char × List Char)
  | [] => none
  | '"' :: rest => some ([], rest)
  | '\\' :: 'u' :: a :: b :: c :: d :: '\\' :: 'u' :: e :: f :: g :: h :: rest =>
    match hexQuad a b c d with
    | none => none
    | some n =>
      if 0xD800 ≤ n ∧ n < 0xDC00 then
        match hexQuad e f g h with
        | some m =>
          if 0xDC00 ≤ m ∧ m < 0xE000 then
            cons (Char.ofNat (0x10000 + (n - 0xD800) * 0x400 + (m - 0xDC00))) (readString rest)
          else none
        | none => none
      else if 0xDC00 ≤ n ∧ n < 0xE000 then none
      else cons (Char.ofNat n) (readString ('\\' :: 'u' :: e :: f :: g :: h :: rest))
  | '\\' :: 'u' :: a :: b :: c :: d :: rest =>
    match hexQuad a b c d with
    | none => none
    | some n => if 0xD800 ≤ n ∧ n < 0xE000 then none else cons (Char.ofNat n) (readString rest)
  | '\\' :: e :: rest =>
    match shortEscape e with
    | some c => cons c (readString rest)
    | none => none
  | c :: rest => if c < ' ' ∨ c = '\\' then none else cons c (readString rest)

/-! ## 3. Numbers -/

/-- Whether a number fits into 64 bits. -/
def fits (n : Nat) : Bool := n < Nat.pow 2 64

/-- Appends digits to a number as long as it fits: the number, how many digits were taken, and
    the digits that were not. -/
def appendDigits (n : Nat) : List Char → Nat × Nat × List Char
  | [] => (n, 0, [])
  | c :: rest =>
    let m := n * 10 + digitValue c
    if fits m then
      let (m, taken, left) := appendDigits m rest
      (m, taken + 1, left)
    else (n, 0, c :: rest)

/-- The floating point number next to a power of ten. -/
def tenTo (k : Nat) : Binary64 := Binary64.ofNat (Nat.pow 10 k)

/-- Applies a power of ten, in steps of at most 308. -/
def scale : Nat → Binary64 → Int → Option Binary64
  | 0, x, _ => some x
  | fuel + 1, x, exponent =>
    if exponent.natAbs ≤ 308 then
      if exponent ≥ 0 then x.times? (tenTo exponent.natAbs) else x.over? (tenTo exponent.natAbs)
    else if x.isZero then some x
    else if exponent ≥ 0 then none
    else match x.over? (tenTo 308) with
      | some y => scale fuel y (exponent + 308)
      | none => none

/-- The floating point number of digits and a power of ten. -/
def realOf (negative : Bool) (digits : Nat) (exponent : Int) : Option Json :=
  (scale 8 (Binary64.ofNat digits) exponent).map fun x => real (if negative then x.negate else x)

/-- The largest exponent that is taken at its word. -/
def exponentLimit : Nat := Nat.pow 2 31 - 1

/-- An exponent behind its letter: its sign and its digits. -/
def readExponent (s : List Char) : Option (Bool × List Char × List Char) :=
  let (negative, s) := match s with
    | '+' :: rest => (false, rest)
    | '-' :: rest => (true, rest)
    | _ => (false, s)
  let digits := s.takeWhile isDigit
  if digits.isEmpty then none else some (negative, digits, s.dropWhile isDigit)

/-- A number with digits behind it taken care of, up to its exponent. -/
def finishNumber (negative : Bool) (digits : Nat) (exponent : Int) (s : List Char) :
    Option (Json × List Char) :=
  match s with
  | 'e' :: rest | 'E' :: rest => do
    let (down, places, after) ← readExponent rest
    let places := places.foldl (fun n c => 10 * n + digitValue c) 0
    if places > exponentLimit then
      if digits ≠ 0 ∧ down = false then none
      else pure (real (Binary64.zero negative), after)
    else
      let x ← realOf negative digits (if down then exponent - places else exponent + places)
      pure (x, after)
  | _ => (realOf negative digits exponent).map fun x => (x, s)

/-- The number of an integer without exponent or fraction. -/
def integerOf (negative : Bool) (n : Nat) : Json :=
  if !negative then int n
  else if n = 0 ∨ n > Nat.pow 2 63 then real (Binary64.ofNat n).negate
  else int (-(n : Int))

/-- A number behind its sign. -/
def readUnsigned (negative : Bool) (s : List Char) : Option (Json × List Char) :=
  let digits := s.takeWhile isDigit
  let rest := s.dropWhile isDigit
  match digits with
  | [] => none
  | '0' :: _ :: _ => none
  | _ =>
    let (n, _, beyond) := appendDigits 0 digits
    match rest with
    | '.' :: more =>
      let places := more.takeWhile isDigit
      let after := more.dropWhile isDigit
      if places.isEmpty then none
      else
        let (n, taken, _) := appendDigits n places
        finishNumber negative n ((beyond.length : Int) - taken) after
    | 'e' :: _ | 'E' :: _ => finishNumber negative n beyond.length rest
    | _ =>
      if beyond.isEmpty then some (integerOf negative n, rest)
      else (realOf negative n beyond.length).map fun x => (x, rest)

/-! ## 4. Values -/

/-- The items of an array, given how to read one, from the first item on. -/
def readItems (value : List Char → Option (Json × List Char)) :
    Nat → List Char → Option (List Json × List Char)
  | 0, _ => none
  | fuel + 1, s => do
    let (item, rest) ← value s
    match skipSpace rest with
    | ',' :: rest => do
      let (items, rest) ← readItems value fuel rest
      pure (item :: items, rest)
    | ']' :: rest => pure ([item], rest)
    | _ => none

/-- The members of an object, given how to read a value, from the first key on. -/
def readMembers (value : List Char → Option (Json × List Char)) :
    Nat → List Char → Option (List (String × Json) × List Char)
  | 0, _ => none
  | fuel + 1, s => do
    match skipSpace s with
    | '"' :: rest =>
      let (key, rest) ← readString rest
      match skipSpace rest with
      | ':' :: rest =>
        let (item, rest) ← value rest
        match skipSpace rest with
        | ',' :: rest => do
          let (members, rest) ← readMembers value fuel rest
          pure ((String.ofList key, item) :: members, rest)
        | '\x7d' :: rest => pure ([(String.ofList key, item)], rest)
        | _ => none
      | _ => none
    | _ => none

/-- A value that is no array or object, with the text behind it. -/
def readScalar (s : List Char) : Option (Json × List Char) :=
  match s with
  | 'n' :: 'u' :: 'l' :: 'l' :: rest => some (null, rest)
  | 't' :: 'r' :: 'u' :: 'e' :: rest => some (bool true, rest)
  | 'f' :: 'a' :: 'l' :: 's' :: 'e' :: rest => some (bool false, rest)
  | '"' :: rest => (readString rest).map fun (cs, after) => (string (String.ofList cs), after)
  | '-' :: rest => readUnsigned true rest
  | _ => readUnsigned false s

/-- A value, with at most so many arrays and objects within each other, and the text behind it. -/
def readValue : Nat → List Char → Option (Json × List Char)
  | depth, s =>
    match skipSpace s with
    | '[' :: rest => match depth with
      | 0 => none
      | depth + 1 => match skipSpace rest with
        | ']' :: after => some (array [], after)
        | _ => (readItems (readValue depth) (rest.length + 1) rest).map fun (items, after) =>
          (array items, after)
    | '\x7b' :: rest => match depth with
      | 0 => none
      | depth + 1 => match skipSpace rest with
        | '\x7d' :: after => some (object [], after)
        | _ => (readMembers (readValue depth) (rest.length + 1) rest).map fun (members, after) =>
          (object members, after)
    | s => readScalar s

/-- How many arrays and objects may be within each other. -/
def nestLimit : Nat := 127

/-- The value that a text is. -/
def parseChars? (text : List Char) : Option Json := do
  let (value, rest) ← readValue nestLimit text
  if (skipSpace rest).isEmpty then pure value else none

/-- `parseChars?` on strings. -/
def parse? (text : String) : Option Json := parseChars? text.toList

end DeviceCli.Json
