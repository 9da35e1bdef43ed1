import DeviceCli.Json.Parser

/-!
# Strings, keys and numbers in TOML

Four kinds of strings, bare and dotted keys, integers in four bases, and floating point numbers.
A newline is `\n` or `\r\n`, and inside strings of several lines both are read as `\n`.
-/

namespace DeviceCli.Toml

open DeviceCli.Text

/-! ## 1. White space -/

/-- White space within a line. -/
def isSpace (c : Char) : Bool := c == ' ' || c == '\t'

/-- Without the white space in front. -/
def skipSpace (s : List Char) : List Char := s.dropWhile isSpace

/-- Whether a character may stand in a comment or a literal string. -/
def isPlain (c : Char) : Bool := c == '\t' || (' ' ≤ c && c != '\x7f')

/-- A newline at the front, and the text behind it. -/
def newline? : List Char → Option (List Char)
  | '\n' :: rest => some rest
  | '\r' :: '\n' :: rest => some rest
  | _ => none

/-- Without white space and without a comment. -/
def skipComment (s : List Char) : List Char :=
  match skipSpace s with
  | '#' :: rest => rest.dropWhile isPlain
  | rest => rest

/-- Without white space, comments and newlines; at most so many lines. -/
def skipLines : Nat → List Char → List Char
  | 0, s => s
  | fuel + 1, s =>
    let rest := skipComment s
    match newline? rest with
    | some after => skipLines fuel after
    | none => rest

/-! ## 2. Strings -/

/-- The character that a number names. -/
def scalar? (n : Nat) : Option Char :=
  if n < 0xD800 ∨ (0xE000 ≤ n ∧ n < 0x110000) then some (Char.ofNat n) else none

/-- The character of an escape, behind its backslash, and the text behind it. -/
def readEscape : List Char → Option (Char × List Char)
  | 'b' :: rest => some ('\x08', rest)
  | 't' :: rest => some ('\t', rest)
  | 'n' :: rest => some ('\n', rest)
  | 'f' :: rest => some ('\x0c', rest)
  | 'r' :: rest => some ('\r', rest)
  | '"' :: rest => some ('"', rest)
  | '\\' :: rest => some ('\\', rest)
  | 'u' :: rest => code 4 rest
  | 'U' :: rest => code 8 rest
  | _ => none
where
  /-- The character of so many hexadecimal digits. -/
  code (width : Nat) (s : List Char) : Option (Char × List Char) :=
    let digits := s.take width
    if digits.length = width ∧ digits.all (fun c => (hexDigit? c).isSome) then
      (scalar? (hexNat digits)).map fun c => (c, s.drop width)
    else none

/-- A basic string behind its quote. -/
def readBasic : Nat → List Char → Option (List Char × List Char)
  | 0, _ => none
  | _, [] => none
  | _, '"' :: rest => some ([], rest)
  | fuel + 1, '\\' :: rest => do
    let (c, rest) ← readEscape rest
    Json.cons c (readBasic fuel rest)
  | fuel + 1, c :: rest => if isPlain c then Json.cons c (readBasic fuel rest) else none

/-- A literal string behind its quote. -/
def readLiteral (s : List Char) : Option (List Char × List Char) :=
  let body := s.takeWhile fun c => isPlain c && c != '\''
  match s.dropWhile fun c => isPlain c && c != '\'' with
  | '\'' :: rest => some (body, rest)
  | _ => none

/-- Without the white space and the newlines in front. -/
def skipBlankLines : List Char → List Char
  | [] => []
  | '\r' :: '\n' :: rest => skipBlankLines rest
  | c :: rest => if isSpace c || c == '\n' then skipBlankLines rest else c :: rest

/-- What stands behind a backslash that ends a line: the white space and the newlines behind it are
    dropped. -/
def foldLine? (s : List Char) : Option (List Char) := (newline? (skipSpace s)).map skipBlankLines

/-- A string of several lines behind its three quotes. `quote` is the kind of quote; in literal
    strings a backslash is a character like any other. -/
def readLong (quote : Char) : Nat → List Char → Option (List Char × List Char)
  | 0, _ => none
  | _, [] => none
  | fuel + 1, c :: rest =>
    if c = quote then
      match rest with
      | d :: e :: after =>
        if d = quote ∧ e = quote then
          -- up to two more quotes belong to the string
          match after with
          | f :: g :: more =>
            if f = quote ∧ g = quote then some ([quote, quote], more)
            else if f = quote then some ([quote], g :: more)
            else some ([], after)
          | [f] => if f = quote then some ([quote], []) else some ([], after)
          | [] => some ([], after)
        else Json.cons c (readLong quote fuel rest)
      | _ => Json.cons c (readLong quote fuel rest)
    else match newline? (c :: rest) with
    | some after => Json.cons '\n' (readLong quote fuel after)
    | none =>
      if c = '\\' ∧ quote = '"' then
        match foldLine? rest with
        | some after => readLong quote fuel after
        | none => do
          let (d, after) ← readEscape rest
          Json.cons d (readLong quote fuel after)
      else if isPlain c then Json.cons c (readLong quote fuel rest)
      else none

/-- A string of several lines; a newline right behind its quotes does not count. -/
def readLongBody (quote : Char) (s : List Char) : Option (List Char × List Char) :=
  let body := (newline? s).getD s
  readLong quote (body.length + 1) body

/-- A string of any kind. -/
def readString : List Char → Option (List Char × List Char)
  | '"' :: '"' :: '"' :: rest => readLongBody '"' rest
  | '\'' :: '\'' :: '\'' :: rest => readLongBody '\'' rest
  | '"' :: rest => readBasic (rest.length + 1) rest
  | '\'' :: rest => readLiteral rest
  | _ => none

/-! ## 3. Keys -/

/-- Whether a character may stand in a key without quotes. -/
def isBare (c : Char) : Bool := isLatinLetter c || Json.isDigit c || c == '_' || c == '-'
where
  /-- A letter of the basic Latin alphabet. -/
  isLatinLetter (c : Char) : Bool := ('a' ≤ c && c ≤ 'z') || ('A' ≤ c && c ≤ 'Z')

/-- One part of a key. -/
def readKeyPart : List Char → Option (String × List Char)
  | '"' :: rest => (readBasic (rest.length + 1) rest).map fun (k, after) => (String.ofList k, after)
  | '\'' :: rest => (readLiteral rest).map fun (k, after) => (String.ofList k, after)
  | s =>
    let key := s.takeWhile isBare
    if key.isEmpty then none else some (String.ofList key, s.dropWhile isBare)

/-- A key of at most so many parts, with white space around the points between them. -/
def readParts : Nat → List Char → Option (List String × List Char)
  | 0, _ => none
  | most + 1, s => do
    let (part, rest) ← readKeyPart s
    match skipSpace rest with
    | '.' :: more => do
      let (parts, after) ← readParts most (skipSpace more)
      pure (part :: parts, after)
    | _ => pure ([part], rest)

/-- How many parts a key may have. -/
def partLimit : Nat := 79

/-- A key with its parts. -/
def readKey (s : List Char) : Option (List String × List Char) := readParts partLimit s

/-! ## 4. Numbers -/

/-- Digits in which single underscores may stand between two digits; `mayEnd` says that there was
    a digit just before. -/
def readDigitsFrom (isDigit : Char → Bool) : Bool → List Char → Option (List Char × List Char)
  | mayEnd, [] => if mayEnd then some ([], []) else none
  | mayEnd, c :: rest =>
    if isDigit c then Json.cons c (readDigitsFrom isDigit true rest)
    else if !mayEnd then none
    else if c = '_' then readDigitsFrom isDigit false rest
    else some ([], c :: rest)

/-- One digit or more. -/
def readDigits (isDigit : Char → Bool) (s : List Char) : Option (List Char × List Char) :=
  readDigitsFrom isDigit false s

/-- Whether a character is a hexadecimal, octal or binary digit. -/
def isDigitOf (base : Nat) (c : Char) : Bool :=
  match hexDigit? c with
  | some n => n < base
  | none => false

/-- The number that digits spell in a base. -/
def numberOf (base : Nat) (digits : List Char) : Nat :=
  digits.foldl (fun n c => n * base + (hexDigit? c).getD 0) 0

/-- A number as a value, if it fits into 64 bits with a sign. -/
def integer? (negative : Bool) (n : Nat) : Option Json :=
  if negative then if n ≤ Nat.pow 2 63 then some (.int (-(n : Int))) else none
  else if n < Nat.pow 2 63 then some (.int n) else none

/-- A power of ten behind its letter. -/
def readPower (s : List Char) : Option (Int × List Char) :=
  let (negative, s) := match s with
    | '+' :: rest => (false, rest)
    | '-' :: rest => (true, rest)
    | _ => (false, s)
  (readDigits Json.isDigit s).map fun (digits, rest) =>
    let n := numberOf 10 digits
    (if negative then -(n : Int) else n, rest)

/-- The least number that is rounded to no finite one. -/
def infinite : Nat := (Nat.pow 2 54 - 1) * Nat.pow 2 970

/-- Whether a number, given by its digits and a power of ten, is too large for floating point. The
    power is multiplied out only where the number of digits does not tell. -/
def overflows (digits : List Char) (power : Int) : Bool :=
  let n := numberOf 10 digits
  let places := ((digits.dropWhile (· == '0')).length : Int) + power
  if n = 0 ∨ places < 309 then false
  else if 309 < places then true
  else if 0 ≤ power then decide (infinite ≤ n * Nat.pow 10 power.natAbs)
  else decide (infinite * Nat.pow 10 power.natAbs ≤ n)

/-- What stands for a value that no setting takes: a number that is no integer, a date or a time. -/
def unusable : Json := .real (Binary64.zero false)

/-- A floating point number from its digits. A negative one that is too large is infinite. -/
def realOf (negative : Bool) (digits : List Char) (power : Int) : Option Json :=
  if !negative && overflows digits power then none else some unusable

/-- A number in decimal behind its sign. -/
def readDecimal (negative : Bool) (s : List Char) : Option (Json × List Char) := do
  let (digits, rest) ← readDigits Json.isDigit s
  if digits.length > 1 && digits.head? == some '0' then none
  else
    let (fraction, rest, isReal) ← match rest with
      | '.' :: more => (readDigits Json.isDigit more).map fun (f, after) => (f, after, true)
      | _ => some ([], rest, false)
    match rest with
    | 'e' :: more | 'E' :: more =>
      let (power, after) ← readPower more
      pure (← realOf negative (digits ++ fraction) (power - fraction.length), after)
    | _ =>
      if isReal then pure (← realOf negative (digits ++ fraction) (-(fraction.length : Int)), rest)
      else pure (← integer? negative (numberOf 10 digits), rest)

/-- A number in another base behind its mark. -/
def readBased (base : Nat) (s : List Char) : Option (Json × List Char) := do
  let (digits, rest) ← readDigits (isDigitOf base) s
  pure (← integer? false (numberOf base digits), rest)

/-- A number of any kind. -/
def readNumber : List Char → Option (Json × List Char)
  | '0' :: 'x' :: rest => readBased 16 rest
  | '0' :: 'o' :: rest => readBased 8 rest
  | '0' :: 'b' :: rest => readBased 2 rest
  | '+' :: rest => signed false rest
  | '-' :: rest => signed true rest
  | s => signed false s
where
  /-- A number behind its sign. -/
  signed (negative : Bool) : List Char → Option (Json × List Char)
    | 'i' :: 'n' :: 'f' :: rest => some (unusable, rest)
    | 'n' :: 'a' :: 'n' :: rest => some (unusable, rest)
    | s => readDecimal negative s

end DeviceCli.Toml
