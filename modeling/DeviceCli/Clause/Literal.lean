import DeviceCli.Clause.Token
import DeviceCli.Text.Identifier
import DeviceCli.Text.Run

/-!
# Literals

How names, strings, characters and numbers are written in source text. Each function takes one of
them off the front of a text and gives the rest, or nothing where the text does not begin with one.

* A quoted text has escapes, and a carriage return stands only in front of a newline; a raw text is
  taken as it stands.
* Quoted bytes and zero-ended texts differ from texts in what may stand in them (`Quoting`).
* A whole number has a base, underscores between its digits, and a suffix; a number with a point or
  an exponent is no whole number.
-/

namespace DeviceCli.Clause

open DeviceCli.Text

/-! ## 1. Names -/

/-- Whether a name may begin with a character; an underscore may. -/
def beginsName (c : Char) : Bool := c == '_' || startsIdentifier c

/-- A name at the front of a text. -/
def takeName (cs : List Char) : Option (List Char × List Char) :=
  match cs with
  | c :: _ =>
    if beginsName c then some (cs.takeWhile continuesIdentifier, cs.dropWhile continuesIdentifier)
    else none
  | [] => none

/-- What is left behind a name, if the text begins with one. -/
def dropName (cs : List Char) : List Char :=
  match takeName cs with
  | some (_, rest) => rest
  | none => cs

/-! ## 2. Escapes -/

/-- What a quoted text is for: characters, bytes, or characters up to a zero. -/
inductive Quoting where
  | text | bytes | zeroEnded
  deriving DecidableEq

namespace Quoting

/-- Whether a character may stand for itself. -/
def plain : Quoting → Char → Bool
  | text, _ => true
  | bytes, c => c.toNat < 128
  | zeroEnded, c => c.toNat ≠ 0

/-- What a letter behind a backslash stands for. -/
def escape? (q : Quoting) : Char → Option Char
  | 'n' => some '\n'
  | 'r' => some '\r'
  | 't' => some '\t'
  | '\\' => some '\\'
  | '\'' => some '\''
  | '"' => some '"'
  | '0' => if q = zeroEnded then none else some (Char.ofNat 0)
  | _ => none

/-- What two hexadecimal digits behind an x stand for. -/
def hex? (q : Quoting) (high low : Char) : Option Char := do
  let h ← hexDigit? high
  let l ← hexDigit? low
  match q with
  | text => if h < 8 then some (Char.ofNat (16 * h + l)) else none
  | bytes => some (Char.ofNat (16 * h + l))
  | zeroEnded => if h = 0 ∧ l = 0 then none else some (Char.ofNat (16 * h + l))

/-- What the number of a code point stands for. -/
def codePoint? (q : Quoting) (n : Nat) : Option Char :=
  if q = bytes ∨ (q = zeroEnded ∧ n = 0) then none
  else if n.isValidChar then some (Char.ofNat n) else none

end Quoting

/-- The digits of a code point up to the closing brace: one to six, with underscores behind the
    first; `count` of them have been read, and spell `value`. -/
def takeCodePoint (count value : Nat) : List Char → Option (Nat × List Char)
  | [] => none
  | c :: rest =>
    match hexDigit? c with
    | some d => if count = 6 then none else takeCodePoint (count + 1) (16 * value + d) rest
    | none =>
      if count = 0 then none
      else if c = '_' then takeCodePoint count value rest
      else if c = '\x7d' then some (value, rest)
      else none

/-- What is left behind the blanks with which a line goes on, after a backslash at the end of the
    line before; `behindReturn` tells that a newline has to come. Something has to follow. -/
def dropContinuation (behindReturn : Bool) : List Char → Option (List Char)
  | [] => none
  | c :: rest =>
    if behindReturn then
      if c = '\n' then dropContinuation false rest else none
    else if c = ' ' ∨ c = '\t' ∨ c = '\n' then dropContinuation false rest
    else if c = '\r' then dropContinuation true rest
    else some (c :: rest)

/-- What one escape stands for, none for the end of a line, and the rest; the text is what is behind
    the backslash. -/
def takeEscape (q : Quoting) : List Char → Option (Option Char × List Char)
  | 'x' :: high :: low :: rest => do
    let c ← q.hex? high low
    pure (some c, rest)
  | 'u' :: '\x7b' :: rest => do
    let (n, rest) ← takeCodePoint 0 0 rest
    let c ← q.codePoint? n
    pure (some c, rest)
  | '\n' :: rest => do
    let rest ← dropContinuation false rest
    pure (none, rest)
  | '\r' :: rest => do
    let rest ← dropContinuation true rest
    pure (none, rest)
  | c :: rest => do
    let c ← q.escape? c
    pure (some c, rest)
  | [] => none

/-- The content of a quoted text and what is behind its closing quote. The first argument bounds the
    number of characters and escapes. -/
def takeQuoted (q : Quoting) : Nat → List Char → Option (List Char × List Char)
  | 0, _ => none
  | _ + 1, [] => none
  | fuel + 1, c :: rest =>
    if c = '"' then some ([], rest)
    else if c = '\r' then
      match rest with
      | '\n' :: rest => do
        let (content, rest) ← takeQuoted q fuel rest
        pure ('\n' :: content, rest)
      | _ => none
    else if c = '\\' then do
      let (escaped, rest) ← takeEscape q rest
      let (content, rest) ← takeQuoted q fuel rest
      pure (escaped.toList ++ content, rest)
    else if q.plain c then do
      let (content, rest) ← takeQuoted q fuel rest
      pure (c :: content, rest)
    else none

/-! ## 3. Raw texts -/

/-- The content of a raw text, up to a quote with so many hashes behind it. -/
def takeRawBody (q : Quoting) (hashes : Nat) : List Char → Option (List Char × List Char)
  | [] => none
  | '"' :: rest =>
    if (List.replicate hashes '#').isPrefixOf rest then some ([], rest.drop hashes)
    else do
      let (content, rest) ← takeRawBody q hashes rest
      pure ('"' :: content, rest)
  | '\r' :: '\n' :: rest => do
    let (content, rest) ← takeRawBody q hashes rest
    pure ('\r' :: '\n' :: content, rest)
  | c :: rest =>
    if c = '\r' then none
    else if q.plain c then do
      let (content, rest) ← takeRawBody q hashes rest
      pure (c :: content, rest)
    else none

/-- A raw text, from the hashes in front of its opening quote on. -/
def takeRaw (q : Quoting) (cs : List Char) : Option (List Char × List Char) :=
  let hashes := (cs.takeWhile (· == '#')).length
  match cs.drop hashes with
  | '"' :: rest => if hashes > 255 then none else takeRawBody q hashes rest
  | _ => none

/-- A quoted text behind its opening quote. -/
def takeString (q : Quoting) (cs : List Char) : Option (List Char × List Char) :=
  takeQuoted q (cs.length + 1) cs

/-! ## 4. Characters -/

/-- A single character or byte behind its opening quote, and its closing quote. -/
def dropCharacter (q : Quoting) (cs : List Char) : Option (List Char) :=
  let behind := match cs with
    | '\\' :: '\n' :: _ => none
    | '\\' :: '\r' :: _ => none
    | '\\' :: rest => (takeEscape q rest).map (·.2)
    | c :: rest => if q.plain c then some rest else none
    | [] => none
  match behind with
  | some ('\'' :: rest) => some rest
  | _ => none

/-! ## 5. Numbers -/

/-- Whether nothing that could belong to a name follows. -/
def endsWord (cs : List Char) : Bool :=
  match cs with
  | c :: _ => !continuesIdentifier c
  | [] => true

/-- What is left behind an exponent, if it has a digit; a sign may stand in front of its digits. -/
def dropExponent (signed valued : Bool) : List Char → Option (List Char)
  | [] => if valued then some [] else none
  | c :: rest =>
    if c = '+' ∨ c = '-' then
      if valued then some (c :: rest) else if signed then none else dropExponent true valued rest
    else if isDigit c then dropExponent signed true rest
    else if c = '_' then dropExponent signed valued rest
    else if valued then some (c :: rest) else none

/-- Whether a character is a digit or an underscore. -/
def isDigitOrBar (c : Char) : Bool := isDigit c || c == '_'

/-- What is left behind the digits of a number with a point or an exponent. -/
def dropFraction (cs : List Char) : Option (List Char) :=
  match cs with
  | c :: _ =>
    if !isDigit c then none
    else match cs.dropWhile isDigitOrBar with
      | '.' :: rest =>
        if (rest.head?.map fun c => c == '.' || beginsName c).getD false then none
        else match rest.dropWhile isDigitOrBar with
          | e :: more =>
            if e = 'e' ∨ e = 'E' then (dropExponent false false more).or (some (e :: more))
            else some (e :: more)
          | [] => some []
      | e :: rest => if e = 'e' ∨ e = 'E' then dropExponent false false rest else none
      | [] => none
  | [] => none

/-- A number with a point or an exponent. -/
def dropReal (cs : List Char) : Option (List Char) := do
  let rest ← dropFraction cs
  let rest := dropName rest
  if endsWord rest then some rest else none

/-- The digits of a whole number in a base: their value and the rest. A digit that the base does
    not have is refused, a letter ends the number. `empty` tells that no digit has come yet. -/
def takeDigits (base : Nat) (empty : Bool) (value : Nat) : List Char → Option (Nat × List Char)
  | [] => if empty then none else some (value, [])
  | c :: rest =>
    if c = '_' then
      if empty && base == 10 then none else takeDigits base empty value rest
    else match hexDigit? c with
      | some d =>
        if d < base then takeDigits base false (base * value + d) rest
        else if isDigit c then none
        else if empty then none else some (value, c :: rest)
      | none => if empty then none else some (value, c :: rest)

/-- A whole number with its suffix. -/
def takeWhole (cs : List Char) : Option (Numeral × List Char) := do
  let (value, rest) ← match cs with
    | '0' :: 'x' :: digits => takeDigits 16 true 0 digits
    | '0' :: 'o' :: digits => takeDigits 8 true 0 digits
    | '0' :: 'b' :: digits => takeDigits 2 true 0 digits
    | digits => takeDigits 10 true 0 digits
  let (suffix, rest) := (takeName rest).getD ([], rest)
  if endsWord rest then some ({ value, suffix := String.ofList suffix }, rest) else none

/-! ## 6. All literals -/

/-- A text or raw text of some kind, its content being kept for characters only. -/
def textToken (q : Quoting) (content : List Char) : Token :=
  if q = .text then .string (String.ofList content) else .literal

/-- A quoted text with a suffix. -/
def takeText (q : Quoting) (cs : List Char) : Option (Token × List Char) := do
  let (content, rest) ← takeString q cs
  pure (textToken q content, dropName rest)

/-- A raw text with a suffix. -/
def takeRawText (q : Quoting) (cs : List Char) : Option (Token × List Char) := do
  let (content, rest) ← takeRaw q cs
  pure (textToken q content, dropName rest)

/-- A character or byte with a suffix. -/
def takeCharacter (q : Quoting) (cs : List Char) : Option (Token × List Char) := do
  let rest ← dropCharacter q cs
  pure (.literal, dropName rest)

/-- A number. -/
def takeNumber (cs : List Char) : Option (Token × List Char) :=
  match dropReal cs with
  | some rest => some (.literal, rest)
  | none => (takeWhole cs).map fun (n, rest) => (.number n, rest)

/-- A literal at the front of a text. -/
def takeLiteral (cs : List Char) : Option (Token × List Char) :=
  match cs with
  | '"' :: rest => takeText .text rest
  | 'r' :: rest => takeRawText .text rest
  | 'b' :: '"' :: rest => takeText .bytes rest
  | 'b' :: 'r' :: rest => takeRawText .bytes rest
  | 'c' :: '"' :: rest => takeText .zeroEnded rest
  | 'c' :: 'r' :: rest => takeRawText .zeroEnded rest
  | 'b' :: '\'' :: rest => takeCharacter .bytes rest
  | '\'' :: rest => takeCharacter .text rest
  | _ => takeNumber cs

end DeviceCli.Clause
