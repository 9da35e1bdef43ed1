import DeviceCli.Clause.Literal
import DeviceCli.Text.Blank

/-!
# From source text to trees

`treesOf?` splits a source text into tokens and brackets and nests them. Blanks and comments between
tokens do not count. A comment that documents something is a token by itself, which no clause
allows; what it says is passed over.
-/

namespace DeviceCli.Clause

open DeviceCli.Text

/-! ## 1. Blanks and comments -/

/-- Whether a character separates tokens: a blank, or one of the two marks of direction. -/
def separates (c : Char) : Bool := isBlank c || c.toNat == 0x200E || c.toNat == 0x200F

/-- The inside of a block comment and what is behind it; such comments nest, and `depth` more of
    them are open around this one. -/
def takeBlock (depth : Nat) : List Char → Option (List Char × List Char)
  | '/' :: '*' :: rest => do
    let (inside, rest) ← takeBlock (depth + 1) rest
    pure ('/' :: '*' :: inside, rest)
  | '*' :: '/' :: rest =>
    match depth with
    | 0 => some ([], rest)
    | n + 1 => do
      let (inside, rest) ← takeBlock n rest
      pure ('*' :: '/' :: inside, rest)
  | c :: rest => do
    let (inside, rest) ← takeBlock depth rest
    pure (c :: inside, rest)
  | [] => none

/-- What stands behind the line that a text begins with. -/
def dropLine (cs : List Char) : List Char := cs.dropWhile (· ≠ '\n')

/-- The line that a text begins with, without its end. -/
def lineOf (cs : List Char) : List Char :=
  let line := cs.takeWhile (· ≠ '\n')
  if line.length < cs.length && line.getLast? == some '\r' then line.dropLast else line

/-- Whether each carriage return stands in front of a newline. -/
def returnsArePaired : List Char → Bool
  | '\r' :: '\n' :: rest => returnsArePaired rest
  | '\r' :: _ => false
  | _ :: rest => returnsArePaired rest
  | [] => true

/-- What a text begins with. -/
inductive Front where
  /-- something between tokens, and what is behind it -/
  | gap (rest : List Char)
  /-- a comment that documents something, and what is behind it -/
  | documentation (rest : List Char)
  /-- something else -/
  | other

/-- A comment in one line that documents something. -/
def documentationLine (cs : List Char) : Front :=
  if returnsArePaired (lineOf cs) then .documentation (dropLine cs) else .other

/-- A block comment behind its opening; `documents` tells whether it documents something. -/
def blockComment (documents : Bool) (cs : List Char) : Front :=
  match takeBlock 0 cs with
  | none => .other
  | some (inside, rest) =>
    if !documents then .gap rest
    else if returnsArePaired (inside.drop 1) then .documentation rest else .other

/-- Looks at the front of a text for blanks and comments. -/
def front (cs : List Char) : Front :=
  match cs with
  | '/' :: '/' :: '/' :: '/' :: rest => .gap (dropLine rest)
  | '/' :: '/' :: '/' :: rest => documentationLine rest
  | '/' :: '/' :: '!' :: rest => documentationLine rest
  | '/' :: '/' :: rest => .gap (dropLine rest)
  | '/' :: '*' :: '*' :: '/' :: rest => .gap rest
  | '/' :: '*' :: '*' :: '*' :: rest => blockComment false ('*' :: '*' :: rest)
  | '/' :: '*' :: '*' :: rest => blockComment true ('*' :: rest)
  | '/' :: '*' :: '!' :: rest => blockComment true ('!' :: rest)
  | '/' :: '*' :: rest => blockComment false rest
  | c :: rest => if separates c then .gap rest else .other
  | [] => .other

/-! ## 2. Tokens -/

/-- The marks. -/
def isMark (c : Char) : Bool := "~!@#$%^&*-=+|;:,<.>/?'".toList.contains c

/-- The openings of literals; a name cannot begin with one of them. -/
def literalOpenings : List (List Char) :=
  [['r', '"'], ['r', '#', '"'], ['r', '#', '#'], ['b', '"'], ['b', '\''], ['b', 'r', '"'],
    ['b', 'r', '#'], ['c', '"'], ['c', 'r', '"'], ['c', 'r', '#']]

/-- The names that cannot be written with the mark of a raw name. -/
def neverRaw : List String := ["_", "super", "self", "Self", "crate"]

/-- A name, or a raw name behind its mark, as it is written. -/
def takeAnyName (cs : List Char) : Option (String × List Char) :=
  match cs with
  | 'r' :: '#' :: rest => do
    let (name, rest) ← takeName rest
    let name := String.ofList name
    if neverRaw.contains name then none else some ("r#" ++ name, rest)
  | _ => (takeName cs).map fun (name, rest) => (String.ofList name, rest)

/-- A word. -/
def takeWord (cs : List Char) : Option (Token × List Char) :=
  if literalOpenings.any fun opening => opening.isPrefixOf cs then none
  else (takeAnyName cs).map fun (name, rest) => (.word name, rest)

/-- A single quote that is no literal stands in front of a name, which no other quote follows. -/
def marksLifetime (cs : List Char) : Bool :=
  match takeAnyName cs with
  | none => false
  | some (_, '\'' :: _) => false
  | some (_, '#' :: _) => ['r', '#'].isPrefixOf cs
  | some _ => true

/-- A mark. -/
def takeMark (cs : List Char) : Option (Token × List Char) :=
  match cs with
  | '/' :: '/' :: _ => none
  | '/' :: '*' :: _ => none
  | '\'' :: rest => if marksLifetime rest then some (.mark '\'', rest) else none
  | c :: rest => if isMark c then some (.mark c, rest) else none
  | [] => none

/-- A token at the front of a text. -/
def takeToken (cs : List Char) : Option (Token × List Char) :=
  ((takeLiteral cs).or (takeMark cs)).or (takeWord cs)

/-! ## 3. Texts -/

/-- A bracket. -/
def bracket? (c : Char) : Option Lexeme :=
  match Bracket.opened? c with
  | some b => some (.opening b)
  | none => (Bracket.closed? c).map .closing

/-- The lexemes of a text; the first argument bounds their number and that of the gaps. -/
def lexemesFrom : Nat → List Char → Option (List Lexeme)
  | _, [] => some []
  | 0, _ :: _ => none
  | fuel + 1, c :: rest =>
    match front (c :: rest) with
    | .gap rest => lexemesFrom fuel rest
    | .documentation rest => do
      let more ← lexemesFrom fuel rest
      pure (.token (.mark '#') :: more)
    | .other =>
      match bracket? c with
      | some b => do
        let more ← lexemesFrom fuel rest
        pure (b :: more)
      | none => do
        let (token, rest) ← takeToken (c :: rest)
        let more ← lexemesFrom fuel rest
        pure (.token token :: more)

/-- The trees of a source text. A byte order mark in front does not count. -/
def treesOf? (source : String) : Option (List Tree) :=
  let cs := match source.toList with
    | c :: rest => if c.toNat = 0xFEFF then rest else c :: rest
    | [] => []
  (lexemesFrom cs.length cs).bind nest

end DeviceCli.Clause
