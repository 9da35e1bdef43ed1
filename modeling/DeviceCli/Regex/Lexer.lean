import DeviceCli.Text.Blank
import DeviceCli.Regex.Syntax

/-!
# From text to tokens

`tokenize` cuts a pattern into tokens. Whether white space and comments count is itself set by
flags in the pattern, so the cutting keeps, for each open group, the setting to go back to.

Every loop takes a number of steps that the length of its input bounds.
-/

namespace DeviceCli.Regex

open DeviceCli.Text

/-! ## 1. White space and comments -/

/-- Drops blanks and comments; `inComment` says that a comment is open. -/
def dropComments : Bool → List Char → List Char
  | _, [] => []
  | true, c :: rest => dropComments (c != '\n') rest
  | false, c :: rest =>
    if isBlank c then dropComments false rest
    else if c == '#' then dropComments true rest
    else c :: rest

/-- Drops blanks and comments if the pattern is verbose. -/
def skip (verbose : Bool) (s : List Char) : List Char :=
  if verbose then dropComments false s else s

/-- The character that follows blanks, or in a verbose pattern what stands after one comment
    sign too; used only to look ahead behind a hyphen. -/
def peekBehind (verbose : Bool) (s : List Char) : Option Char :=
  if verbose then
    match s.dropWhile isBlank with
    | '#' :: rest => (rest.dropWhile isBlank).head?
    | rest => rest.head?
  else s.head?

/-! ## 2. Numbers -/

/-- The largest count a repetition may have. -/
def maxCount : Nat := Nat.pow 2 32 - 1

/-- The digits at the front, with the blanks that a verbose pattern may have between them. -/
def digitRun (verbose : Bool) : Nat → List Char → List Char × List Char
  | 0, s => ([], s)
  | fuel + 1, c :: rest =>
    if isDigit c then
      let (digits, after) := digitRun verbose fuel (skip verbose rest)
      (c :: digits, after)
    else ([], c :: rest)
  | _, [] => ([], [])

/-- The number that decimal digits spell. -/
def decimalNat (digits : List Char) : Nat :=
  digits.foldl (fun n c => 10 * n + (c.toNat - 48)) 0

/-- A repetition count with blanks around it. -/
def lexDecimal (verbose : Bool) (s : List Char) : Except Problem Nat × List Char :=
  let (digits, rest) := digitRun verbose s.length (s.dropWhile isBlank)
  let rest := rest.dropWhile isBlank
  let rest := if verbose then skip verbose rest else rest
  let n := decimalNat digits
  if digits.isEmpty || n > maxCount then (.error .invalidCount, rest) else (.ok n, rest)

/-- The bounds of a counted repetition behind its opening brace, and the text behind them. -/
def lexBounds (verbose : Bool) (s : List Char) : Except Problem (Count × List Char) := do
  let s := skip verbose s
  if s.isEmpty then throw .unclosedCount
  let (least, rest) := lexDecimal verbose s
  match rest with
  | ',' :: more =>
    let more := skip verbose more
    match more with
    | [] => throw .unclosedCount
    | '\x7d' :: _ => pure (⟨← least, none⟩, more)
    | _ =>
      let least ← least
      let (most, after) := lexDecimal verbose more
      pure (⟨least, some (← most)⟩, after)
  | _ =>
    let n ← least
    pure (⟨n, some n⟩, rest)

/-- A counted repetition behind its opening brace. -/
def lexCount (verbose : Bool) (s : List Char) : Except Problem (Count × List Char) := do
  match ← lexBounds verbose s with
  | (⟨least, some most⟩, '\x7d' :: after) =>
    if least ≤ most then pure (⟨least, some most⟩, after) else throw .invalidCount
  | (⟨least, none⟩, '\x7d' :: after) => pure (⟨least, none⟩, after)
  | _ => throw .unclosedCount

/-! ## 3. Escapes -/

/-- What an escape stands for. -/
inductive Escape where
  | char (c : Char)
  /-- a character that is a byte without Unicode -/
  | byte (c : Char)
  | anchor (a : Anchor)
  | set (s : SetSyntax)
  deriving Inhabited

/-- The character that an escape stands for, if it stands for one. -/
def Escape.char? : Escape → Option Char
  | char c => some c
  | byte c => some c
  | _ => none

/-- The character that a hexadecimal number names. -/
def hexChar (digits : List Char) : Except Problem Escape :=
  let n := hexNat digits
  if digits.isEmpty then throw .invalidHex
  else if n < 0xD800 ∨ (0xE000 ≤ n ∧ n < 0x110000) then pure (.char (Char.ofNat n))
  else throw .invalidHex

/-- As many hexadecimal digits as asked for. -/
def hexDigits (verbose : Bool) : Nat → List Char → Except Problem (List Char × List Char)
  | 0, s => pure ([], s)
  | _ + 1, [] => throw .danglingEscape
  | n + 1, c :: rest => do
    if (hexDigit? c).isNone then throw .invalidHex
    let (digits, after) ← hexDigits verbose n (skip verbose rest)
    pure (c :: digits, after)

/-- The text up to a closing brace. -/
def untilBrace (verbose : Bool) : Nat → List Char → Except Problem (List Char × List Char)
  | 0, _ => throw .danglingEscape
  | fuel + 1, s => match skip verbose s with
    | [] => throw .danglingEscape
    | '\x7d' :: rest => pure ([], rest)
    | c :: rest => do
      let (more, after) ← untilBrace verbose fuel rest
      pure (c :: more, after)

/-- A hexadecimal escape: in braces, or of `width` digits. -/
def lexHex (verbose : Bool) (width : Nat) (s : List Char) :
    Except Problem (Escape × List Char) := do
  match skip verbose s with
  | [] => throw .danglingEscape
  | '\x7b' :: rest =>
    let (digits, after) ← untilBrace verbose (rest.length + 1) rest
    if digits.any fun c => (hexDigit? c).isNone then throw .invalidHex
    pure (← hexChar digits, skip verbose after)
  | rest =>
    let (digits, after) ← hexDigits verbose width rest
    match ← hexChar digits with
    | .char c => pure (if width = 2 ∧ 127 < c.toNat then .byte c else .char c, after)
    | other => pure (other, after)

/-- The position of the first `pat` in `s`, if it occurs. -/
def cutAt (pat : List Char) : List Char → Option (List Char × List Char)
  | [] => none
  | c :: rest =>
    if pat.isPrefixOf (c :: rest) then some ([], (c :: rest).drop pat.length)
    else (cutAt pat rest).map fun (a, b) => (c :: a, b)

/-- The class of the text in the braces of a property escape, and whether the text asks for the
    characters outside it. -/
def propertyClass (text : List Char) : Option (Bool × CodeSet) :=
  match cutAt ['!', '='] text with
  | some (name, value) => (propertyValue? name value).map ((true, ·))
  | none => match cutAt [':'] text with
    | some (name, value) => (propertyValue? name value).map ((false, ·))
    | none => match cutAt ['='] text with
      | some (name, value) => (propertyValue? name value).map ((false, ·))
      | none => (property? text).map ((false, ·))

/-- A property escape behind its letter. -/
def lexProperty (verbose negated : Bool) (s : List Char) :
    Except Problem (Escape × List Char) := do
  match skip verbose s with
  | [] => throw .danglingEscape
  | '\\' :: _ => throw .unknownProperty
  | '\x7b' :: rest =>
    let (text, after) ← untilBrace verbose (rest.length + 1) rest
    match propertyClass text with
    | some (outside, members) => pure (.set (.property (negated != outside) members), after)
    | none => throw .unknownProperty
  | c :: rest => match property? [c] with
    | some members => pure (.set (.property negated members), skip verbose rest)
    | none => throw .unknownProperty

/-- Whether a character may stand in the name of a word boundary. -/
def isBoundaryChar (c : Char) : Bool := isLatinLetter c || c == '-'

/-- The characters of a named word boundary at the front. -/
def boundaryName (verbose : Bool) : Nat → List Char → List Char × List Char
  | 0, s => ([], s)
  | fuel + 1, c :: rest =>
    if isBoundaryChar c then
      let (more, after) := boundaryName verbose fuel (skip verbose rest)
      (c :: more, after)
    else ([], c :: rest)
  | _, [] => ([], [])

/-- The word boundary of a name. -/
def boundaryOf? : String → Option Anchor
  | "start" => some .wordStart
  | "end" => some .wordEnd
  | "start-half" => some .wordStartHalf
  | "end-half" => some .wordEndHalf
  | _ => none

/-- What stands behind `\b`: a name in braces, or nothing that belongs to it. -/
def lexBoundary (verbose : Bool) (s : List Char) : Except Problem (Escape × List Char) := do
  match s with
  | '\x7b' :: rest =>
    let inside := skip verbose rest
    match inside with
    | [] => throw .invalidBoundary
    | c :: _ =>
      if !isBoundaryChar c then pure (.anchor .boundary, s)
      else
        let (name, after) := boundaryName verbose inside.length inside
        match after, boundaryOf? (String.ofList name) with
        | '\x7d' :: after, some anchor => pure (.anchor anchor, after)
        | _, _ => throw .invalidBoundary
  | _ => pure (.anchor .boundary, s)

/-- Whether a backslash before a character without meaning of its own is allowed. -/
def isEscapable (c : Char) : Bool :=
  isMeta c || (c.toNat < 128 && !isLatinLetter c && !isDigit c && c != '<' && c != '>')

/-- An escape behind its backslash. -/
def lexEscape (verbose : Bool) (s : List Char) : Except Problem (Escape × List Char) := do
  match s with
  | [] => throw .danglingEscape
  | c :: rest =>
    if isDigit c then throw .backreference
    else if isEscapable c then pure (.char c, rest)
    else match c with
    | 'x' => lexHex verbose 2 rest
    | 'u' => lexHex verbose 4 rest
    | 'U' => lexHex verbose 8 rest
    | 'p' => lexProperty verbose false rest
    | 'P' => lexProperty verbose true rest
    | 'd' => pure (.set (.short false .digit), rest)
    | 'D' => pure (.set (.short true .digit), rest)
    | 's' => pure (.set (.short false .space), rest)
    | 'S' => pure (.set (.short true .space), rest)
    | 'w' => pure (.set (.short false .word), rest)
    | 'W' => pure (.set (.short true .word), rest)
    | 'a' => pure (.char '\x07', rest)
    | 'f' => pure (.char '\x0c', rest)
    | 't' => pure (.char '\t', rest)
    | 'n' => pure (.char '\n', rest)
    | 'r' => pure (.char '\r', rest)
    | 'v' => pure (.char '\x0b', rest)
    | 'A' => pure (.anchor .textStart, rest)
    | 'z' => pure (.anchor .textEnd, rest)
    | 'b' => lexBoundary verbose rest
    | 'B' => pure (.anchor .notBoundary, rest)
    | '<' => pure (.anchor .wordStart, rest)
    | '>' => pure (.anchor .wordEnd, rest)
    | _ => throw .unknownEscape

/-! ## 4. Bracketed classes -/

/-- What is still open while a class is read. -/
inductive ClassFrame where
  /-- a bracket: the members before it, and whether it is negated -/
  | bracket (before : SetSyntax) (negated : Bool)
  /-- an operator and its left operand -/
  | operator (op : SetOp) (left : SetSyntax)
  deriving Inhabited

/-- One more member. -/
def SetSyntax.push : SetSyntax → SetSyntax → SetSyntax
  | .empty, b => b
  | a, b => .union a b

/-- Joins an operand with the operator in front of it, if there is one. -/
def closeOperator (right : SetSyntax) : List ClassFrame → SetSyntax × List ClassFrame
  | .operator op left :: frames => (.binary op left right, frames)
  | frames => (right, frames)

/-- The hyphens at the front, which are members of a class that has just been opened. -/
def leadingHyphens (verbose : Bool) : Nat → SetSyntax → List Char → SetSyntax × List Char
  | fuel + 1, members, '-' :: rest =>
    leadingHyphens verbose fuel (members.push (.range '-' '-')) (skip verbose rest)
  | _, members, s => (members, s)

/-- Whether a class is negated, and the text behind its caret. -/
def lexNegation (verbose : Bool) : List Char → Bool × List Char
  | '^' :: rest => (true, skip verbose rest)
  | s => (false, s)

/-- The members that only the front of a class can have, and the rest, which is not empty. -/
def lexFront (verbose : Bool) (s : List Char) : Except Problem (SetSyntax × List Char) :=
  match leadingHyphens verbose s.length .empty s with
  | (_, []) => throw .unclosedClass
  | (.empty, ']' :: rest) =>
    if (skip verbose rest).isEmpty then throw .unclosedClass
    else pure (.range ']' ']', skip verbose rest)
  | (members, rest) => pure (members, rest)

/-- What follows an opening bracket: whether the class is negated, the members that only the
    front of a class can have, and the rest. -/
def openClass (verbose : Bool) (s : List Char) :
    Except Problem (Bool × SetSyntax × List Char) := do
  let (negated, s) := lexNegation verbose (skip verbose s)
  let (members, rest) ← lexFront verbose s
  pure (negated, members, rest)

/-- A POSIX class such as `[:alpha:]`, behind its first bracket. -/
def lexAscii? (s : List Char) : Option (SetSyntax × List Char) :=
  match s with
  | ':' :: rest =>
    let (negated, rest) := match rest with
      | '^' :: more => (true, more)
      | _ => (false, rest)
    let name := rest.takeWhile (· != ':')
    match rest.dropWhile (· != ':') with
    | ':' :: ']' :: after => (asciiClass? name).map fun members => (.ascii negated members, after)
    | _ => none
  | _ => none

/-- One member or one end of a range. -/
def lexMember (verbose : Bool) : List Char → Except Problem (Escape × List Char)
  | [] => throw .unclosedClass
  | '\\' :: rest => lexEscape verbose rest
  | c :: rest => pure (.char c, rest)

/-- A member on its own. -/
def Escape.member : Escape → Except Problem SetSyntax
  | .char c => pure (.range c c)
  | .byte c => pure (.range c c)
  | .set s => pure s
  | .anchor _ => throw .invalidClassMember

/-- A member or a range. -/
def lexRange (verbose : Bool) (s : List Char) : Except Problem (SetSyntax × List Char) := do
  let (first, rest) ← lexMember verbose s
  match skip verbose rest with
  | [] => throw .unclosedClass
  | '-' :: more =>
    let ahead := peekBehind verbose more
    if ahead == some ']' || ahead == some '-' then pure (← first.member, '-' :: more)
    else
      let (last, after) ← lexMember verbose (skip verbose more)
      match first.char?, last.char? with
      | some a, some b =>
        if a ≤ b then pure (.range a b, after) else throw .invalidClassRange
      | _, _ => throw .invalidClassRange
  | rest => pure (← first.member, rest)

/-- The rest of a class: what is open, the members read so far, and the text behind them. -/
def lexClass (verbose : Bool) :
    Nat → List ClassFrame → SetSyntax → List Char → Except Problem (SetSyntax × List Char)
  | 0, _, _, _ => throw .unclosedClass
  | fuel + 1, frames, members, s => do
    match skip verbose s with
    | [] => throw .unclosedClass
    | '[' :: rest =>
      match lexAscii? rest with
      | some (item, after) => lexClass verbose fuel frames (members.push item) after
      | none =>
        let (negated, inner, after) ← openClass verbose rest
        lexClass verbose fuel (.bracket members negated :: frames) inner after
    | ']' :: rest =>
      match closeOperator members frames with
      | (whole, .bracket before negated :: outer) =>
        if outer.isEmpty then pure (.bracket negated whole, rest)
        else lexClass verbose fuel outer (before.push (.bracket negated whole)) rest
      | _ => throw .unclosedClass
    | '&' :: '&' :: rest =>
      let (left, outer) := closeOperator members frames
      lexClass verbose fuel (.operator .intersection left :: outer) .empty rest
    | '-' :: '-' :: rest =>
      let (left, outer) := closeOperator members frames
      lexClass verbose fuel (.operator .difference left :: outer) .empty rest
    | '~' :: '~' :: rest =>
      let (left, outer) := closeOperator members frames
      lexClass verbose fuel (.operator .symmetricDifference left :: outer) .empty rest
    | rest =>
      let (item, after) ← lexRange verbose rest
      lexClass verbose fuel frames (members.push item) after

/-- A bracketed class behind its first bracket. -/
def lexBracket (verbose : Bool) (s : List Char) : Except Problem (SetSyntax × List Char) := do
  let (negated, inner, after) ← openClass verbose s
  lexClass verbose (after.length + 1) [.bracket .empty negated] inner after

/-! ## 5. Groups -/

/-- Whether a character may stand in the name of a group. -/
def isNameChar (first : Bool) (c : Char) : Bool :=
  if first then c == '_' || isAlphabetic c
  else c == '_' || c == '.' || c == '[' || c == ']' || isAlphanumeric c

/-- Whether a text may name a group. -/
def isGroupName : List Char → Bool
  | [] => false
  | c :: rest => isNameChar true c && rest.all (isNameChar false)

/-- The letters of flags. -/
def isFlagLetter (c : Char) : Bool :=
  c == 'i' || c == 'm' || c == 's' || c == 'U' || c == 'u' || c == 'R' || c == 'x'

/-- The flags written by `letters`; a hyphen, at most one and not at the end, switches off all
    that follow it, and no letter comes twice. -/
def readFlags : Bool → List Char → List Char → Except Problem (List FlagItem)
  | _, _, [] => pure []
  | on, seen, '-' :: rest => do
    if !on || rest.isEmpty then throw .invalidFlags
    readFlags false seen rest
  | on, seen, c :: rest => do
    if !isFlagLetter c || seen.contains c then throw .invalidFlags
    pure (⟨c, on⟩ :: (← readFlags on (c :: seen) rest))

/-- The name of a capture, and the text behind the sign that ends it. -/
def lexName (s : List Char) : Except Problem ((GroupKind ⊕ List FlagItem) × List Char) :=
  let name := s.takeWhile (· != '>')
  match s.dropWhile (· != '>') with
  | _ :: after =>
    if isGroupName name then pure (.inl (.capture (some name)), after) else throw .invalidGroupName
  | [] => throw .invalidGroupName

/-- Flags behind their question mark: those of a group, or such that stand alone. -/
def lexFlags (s : List Char) : Except Problem ((GroupKind ⊕ List FlagItem) × List Char) := do
  let letters := s.takeWhile fun c => c != ':' && c != ')'
  let items ← readFlags true [] letters
  match s.dropWhile fun c => c != ':' && c != ')' with
  | ')' :: after =>
    if letters.isEmpty then throw .nothingToRepeat
    pure (.inr items, after)
  | _ :: after => pure (.inl (.plain items), after)
  | [] => throw .unclosedGroup

/-- A group's head behind its parenthesis: a group, or flags that stand alone. -/
def lexGroup (verbose : Bool) (s : List Char) :
    Except Problem ((GroupKind ⊕ List FlagItem) × List Char) :=
  match skip verbose s with
  | '?' :: '=' :: _ | '?' :: '!' :: _ | '?' :: '<' :: '=' :: _ | '?' :: '<' :: '!' :: _ =>
    throw .lookAround
  | '?' :: 'P' :: '<' :: rest => lexName rest
  | '?' :: '<' :: rest => lexName rest
  | '?' :: rest => lexFlags rest
  | rest => pure (.inl (.capture none), rest)

/-! ## 6. The whole pattern -/

/-- Whether a repetition takes as much as it can, and the rest behind its mark. -/
def lexGreed : List Char → Bool × List Char
  | '?' :: rest => (false, rest)
  | rest => (true, rest)

/-- A repetition behind its mark, which may be followed by that of the shortest. -/
def lexRepeat (count : Count) (s : List Char) : Token × List Char :=
  let (greedy, after) := lexGreed s
  (.repeats count greedy, after)

/-- The token of an escape outside a class. -/
def Escape.token : Escape → Token
  | .char c => .char c
  | .byte c => .byte c
  | .anchor a => .anchor a
  | .set s => .set s

/-- The token at the front of a text, which is not empty, and the text behind it. -/
def lexToken (verbose : Bool) : List Char → Except Problem (Token × List Char)
  | [] => throw .nothingToRepeat
  | '(' :: rest => do
    match ← lexGroup verbose rest with
    | (.inr items, after) => pure (.flags items, after)
    | (.inl kind, after) => pure (.openGroup kind, after)
  | ')' :: rest => pure (.close, rest)
  | '|' :: rest => pure (.bar, rest)
  | '[' :: rest => do
    let (item, after) ← lexBracket verbose rest
    pure (.set item, after)
  | '?' :: rest => pure (lexRepeat ⟨0, some 1⟩ rest)
  | '*' :: rest => pure (lexRepeat ⟨0, none⟩ rest)
  | '+' :: rest => pure (lexRepeat ⟨1, none⟩ rest)
  | '\x7b' :: rest => do
    let (count, after) ← lexCount verbose rest
    pure (lexRepeat count (skip verbose after))
  | '.' :: rest => pure (.dot, rest)
  | '^' :: rest => pure (.anchor .caret, rest)
  | '$' :: rest => pure (.anchor .dollar, rest)
  | '\\' :: rest => do
    let (item, after) ← lexEscape verbose rest
    pure (item.token, after)
  | c :: rest => pure (.char c, rest)

/-- The settings behind a token: the one in force, and those of the groups that are open. A group
    gives its flags to its body, and its end brings back the setting in front of it. -/
def Token.settings (verbose : Bool) (outer : List Bool) :
    Token → Except Problem (Bool × List Bool)
  | .flags items => pure ((verboseSetting items).getD verbose, outer)
  | .openGroup (.plain items) => pure ((verboseSetting items).getD verbose, verbose :: outer)
  | .openGroup (.capture _) => pure (verbose, verbose :: outer)
  | .close => match outer with
    | [] => throw .unopenedGroup
    | setting :: outer => pure (setting, outer)
  | _ => pure (verbose, outer)

/-- The tokens of a pattern; `outer` holds the setting of each group that is open. -/
def lexAll : Nat → Bool → List Bool → List Char → Except Problem (List Token)
  | 0, _, _, _ => pure []
  | fuel + 1, verbose, outer, s => do
    match skip verbose s with
    | [] => if outer.isEmpty then pure [] else throw .unclosedGroup
    | front :: behind =>
      let (token, after) ← lexToken verbose (front :: behind)
      let (verbose, outer) ← token.settings verbose outer
      pure (token :: (← lexAll fuel verbose outer after))

/-- The tokens of a pattern. -/
def tokenize (pattern : List Char) : Except Problem (List Token) :=
  lexAll (pattern.length + 1) false [] pattern

end DeviceCli.Regex
