import DeviceCli.Regex.Property

/-!
# The written form of a pattern

A pattern is read in two steps: its text is cut into tokens, and the tokens are put together into
an expression.

* `Problem` lists what can be wrong with a pattern;
* `SetSyntax` is a class as written, before it is known whether letter case matters;
* `Token` is one piece of a pattern, `Expr` the tree they form.
-/

namespace DeviceCli.Regex

open DeviceCli.Text

/-- What makes a text no pattern. -/
inductive Problem where
  | unclosedClass
  | invalidClassRange
  | invalidClassMember
  | unclosedGroup
  | unopenedGroup
  | invalidGroupName
  | duplicateGroupName
  | lookAround
  | invalidFlags
  | nothingToRepeat
  | unclosedCount
  | invalidCount
  | danglingEscape
  | unknownEscape
  | invalidHex
  | unknownProperty
  | backreference
  | invalidBoundary
  | nestedTooDeeply
  | notUnicode
  deriving DecidableEq, Repr

/-- The text of a problem. -/
def Problem.message : Problem → String
  | unclosedClass => "unclosed character class"
  | invalidClassRange => "invalid character class range"
  | invalidClassMember => "invalid character class member"
  | unclosedGroup => "unclosed group"
  | unopenedGroup => "unopened group"
  | invalidGroupName => "invalid capture group name"
  | duplicateGroupName => "duplicate capture group name"
  | lookAround => "look-around is not supported"
  | invalidFlags => "invalid flags"
  | nothingToRepeat => "repetition operator missing expression"
  | unclosedCount => "unclosed counted repetition"
  | invalidCount => "invalid repetition count"
  | danglingEscape => "incomplete escape sequence"
  | unknownEscape => "unrecognized escape sequence"
  | invalidHex => "invalid hexadecimal escape"
  | unknownProperty => "Unicode property not found"
  | backreference => "backreferences are not supported"
  | invalidBoundary => "unrecognized word boundary"
  | nestedTooDeeply => "exceeded the limit of nested groups"
  | notUnicode => "pattern can match invalid text"

/-! ## 1. Flags -/

/-- The settings of a pattern that flags in it can change. -/
structure Flags where
  /-- `i`: letters match in any case -/
  anyCase : Bool := false
  /-- `m`: `^` and `$` match at line ends -/
  multiLine : Bool := false
  /-- `s`: `.` matches a newline too -/
  dotAll : Bool := false
  /-- `U`: repeats take as little as they can unless marked -/
  lazyFirst : Bool := false
  /-- `u`: classes are those of Unicode -/
  unicode : Bool := true
  /-- `R`: a carriage return ends a line too -/
  crlf : Bool := false
  deriving DecidableEq, Inhabited

/-- One letter of a flag group, and whether it switches on. -/
structure FlagItem where
  letter : Char
  on : Bool
  deriving DecidableEq, Inhabited

/-- The settings after a flag. The letter `x` concerns the reading of the pattern only. -/
def Flags.apply (f : Flags) (item : FlagItem) : Flags :=
  match item.letter with
  | 'i' => { f with anyCase := item.on }
  | 'm' => { f with multiLine := item.on }
  | 's' => { f with dotAll := item.on }
  | 'U' => { f with lazyFirst := item.on }
  | 'u' => { f with unicode := item.on }
  | 'R' => { f with crlf := item.on }
  | _ => f

/-- The settings after a group of flags. -/
def Flags.applyAll (f : Flags) (items : List FlagItem) : Flags := items.foldl Flags.apply f

/-- What a group of flags says about ignoring white space, if it says something. -/
def verboseSetting (items : List FlagItem) : Option Bool :=
  (items.find? (·.letter == 'x')).map (·.on)

/-! ## 2. Classes as written -/

/-- The classes that have a letter of their own. -/
inductive ShortClass where
  | digit | space | word
  deriving DecidableEq, Inhabited

/-- The operators between the parts of a bracketed class. -/
inductive SetOp where
  | intersection | difference | symmetricDifference
  deriving DecidableEq, Inhabited

/-- A class as written. -/
inductive SetSyntax where
  | empty
  | range (first last : Char)
  | short (negated : Bool) (kind : ShortClass)
  | ascii (negated : Bool) (members : CodeSet)
  | property (negated : Bool) (members : CodeSet)
  | union (a b : SetSyntax)
  | bracket (negated : Bool) (inner : SetSyntax)
  | binary (op : SetOp) (left right : SetSyntax)
  deriving Inhabited, DecidableEq

/-! ## 3. Tokens and expressions -/

/-- A position that a pattern asks for. -/
inductive Anchor where
  | caret | dollar | textStart | textEnd
  | boundary | notBoundary | wordStart | wordEnd | wordStartHalf | wordEndHalf
  deriving DecidableEq, Inhabited

/-- How a group opens: as a capture, or with flags for its body. -/
inductive GroupKind where
  | capture (name : Option (List Char))
  | plain (flags : List FlagItem)
  deriving DecidableEq, Inhabited

/-- How often: at least `least`, at most `most` if that is given. -/
structure Count where
  least : Nat
  most : Option Nat
  deriving DecidableEq, Inhabited

/-- One piece of a pattern. -/
inductive Token where
  | char (c : Char)
  /-- a character given by two hexadecimal digits that is beyond 7F: without Unicode it would be a
      byte, and no byte of a text -/
  | byte (c : Char)
  | dot
  | anchor (a : Anchor)
  | set (s : SetSyntax)
  | openGroup (kind : GroupKind)
  | flags (items : List FlagItem)
  | close
  | bar
  | repeats (count : Count) (greedy : Bool)
  deriving Inhabited, DecidableEq

/-- A pattern as a tree. -/
inductive Expr where
  | empty
  | flags (items : List FlagItem)
  | char (c : Char)
  /-- a character that is a byte without Unicode -/
  | byte (c : Char)
  | dot
  | anchor (a : Anchor)
  | set (s : SetSyntax)
  | repeats (count : Count) (greedy : Bool) (body : Expr)
  | capture (index : Nat) (body : Expr)
  | group (flags : List FlagItem) (body : Expr)
  | seq (first second : Expr)
  | alt (first second : Expr)
  deriving Inhabited, DecidableEq

/-! ## 4. Escaping -/

/-- The characters with a meaning of their own in a pattern. -/
def isMeta (c : Char) : Bool :=
  c == '\\' || c == '.' || c == '+' || c == '*' || c == '?' || c == '(' || c == ')' || c == '|' ||
    c == '[' || c == ']' || c == '\x7b' || c == '\x7d' || c == '^' || c == '$' || c == '#' ||
    c == '&' || c == '-' || c == '~'

/-- The pattern that matches a text as it stands: a backslash before each character with a
    meaning of its own. -/
def escapeChars : List Char → List Char
  | [] => []
  | c :: rest => if isMeta c then '\\' :: c :: escapeChars rest else c :: escapeChars rest

/-- `escapeChars` on strings. -/
def escape (s : String) : String := String.ofList (escapeChars s.toList)

end DeviceCli.Regex
