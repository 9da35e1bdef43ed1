/-!
# Tokens

The clauses of a step are written in source text. A `Token` is a word, a literal or a mark of it; a
`Tree` is a token, or what stands between two brackets that belong together.

* `nest` turns tokens and brackets into trees, if the brackets belong together;
* `flatten` goes back, and `nest_flatten` says that nothing is lost.
-/

namespace DeviceCli.Clause

/-- A whole number as it was written: its sign, its value, and the type behind it. -/
structure Numeral where
  negative : Bool := false
  value : Nat
  suffix : String := ""
  deriving DecidableEq, Inhabited

/-- A token. -/
inductive Token where
  | word (name : String)
  | string (value : String)
  | number (n : Numeral)
  /-- a literal of another kind -/
  | literal
  | mark (c : Char)
  deriving DecidableEq, Inhabited

/-- A kind of brackets. -/
inductive Bracket where
  | round | square | curly
  deriving DecidableEq, Inhabited

namespace Bracket

/-- The kind that a bracket opens. -/
def opened? : Char → Option Bracket
  | '(' => some round
  | '[' => some square
  | '\x7b' => some curly
  | _ => none

/-- The kind that a bracket closes. -/
def closed? : Char → Option Bracket
  | ')' => some round
  | ']' => some square
  | '\x7d' => some curly
  | _ => none

end Bracket

/-- A token or a bracket. -/
inductive Lexeme where
  | token (t : Token)
  | opening (b : Bracket)
  | closing (b : Bracket)
  deriving DecidableEq, Inhabited

/-- A token, or trees between brackets. -/
inductive Tree where
  | token (t : Token)
  | group (b : Bracket) (content : List Tree)
  deriving Inhabited

/-! ## 1. Nesting -/

/-- The brackets that are open, each with the trees in front of it, latest first. -/
abbrev OpenGroups := List (Bracket × List Tree)

/-- Puts lexemes into trees; `here` are the trees since the last open bracket, latest first. -/
def nestFrom (above : OpenGroups) (here : List Tree) : List Lexeme → Option (List Tree)
  | [] => match above with
    | [] => some here.reverse
    | _ :: _ => none
  | .token t :: rest => nestFrom above (.token t :: here) rest
  | .opening b :: rest => nestFrom ((b, here) :: above) [] rest
  | .closing b :: rest => match above with
    | [] => none
    | (opened, before) :: above =>
      if opened = b then nestFrom above (.group b here.reverse :: before) rest else none

/-- The trees of some lexemes, if their brackets belong together. -/
def nest (lexemes : List Lexeme) : Option (List Tree) := nestFrom [] [] lexemes

/-! ## 2. Flattening -/

mutual

/-- The lexemes of a tree. -/
def Tree.flatten : Tree → List Lexeme
  | .token t => [.token t]
  | .group b content => .opening b :: flattenAll content ++ [.closing b]

/-- The lexemes of some trees. -/
def flattenAll : List Tree → List Lexeme
  | [] => []
  | tree :: rest => tree.flatten ++ flattenAll rest

end

mutual

theorem nestFrom_flatten (tree : Tree) (above : OpenGroups) (here : List Tree)
    (rest : List Lexeme) :
    nestFrom above here (tree.flatten ++ rest) = nestFrom above (tree :: here) rest := by
  cases tree with
  | token t => simp [Tree.flatten, nestFrom]
  | group b content =>
    simp only [Tree.flatten, List.cons_append, List.append_assoc, nestFrom]
    rw [nestFrom_flattenAll content]
    simp [nestFrom]

theorem nestFrom_flattenAll (trees : List Tree) (above : OpenGroups) (here : List Tree)
    (rest : List Lexeme) :
    nestFrom above here (flattenAll trees ++ rest) = nestFrom above (trees.reverse ++ here) rest := by
  cases trees with
  | nil => simp [flattenAll]
  | cons tree more =>
    simp only [flattenAll, List.append_assoc]
    rw [nestFrom_flatten tree, nestFrom_flattenAll more]
    simp

end

/-- Flattened trees nest to the same trees. -/
theorem nest_flatten (trees : List Tree) : nest (flattenAll trees) = some trees := by
  have h := nestFrom_flattenAll trees [] [] []
  simpa [nest, nestFrom] using h

end DeviceCli.Clause
