import DeviceCli.Regex.Lexer

/-!
# From tokens to an expression

`assemble` puts tokens together. What is open is kept as a stack of groups, each with what stood
before it, so the reading is a recursion over the tokens.

`Expr.nesting` is the depth that the limit `nestLimit` bounds, and `parse` reads a whole pattern.
-/

namespace DeviceCli.Regex

/-! ## 1. Putting tokens together -/

/-- The head of an open group. -/
inductive GroupHead where
  | capture (index : Nat)
  | plain (flags : List FlagItem)
  deriving Inhabited

/-- A group that is open: its head, the finished alternatives around it and the items before it,
    both latest first. -/
structure OpenGroup where
  head : GroupHead
  branches : List Expr
  items : List Expr
  deriving Inhabited

/-- Items in a row, latest first, in front of an expression. -/
def seqOnto (tail : Expr) : List Expr → Expr
  | [] => tail
  | e :: before => seqOnto (.seq e tail) before

/-- Items in a row, latest first, as one expression. -/
def seqOf : List Expr → Expr
  | [] => .empty
  | e :: before => seqOnto e before

/-- Finished alternatives, latest first, in front of the last one. -/
def altOnto (tail : Expr) : List Expr → Expr
  | [] => tail
  | e :: before => altOnto (.alt e tail) before

/-- The body of a group around a finished one. -/
def GroupHead.close (head : GroupHead) (body : Expr) : Expr :=
  match head with
  | .capture index => .capture index body
  | .plain flags => .group flags body

/-- Whether an item may be repeated: flags that stand alone may not. -/
def Expr.isRepeatable : Expr → Bool
  | .flags _ => false
  | _ => true

/-- Reads the tokens that follow, given the index of the next capture, the groups that are open,
    and the alternatives and items of the innermost one. -/
def assemble : List Token → Nat → List OpenGroup → List Expr → List Expr → Except Problem Expr
  | [], _, [], branches, items => pure (altOnto (seqOf items) branches)
  | [], _, _ :: _, _, _ => throw .unclosedGroup
  | .close :: _, _, [], _, _ => throw .unopenedGroup
  | .close :: rest, n, g :: outer, branches, items =>
    assemble rest n outer g.branches (g.head.close (altOnto (seqOf items) branches) :: g.items)
  | .openGroup (.capture _) :: rest, n, outer, branches, items =>
    assemble rest (n + 1) (⟨.capture n, branches, items⟩ :: outer) [] []
  | .openGroup (.plain flags) :: rest, n, outer, branches, items =>
    assemble rest n (⟨.plain flags, branches, items⟩ :: outer) [] []
  | .bar :: rest, n, outer, branches, items => assemble rest n outer (seqOf items :: branches) []
  | .repeats count greedy :: rest, n, outer, branches, items => match items with
    | [] => throw .nothingToRepeat
    | e :: before =>
      if e.isRepeatable then assemble rest n outer branches (.repeats count greedy e :: before)
      else throw .nothingToRepeat
  | .flags f :: rest, n, outer, branches, items => assemble rest n outer branches (.flags f :: items)
  | .char c :: rest, n, outer, branches, items => assemble rest n outer branches (.char c :: items)
  | .byte c :: rest, n, outer, branches, items => assemble rest n outer branches (.byte c :: items)
  | .dot :: rest, n, outer, branches, items => assemble rest n outer branches (.dot :: items)
  | .anchor a :: rest, n, outer, branches, items =>
    assemble rest n outer branches (.anchor a :: items)
  | .set s :: rest, n, outer, branches, items => assemble rest n outer branches (.set s :: items)

/-- The names of the captures, in order. -/
def captureNames (tokens : List Token) : List (List Char) :=
  tokens.filterMap fun
    | .openGroup (.capture name) => name
    | _ => none

/-- Whether all members of a list differ. -/
def allDifferent : List (List Char) → Bool
  | [] => true
  | name :: rest => !rest.contains name && allDifferent rest

/-! ## 2. The nesting limit -/

/-- What an expression is a direct part of, as far as the depth is concerned. -/
inductive Joint where
  | none | seq | alt
  deriving DecidableEq

/-- The depth of a class; `inUnion` says that it is a part of a union that is counted already. -/
def SetSyntax.nesting (inUnion : Bool) : SetSyntax → Nat
  | .union a b => (if inUnion then 0 else 1) + max (a.nesting true) (b.nesting false)
  | .bracket _ inner => 1 + inner.nesting false
  | .binary _ a b => 1 + max (a.nesting false) (b.nesting false)
  | _ => 0

/-- The depth of an expression: a row of items and a row of alternatives each count once. -/
def Expr.nesting (joint : Joint) : Expr → Nat
  | .seq a b => (if joint = .seq then 0 else 1) + max (a.nesting .none) (b.nesting .seq)
  | .alt a b => (if joint = .alt then 0 else 1) + max (a.nesting .none) (b.nesting .alt)
  | .repeats _ _ body => 1 + body.nesting .none
  | .capture _ body => 1 + body.nesting .none
  | .group _ body => 1 + body.nesting .none
  | .set s => s.nesting false
  | _ => 0

/-- The greatest depth a pattern may have. -/
def nestLimit : Nat := 250

/-! ## 3. Whole patterns -/

/-- The expression of a pattern. -/
def parse (pattern : List Char) : Except Problem Expr := do
  let tokens ← tokenize pattern
  if !allDifferent (captureNames tokens) then throw .duplicateGroupName
  let e ← assemble tokens 1 [] [] []
  if e.nesting .none > nestLimit then throw .nestedTooDeeply
  pure e

end DeviceCli.Regex
