import DeviceCli.Regex.Syntax

/-!
# Patterns without flags

A `Node` is a pattern in which every class is a set of characters and every position is said
outright. Nodes are built in a simple form:

* `Node.ofSet`: a set of one character is a literal;
* `Node.concat`: rows are flat, without empty items, and literals in a row are one literal;
* `Node.alternation`: alternatives are flat; those of single characters and those of sets are one
  set, and items that begin all of them are taken out in front;
* `Node.repetition`: a repetition that can only match the empty text is made at most once, one of
  at most zero times is the empty pattern, and captures in it are then no captures of the pattern.
-/

namespace DeviceCli.Regex

open DeviceCli.Text

/-- A condition on the characters around a position. -/
inductive Look where
  | textStart | textEnd
  | lineStart | lineEnd
  | crlfStart | crlfEnd
  /-- the tests on word characters, of Unicode or of ASCII -/
  | boundary (unicode : Bool)
  | notBoundary (unicode : Bool)
  | wordStart (unicode : Bool)
  | wordEnd (unicode : Bool)
  | wordStartHalf (unicode : Bool)
  | wordEndHalf (unicode : Bool)
  deriving DecidableEq, Inhabited

/-- A pattern in which nothing depends on flags. -/
inductive Node where
  | empty
  /-- some characters in a row -/
  | literal (chars : List Char)
  | set (members : CodeSet)
  | look (l : Look)
  | capture (index : Nat) (body : Node)
  | repeats (count : Count) (greedy : Bool) (body : Node)
  | seq (first rest : Node)
  | alt (first rest : Node)
  deriving Inhabited, DecidableEq

namespace Node

/-! ## 1. Lengths -/

/-- Whether a pattern matches no text but the empty one. -/
def onlyEmpty : Node → Bool
  | empty => true
  | literal chars => chars.isEmpty
  | set _ => false
  | look _ => true
  | capture _ body => body.onlyEmpty
  | repeats count _ body => count.most == some 0 || body.onlyEmpty
  | seq a b => a.onlyEmpty && b.onlyEmpty
  | alt a b => a.onlyEmpty && b.onlyEmpty

/-- Whether every match takes a character; nothing is said of a pattern that needs a member of an
    empty set. -/
def takes? : Node → Option Bool
  | empty => some false
  | literal chars => some !chars.isEmpty
  | set members => if members.isEmpty then none else some true
  | look _ => some false
  | capture _ body => body.takes?
  | repeats count _ body => body.takes?.map (· && count.least != 0)
  | seq a b => do pure ((← a.takes?) || (← b.takes?))
  | alt a b => do pure ((← a.takes?) && (← b.takes?))

/-- Whether a pattern may match the empty text, as far as lengths tell. -/
def maybeEmpty (node : Node) : Bool := node.takes? != some true

/-- The greatest index of a capture, zero if there is none. -/
def lastCapture : Node → Nat
  | capture index body => max index body.lastCapture
  | repeats _ _ body => body.lastCapture
  | seq a b => max a.lastCapture b.lastCapture
  | alt a b => max a.lastCapture b.lastCapture
  | _ => 0

/-- How many parts a pattern has. -/
def size : Node → Nat
  | capture _ body => body.size + 1
  | repeats _ _ body => body.size + 1
  | seq a b => a.size + b.size + 1
  | alt a b => a.size + b.size + 1
  | _ => 1

/-! ## 2. Sets and rows -/

/-- A set of characters. -/
def ofSet (s : CodeSet) : Node :=
  match s.only? with
  | some n => literal [Char.ofNat n]
  | none => set s

/-- A literal in front of a pattern. -/
def literalThen (chars : List Char) : Node → Node
  | empty => literal chars
  | literal more => literal (chars ++ more)
  | seq (literal more) rest => seq (literal (chars ++ more)) rest
  | node => seq (literal chars) node

/-- One pattern, then another. -/
def concat : Node → Node → Node
  | empty, b => b
  | literal chars, b => literalThen chars b
  | seq first rest, b => concat first (concat rest b)
  | a, empty => a
  | a, b => seq a b

/-- The items of a row. -/
def items : Node → List Node
  | seq first rest => first :: rest.items
  | node => [node]

/-- The items in a row. -/
def row (list : List Node) : Node := list.foldr concat empty

/-! ## 3. Alternatives -/

/-- The alternatives of a pattern. -/
def branches : Node → List Node
  | alt first rest => first :: rest.branches
  | node => [node]

/-- A pattern that matches nothing. -/
def nothing : Node := set .empty

/-- Alternatives as they are. -/
def altOf : List Node → Node
  | [] => nothing
  | [node] => node
  | node :: rest => alt node (altOf rest)

/-- The only character of a literal. -/
def char? : Node → Option Char
  | literal [c] => some c
  | _ => none

/-- The members of a set. -/
def members? : Node → Option CodeSet
  | set s => some s
  | _ => none

/-- The items of a row of several. -/
def row? : Node → Option (List Node)
  | seq first rest => some (first :: rest.items)
  | _ => none

/-- The items that two rows begin with. -/
def common : List Node → List Node → List Node
  | a :: as, b :: bs => if a = b then a :: common as bs else []
  | _, _ => []

/-- The items that all rows begin with. -/
def commonFront : List (List Node) → List Node
  | [] => []
  | first :: rest => rest.foldl common first

/-- Alternatives in simple form; `fuel` bounds how often items are taken out in front. -/
def alternationWithin : Nat → List Node → Node
  | 0, list => altOf list
  | fuel + 1, list =>
    let flat := list.flatMap branches
    match flat with
    | [] => nothing
    | [node] => node
    | _ => match flat.mapM char? with
      | some chars => ofSet (.ofCodes (chars.map Char.toNat))
      | none => match flat.mapM members? with
        | some sets => ofSet (.unionAll sets)
        | none => match flat.mapM row? with
          | none => altOf flat
          | some rows => match commonFront rows with
            | [] => altOf flat
            | front =>
              concat (row front)
                (alternationWithin fuel (rows.map fun r => row (r.drop front.length)))

/-- Alternatives in simple form. -/
def alternation : List Node → Node
  | [node] => node
  | list => alternationWithin (list.foldl (fun n node => n + node.size) 1) list

/-! ## 4. Repetition -/

/-- A repetition, simplified where its bounds or its body allow it. -/
def repetition (count : Count) (greedy : Bool) (body : Node) : Node :=
  let count : Count :=
    if body.onlyEmpty then ⟨min count.least 1, some (min (count.most.getD 1) 1)⟩ else count
  if count = ⟨0, some 0⟩ then empty
  else if count = ⟨1, some 1⟩ then body
  else repeats count greedy body

end Node

end DeviceCli.Regex
