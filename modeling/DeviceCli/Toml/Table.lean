import DeviceCli.Json.Basic

/-!
# Tables under construction

A TOML document builds a tree of tables by headers and by dotted keys, and each table may be
defined only once. A `Tree` therefore remembers how each table came about:

* a table that is only *implied* by a longer path may still be given a header of its own;
* a table that was made by a *dotted* key may be extended by dotted keys only;
* a leaf, and all that is in it, is closed.
-/

namespace DeviceCli.Toml

/-- A part of a document. -/
inductive Tree where
  | leaf (value : Json)
  | table (implied dotted : Bool) (entries : List (String × Tree))
  | tables (items : List Tree)
  deriving Inhabited

namespace Tree

/-- A table that a path implies. -/
def fresh (dotted : Bool) : Tree := table true dotted []

/-- The entries with one of them replaced, or added at the end. -/
def setEntry (key : String) (t : Tree) : List (String × Tree) → List (String × Tree)
  | [] => [(key, t)]
  | (k, old) :: rest => if k = key then (k, t) :: rest else (k, old) :: setEntry key t rest

/-- Applies a function to the last item of a list. -/
def onLast (f : Tree → Option Tree) : List Tree → Option (List Tree)
  | [] => none
  | [t] => (f t).map fun t => [t]
  | t :: rest => (onLast f rest).map (t :: ·)

/-- Goes down a path and applies a function to the table there. Tables that are missing are made;
    of a list of tables the last one is meant. By a dotted key, only implied tables are entered,
    and inside an inline table no lists of tables are. -/
def descend (dotted inline : Bool) (f : Tree → Option Tree) : List String → Tree → Option Tree
  | [], t => f t
  | key :: path, table implied isDotted entries => do
    let child ← match entries.lookup key with
      | none => descend dotted inline f path (fresh dotted)
      | some (leaf _) => none
      | some (tables items) =>
        if inline then none else (onLast (descend dotted inline f path) items).map tables
      | some (table i d es) =>
        if dotted && !i then none else descend dotted inline f path (table i d es)
    pure (table implied isDotted (setEntry key child entries))
  | _ :: _, _ => none

/-- Adds a value to a table. A table of dotted keys takes values by dotted keys only, and any
    other table takes them by plain keys only. -/
def addValue (byDotted : Bool) (key : String) (value : Json) : Tree → Option Tree
  | table implied isDotted entries =>
    if isDotted != byDotted || (entries.lookup key).isSome then none
    else some (table implied isDotted (entries ++ [(key, leaf value)]))
  | _ => none

/-- Adds a value under a key that may be dotted. -/
def putValue (inline : Bool) (path : List String) (key : String) (value : Json) (t : Tree) :
    Option Tree :=
  descend true inline (addValue (!path.isEmpty) key value) path t

/-- Opens the table of a header: a new one, or one that was only implied. -/
def openTable (key : String) : Tree → Option Tree
  | table implied isDotted entries => match entries.lookup key with
    | none => some (table implied isDotted (entries ++ [(key, table false false [])]))
    | some (table true false inner) =>
      some (table implied isDotted (setEntry key (table false false inner) entries))
    | _ => none
  | _ => none

/-- Opens one more table in a list of tables. -/
def openListed (key : String) : Tree → Option Tree
  | table implied isDotted entries => match entries.lookup key with
    | none => some (table implied isDotted (entries ++ [(key, tables [table false false []])]))
    | some (tables items) =>
      some (table implied isDotted
        (setEntry key (tables (items ++ [table false false []])) entries))
    | _ => none
  | _ => none

mutual

/-- The finished value. -/
def toJson : Tree → Json
  | leaf value => value
  | table _ _ entries => .object (entriesToJson entries)
  | tables items => .array (itemsToJson items)

/-- The finished values of entries. -/
def entriesToJson : List (String × Tree) → List (String × Json)
  | [] => []
  | (key, t) :: rest => (key, t.toJson) :: entriesToJson rest

/-- The finished values of items. -/
def itemsToJson : List Tree → List Json
  | [] => []
  | t :: rest => t.toJson :: itemsToJson rest

end

end Tree

end DeviceCli.Toml
