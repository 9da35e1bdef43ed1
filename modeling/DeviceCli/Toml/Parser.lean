import DeviceCli.Toml.Moment
import DeviceCli.Toml.Token
import DeviceCli.Toml.Table

/-!
# Reading TOML

`Toml.parse?` reads a document, version 1.0, and gives the value that its tables form. A document
is a list of lines; each is empty, a key with its value, or a header that says to which table the
keys behind it belong.
-/

namespace DeviceCli.Toml

/-! ## 1. Values -/

/-- The items of an array behind its bracket; a comma may follow the last one. -/
def readItems (value : List Char → Option (Json × List Char)) :
    Nat → List Char → Option (List Json × List Char)
  | 0, _ => none
  | fuel + 1, s =>
    match skipLines (s.length + 1) s with
    | ']' :: rest => some ([], rest)
    | s => do
      let (item, rest) ← value s
      match skipLines (rest.length + 1) rest with
      | ',' :: rest => do
        let (items, rest) ← readItems value fuel rest
        pure (item :: items, rest)
      | ']' :: rest => pure ([item], rest)
      | _ => none

/-- A key and its value. -/
def readPair (value : List Char → Option (Json × List Char)) (s : List Char) :
    Option (List String × Json × List Char) := do
  let (key, rest) ← readKey s
  match skipSpace rest with
  | '=' :: rest =>
    let (item, rest) ← value (skipSpace rest)
    pure (key, item, rest)
  | _ => none

/-- Adds a value under a key to a table. -/
def putPair (inline : Bool) (key : List String) (value : Json) (t : Tree) : Option Tree :=
  t.putValue inline key.dropLast (key.getLastD "") value

/-- The pairs of an inline table, from the first one on, added to a table. -/
def readInline (value : List Char → Option (Json × List Char)) :
    Nat → Tree → List Char → Option (Tree × List Char)
  | 0, _, _ => none
  | fuel + 1, t, s => do
    let (key, item, rest) ← readPair value (skipSpace s)
    let t ← putPair true key item t
    match skipSpace rest with
    | ',' :: rest => readInline value fuel t rest
    | '\x7d' :: rest => pure (t, rest)
    | _ => none

/-- A value, with at most so many arrays and inline tables within each other. -/
def readValue : Nat → List Char → Option (Json × List Char)
  | depth, s =>
    match s with
    | '"' :: _ | '\'' :: _ =>
      (readString s).map fun (cs, rest) => (.string (String.ofList cs), rest)
    | 't' :: 'r' :: 'u' :: 'e' :: rest => some (.bool true, rest)
    | 'f' :: 'a' :: 'l' :: 's' :: 'e' :: rest => some (.bool false, rest)
    | '[' :: rest => match depth with
      | 0 => none
      | depth + 1 => (readItems (readValue depth) (rest.length + 1) rest).map fun (items, after) =>
        (.array items, after)
    | '\x7b' :: rest => match depth with
      | 0 => none
      | depth + 1 => match skipSpace rest with
        | '\x7d' :: after => some (.object [], after)
        | _ => (readInline (readValue depth) (rest.length + 1) (.table true false []) rest).map
            fun (t, after) => (t.toJson, after)
    | _ => match skipMoment s with
      | some rest => some (unusable, rest)
      | none => readNumber s

/-- How many arrays and inline tables may be within each other. -/
def nestLimit : Nat := 79

/-! ## 2. Documents -/

/-- A document under construction: its tables, and the path of the table that keys go to. -/
structure Draft where
  root : Tree := .table false false []
  path : List String := []
  deriving Inhabited

/-- Adds a key with its value to the table that is open. -/
def Draft.put (draft : Draft) (key : List String) (value : Json) : Option Draft :=
  (draft.root.descend false false (putPair false key value) draft.path).map fun root =>
    { draft with root }

/-- Opens the table of a header, or one more of a list of tables. -/
def Draft.enter (draft : Draft) (listed : Bool) (key : List String) : Option Draft :=
  let name := key.getLastD ""
  let opening := if listed then Tree.openListed name else Tree.openTable name
  (draft.root.descend false false opening key.dropLast).map fun root => ⟨root, key⟩

/-- A line behind its leading white space: a header, a key with its value, or nothing. -/
def readLine (draft : Draft) (s : List Char) : Option (Draft × List Char) :=
  match s with
  | '[' :: '[' :: rest => do
    let (key, rest) ← readKey (skipSpace rest)
    match skipSpace rest with
    | ']' :: ']' :: rest => pure (← draft.enter true key, rest)
    | _ => none
  | '[' :: rest => do
    let (key, rest) ← readKey (skipSpace rest)
    match skipSpace rest with
    | ']' :: rest => pure (← draft.enter false key, rest)
    | _ => none
  | [] | '#' :: _ | '\n' :: _ | '\r' :: _ => some (draft, s)
  | _ => do
    let (key, value, rest) ← readPair (readValue nestLimit) s
    pure (← draft.put key value, rest)

/-- All lines, at most so many. -/
def readLines : Nat → Draft → List Char → Option Draft
  | 0, _, _ => none
  | fuel + 1, draft, s => do
    let (draft, rest) ← readLine draft (skipSpace s)
    let rest := skipComment rest
    if rest.isEmpty then pure draft
    else
      let rest ← newline? rest
      readLines fuel draft rest

/-- The value of a document. -/
def parse? (text : String) : Option Json :=
  let s := match text.toList with
    | '\uFEFF' :: rest => rest
    | s => s
  (readLines (s.length + 1) {} s).map fun draft => draft.root.toJson

end DeviceCli.Toml
