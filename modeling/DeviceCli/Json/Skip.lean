import DeviceCli.Json.Parser

/-!
# Passing over JSON values

A member that a record does not know need not be a value that can be kept: it is enough that it is
written as one. Numbers may then be out of range, half a surrogate pair may stand alone, and arrays
and objects may be in each other without limit.

* `skipValue` passes over a value;
* `parsePicked?` reads a document and keeps the members of some names only.
-/

namespace DeviceCli.Json

open DeviceCli.Text

/-! ## 1. Values without parts -/

/-- What stands behind a string whose opening quote was passed. -/
def skipString : List Char → Option (List Char)
  | [] => none
  | '"' :: rest => some rest
  | '\\' :: 'u' :: a :: b :: c :: d :: rest =>
    if (hexQuad a b c d).isSome then skipString rest else none
  | '\\' :: e :: rest => if (shortEscape e).isSome then skipString rest else none
  | c :: rest => if c < ' ' ∨ c = '\\' then none else skipString rest

/-- What stands behind an exponent whose letter was passed. -/
def skipExponent (s : List Char) : Option (List Char) := (readExponent s).map fun (_, _, rest) => rest

/-- What stands behind a number whose sign was passed. -/
def skipNumber (s : List Char) : Option (List Char) :=
  let digits := s.takeWhile isDigit
  let rest := s.dropWhile isDigit
  match digits with
  | [] => none
  | '0' :: _ :: _ => none
  | _ => match rest with
    | '.' :: more =>
      if (more.takeWhile isDigit).isEmpty then none
      else match more.dropWhile isDigit with
        | 'e' :: after | 'E' :: after => skipExponent after
        | after => some after
    | 'e' :: after | 'E' :: after => skipExponent after
    | _ => some rest

/-- What stands behind a value that is no array or object. -/
def skipScalar : List Char → Option (List Char)
  | 'n' :: 'u' :: 'l' :: 'l' :: rest => some rest
  | 't' :: 'r' :: 'u' :: 'e' :: rest => some rest
  | 'f' :: 'a' :: 'l' :: 's' :: 'e' :: rest => some rest
  | '"' :: rest => skipString rest
  | '-' :: rest => skipNumber rest
  | s => skipNumber s

/-! ## 2. Arrays and objects -/

/-- What is open around a value. -/
inductive Bracket where
  | array | object
  deriving DecidableEq

/-- What may come next. -/
inductive Expected where
  /-- a value -/
  | value
  /-- the first item or member, or the end of what has just been opened -/
  | first
  /-- a key -/
  | key
  /-- what follows a value: a comma or the end of what is open -/
  | more

/-- Passes over what is open, innermost first; each step but the last takes a character or changes
    what is expected, so `fuel` bounds them. -/
def skipOpen : Nat → List Bracket → Expected → List Char → Option (List Char)
  | 0, _, _, _ => none
  | fuel + 1, opened, .value, s => match skipSpace s with
    | '[' :: rest => skipOpen fuel (.array :: opened) .first rest
    | '\x7b' :: rest => skipOpen fuel (.object :: opened) .first rest
    | s => match skipScalar s with
      | some rest => skipOpen fuel opened .more rest
      | none => none
  | fuel + 1, opened, .first, s => match opened, skipSpace s with
    | .array :: outer, ']' :: rest => skipOpen fuel outer .more rest
    | .object :: outer, '\x7d' :: rest => skipOpen fuel outer .more rest
    | .object :: _, s => skipOpen fuel opened .key s
    | _, s => skipOpen fuel opened .value s
  | fuel + 1, opened, .key, s => match skipSpace s with
    | '"' :: rest => match (skipString rest).map skipSpace with
      | some (':' :: after) => skipOpen fuel opened .value after
      | _ => none
    | _ => none
  | fuel + 1, opened, .more, s => match opened with
    | [] => some s
    | bracket :: outer => match bracket, skipSpace s with
      | .array, ',' :: rest => skipOpen fuel opened .value rest
      | .array, ']' :: rest => skipOpen fuel outer .more rest
      | .object, ',' :: rest => skipOpen fuel opened .key rest
      | .object, '\x7d' :: rest => skipOpen fuel outer .more rest
      | _, _ => none

/-- What stands behind a value. -/
def skipValue (s : List Char) : Option (List Char) := skipOpen (2 * s.length + 2) [] .value s

/-! ## 3. Picking members -/

/-- The members of an object that have one of some names, from the first key on. -/
def readPicked (names : List String) : Nat → List Char → Option (List (String × Json) × List Char)
  | 0, _ => none
  | fuel + 1, s => do
    match skipSpace s with
    | '"' :: rest =>
      let (key, rest) ← readString rest
      let key := String.ofList key
      match skipSpace rest with
      | ':' :: rest =>
        let (picked, rest) ←
          if names.contains key then
            (readValue (nestLimit - 1) rest).map fun (item, after) => ([(key, item)], after)
          else (skipValue rest).map fun after => ([], after)
        match skipSpace rest with
        | ',' :: rest => do
          let (members, rest) ← readPicked names fuel rest
          pure (picked ++ members, rest)
        | '\x7d' :: rest => pure (picked, rest)
        | _ => none
      | _ => none
    | _ => none

/-- The value that a text is; of an object only the members of some names are kept, and the others
    are passed over. -/
def parsePicked? (names : List String) (text : String) : Option Json :=
  match skipSpace text.toList with
  | '\x7b' :: rest => do
    let (members, rest) ← match skipSpace rest with
      | '\x7d' :: after => pure ([], after)
      | _ => readPicked names (rest.length + 1) rest
    if (skipSpace rest).isEmpty then pure (.object members) else none
  | _ => parse? text

end DeviceCli.Json
