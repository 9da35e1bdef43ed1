import DeviceCli.Json.Basic
import DeviceCli.Regex.Basic

/-!
# Records in JSON values

A record is an object with a fixed set of members, or the array of their values in order. Reading
one gives a function from names to values, absent members being `none`:

* `record` refuses repeated members and, if asked to be strict, members it does not know;
* `required`, `withDefault` and `optional` read one member; a null counts as absent for
  `optional` alone;
* `Dialect` holds the two points in which documents of different formats are read differently.
-/

namespace DeviceCli.Json

/-- How a value fails to be what was asked for. -/
inductive Mismatch where
  | unknownMember (name : String)
  | repeatedMember (name : String)
  | missingMember (name : String)
  | tooManyItems
  | wrongKind (expected : String)
  | unknownVariant (name : String)
  | invalidPattern (source : String) (error : Regex.Error)
  | invalid (reason : String)
  deriving DecidableEq

/-- A mismatch in words. -/
def Mismatch.message : Mismatch → String
  | unknownMember name => s!"unknown field '{name}'"
  | repeatedMember name => s!"duplicate field '{name}'"
  | missingMember name => s!"missing field '{name}'"
  | tooManyItems => "too many elements"
  | wrongKind expected => s!"expected {expected}"
  | unknownVariant name => s!"unknown variant '{name}'"
  | invalidPattern source error => s!"invalid regex '{source}': {error.message}"
  | invalid reason => reason

/-- What the format of a document leaves open. -/
structure Dialect where
  /-- a record written as an array may have items behind its last member -/
  extraItems : Bool
  /-- whether a value may stand for the content of a variant that has none -/
  isUnit : Json → Bool

/-- JSON documents: records have exact length, and a variant without content holds null. -/
def Dialect.json : Dialect where
  extraItems := false
  isUnit
    | null => true
    | _ => false

/-- TOML documents: further items are passed over, and a variant without content holds an empty
    table or array. -/
def Dialect.toml : Dialect where
  extraItems := true
  isUnit
    | array [] => true
    | object [] => true
    | _ => false

/-! ## 1. Records -/

/-- The members of a record, by name. -/
abbrev Row := String → Option Json

/-- Checks the members of an object against the names of a record. -/
def checkMembers (strict : Bool) (names : List String) :
    List String → List (String × Json) → Except Mismatch Unit
  | _, [] => pure ()
  | seen, (key, _) :: rest =>
    if names.contains key then
      if seen.contains key then throw (.repeatedMember key)
      else checkMembers strict names (key :: seen) rest
    else if strict then throw (.unknownMember key)
    else checkMembers strict names seen rest

/-- A value as a record with the given names. -/
def record (d : Dialect) (strict : Bool) (names : List String) : Json → Except Mismatch Row
  | object members => do
    checkMembers strict names [] members
    pure fun name => members.lookup name
  | array items =>
    if !d.extraItems && items.length > names.length then throw .tooManyItems
    else pure fun name => (names.zip items).lookup name
  | _ => throw (.wrongKind "a record")

/-- A member that must be there. -/
def required {α : Type} (row : Row) (name : String) (read : Json → Except Mismatch α) :
    Except Mismatch α :=
  match row name with
  | some j => read j
  | none => throw (.missingMember name)

/-- A member with a value to take when it is absent. -/
def withDefault {α : Type} (row : Row) (name : String) (read : Json → Except Mismatch α)
    (value : α) : Except Mismatch α :=
  match row name with
  | some j => read j
  | none => pure value

/-- A member that may be absent or null. -/
def optional {α : Type} (row : Row) (name : String) (read : Json → Except Mismatch α) :
    Except Mismatch (Option α) :=
  match row name with
  | none => pure none
  | some null => pure none
  | some j => (read j).map some

/-! ## 2. Simple values -/

/-- A string. -/
def asString : Json → Except Mismatch String
  | string s => pure s
  | _ => throw (.wrongKind "a string")

/-- A truth value. -/
def asBool : Json → Except Mismatch Bool
  | bool b => pure b
  | _ => throw (.wrongKind "a boolean")

/-- A natural number below 2^64. -/
def asNat : Json → Except Mismatch Nat
  | int n => if 0 ≤ n ∧ n.toNat < Nat.pow 2 64 then pure n.toNat else throw (.wrongKind "an unsigned number")
  | _ => throw (.wrongKind "an unsigned number")

/-- Any number, as floating point. -/
def asReal (j : Json) : Except Mismatch Binary64 :=
  match j.asReal? with
  | some x => pure x
  | none => throw (.wrongKind "a number")

/-- A list of strings. -/
def asStrings : Json → Except Mismatch (List String)
  | array items => items.mapM asString
  | _ => throw (.wrongKind "a list of strings")

/-- The name of a variant without content: a string, or an object with that one member. -/
def asVariant (d : Dialect) : Json → Except Mismatch String
  | string s => pure s
  | object [(name, content)] =>
    if d.isUnit content then pure name else throw (.wrongKind "a variant without content")
  | _ => throw (.wrongKind "a variant")

/-- Reads the members of an object one after the other. -/
def readEntries {α : Type} (read : Json → Except Mismatch α) :
    List (String × Json) → Except Mismatch (List (String × α))
  | [] => pure []
  | (key, value) :: rest => do
    let value ← read value
    pure ((key, value) :: (← readEntries read rest))

/-- An object whose keys are free and whose values are of one kind; of equal keys the last
    counts. -/
def asKeyed {α : Type} (read : Json → Except Mismatch α) : Json → Except Mismatch (Keyed α)
  | object members => (readEntries read members).map Keyed.ofList
  | _ => throw (.wrongKind "a map")

/-! ## 3. Writing records -/

/-- A member that is written only if there is a value. -/
def memberIf {α : Type} (name : String) (write : α → Json) : Option α → List (String × Json)
  | some a => [(name, write a)]
  | none => []

/-- A natural number. -/
def ofNat (n : Nat) : Json := int n

/-- A list of strings. -/
def ofStrings (list : List String) : Json := array (list.map string)

/-- A map. -/
def ofKeyed {α : Type} (write : α → Json) (m : Keyed α) : Json :=
  object (m.entries.map fun e => (e.1, write e.2))

end DeviceCli.Json
