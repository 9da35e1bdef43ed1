import DeviceCli.Decimal.Shortest
import DeviceCli.Keyed

/-!
# JSON values

A `Json` keeps the members of an object in the order in which they were written, repeated keys
included; `canonical` sorts them by key and keeps the last of equal keys.

Numbers are integers from -2^63 to 2^64 - 1, or binary floating point.
-/

namespace DeviceCli

/-- A JSON value. -/
inductive Json where
  | null
  | bool (b : Bool)
  | int (n : Int)
  | real (x : Binary64)
  | string (s : String)
  | array (items : List Json)
  | object (members : List (String × Json))
  deriving Inhabited

namespace Json

/-- The number of a value as floating point, if it is a number. -/
def asReal? : Json → Option Binary64
  | int n => some (Binary64.ofInt n)
  | real x => some x
  | _ => none

/-- The text of a value, if it is a string. -/
def asString? : Json → Option String
  | string s => some s
  | _ => none

/-- The last member of an object under a key. -/
def member? (key : String) : Json → Option Json
  | object members => (members.reverse.lookup key)
  | _ => none

mutual

/-- The value with the members of all objects sorted by key, each key once. -/
def canonical : Json → Json
  | array items => array (canonicalItems items)
  | object members => object (canonicalMembers members [])
  | other => other

/-- `canonical` on each item. -/
def canonicalItems : List Json → List Json
  | [] => []
  | item :: rest => item.canonical :: canonicalItems rest

/-- Puts the members, each in canonical form, into a sorted list. -/
def canonicalMembers : List (String × Json) → List (String × Json) → List (String × Json)
  | [], sorted => sorted
  | (key, value) :: rest, sorted => canonicalMembers rest (Keyed.put key value.canonical sorted)

end

end Json

end DeviceCli
