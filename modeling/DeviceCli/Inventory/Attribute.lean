import DeviceCli.Failure
import DeviceCli.Json.Printer

/-!
# Attributes

An `Attribute` is a value that is stored about a device, a configuration or a diagnostic: a flag, a
number, a text, or a list or an object of JSON.

* `ofJson` turns any JSON value but null into an attribute, `toJson` goes back; a number comes back
  as floating point;
* `text` is how an attribute is shown;
* `marked` tags an object with an empty member.
-/

namespace DeviceCli

/-- A value stored about a device. -/
inductive Attribute where
  | flag (b : Bool)
  | number (x : Binary64)
  | text (s : String)
  | structured (j : Json)
  deriving Inhabited

namespace Attribute

/-! ## 1. From JSON and back -/

/-- The attribute of a JSON value, null being kept as it is. -/
def ofAny : Json → Attribute
  | .bool b => flag b
  | .int n => number (Binary64.ofInt n)
  | .real x => number x
  | .string s => text s
  | other => structured other.canonical

/-- The attribute of a JSON value; null stands for no value at all. -/
def ofJson : Json → Except Failure Attribute
  | .null => .error (.argument .undefinedValue)
  | other => .ok (ofAny other)

/-- The attribute of a whole number. -/
def ofInt (n : Int) : Attribute := number (Binary64.ofInt n)

/-- An attribute as a JSON value. -/
def toJson : Attribute → Json
  | flag b => .bool b
  | number x => .real x
  | text s => .string s
  | structured j => j

/-! ## 2. Reading -/

/-- The text, if it is one. -/
def asText? : Attribute → Option String
  | text s => some s
  | _ => none

/-- The number, if it is one. -/
def asNumber? : Attribute → Option Binary64
  | number x => some x
  | _ => none

/-- The flag, if it is one. -/
def asFlag? : Attribute → Option Bool
  | flag b => some b
  | _ => none

/-- An attribute as it is shown: numbers without an exponent, structured values as JSON. -/
def display : Attribute → String
  | flag b => if b then "true" else "false"
  | number x => x.positional
  | text s => s
  | structured j => j.compact

/-! ## 3. Marking -/

/-- The name of the member that marks an object. -/
def marker : String := "__"

/-- An object with an empty object under the marker, in place of what was there; other attributes
    stay. -/
def marked : Attribute → Attribute
  | structured (.object members) => structured (.object (Keyed.put marker (.object []) members))
  | other => other

end Attribute

end DeviceCli
