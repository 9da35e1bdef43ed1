import DeviceCli.Inventory.Attribute
import DeviceCli.Net.Address

/-!
# Where rules read

A rule reads the data of devices from a `Provider`: values by key, of the device it looks at or of
another one, and the addresses of hosts. Values are attributes in lists and maps of any depth, and a
rule sees them as JSON.
-/

namespace DeviceCli

/-- A value as a provider holds it. -/
inductive DataValue where
  | missing
  | scalar (a : Attribute)
  | list (items : List DataValue)
  | map (entries : List (String × DataValue))
  deriving Inhabited

namespace DataValue

mutual

/-- The value as JSON; what is missing is null, and maps are sorted by key. -/
def toJson : DataValue → Json
  | missing => .null
  | scalar a => a.toJson
  | list items => .array (itemsToJson items)
  | map entries => .object (entriesToJson entries [])

/-- `toJson` on each item. -/
def itemsToJson : List DataValue → List Json
  | [] => []
  | item :: rest => item.toJson :: itemsToJson rest

/-- Puts the entries, each as JSON, into a sorted list. -/
def entriesToJson : List (String × DataValue) → List (String × Json) → List (String × Json)
  | [], sorted => sorted
  | (key, value) :: rest, sorted => entriesToJson rest (Keyed.put key value.toJson sorted)

end

end DataValue

/-- Another device, by number or by name. -/
inductive OtherDevice where
  | id (n : Nat)
  | name (s : String)
  deriving DecidableEq, Inhabited

/-- A host and its address; both are empty where the host is not known. -/
structure HostEntry where
  name : String := ""
  address : String := ""
  deriving DecidableEq, Inhabited

/-- What is known of a host that is given by its address. Hosts given by name are not known. -/
def literalHost (host : String) : Option HostEntry :=
  (Address.parse? host).map fun address => ⟨host, address.render⟩

/-- A source of data. -/
structure Provider where
  /-- a value of the device that the rule looks at -/
  value : String → Except Failure DataValue
  /-- a value of another device -/
  valueOf : String → OtherDevice → Except Failure DataValue
  /-- the address of a host -/
  lookup : String → Option HostEntry := literalHost

namespace Provider

variable (p : Provider)

/-- Reads a value as JSON. -/
def get (key : String) : Except Failure Json := (p.value key).map (·.toJson)

/-- Reads a value of another device as JSON. -/
def getFrom (key : String) (device : OtherDevice) : Except Failure Json :=
  (p.valueOf key device).map (·.toJson)

/-- Looks up a host. -/
def host (host : String) : HostEntry := (p.lookup host).getD {}

end Provider

end DeviceCli
