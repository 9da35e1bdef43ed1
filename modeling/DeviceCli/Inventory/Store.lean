import DeviceCli.Inventory.Attribute
import DeviceCli.Text.Case

/-!
# Stores

What a driver finds out goes into stores: the attributes of the device and its collections, the
attributes of its configuration together with the downloads to be made, and the results of
diagnostics.

Nothing gets into a store unchecked: a key is not empty, a value is not null, a download has a
known method and a file name. A call that is refused leaves the store as it was, since it yields a
failure and no store.
-/

namespace DeviceCli

/-! ## 1. Checks -/

/-- Refuses an empty key. -/
def refuseEmptyKey (key operation : String) : Except Failure Unit :=
  if key.isEmpty then .error (.argument (.emptyKey operation)) else .ok ()

/-- The attribute of a JSON value that is to be stored under a key. -/
def definedValue (value : Json) (operation key : String) : Except Failure Attribute :=
  match value with
  | .null => .error (.argument (.undefinedFor operation key))
  | other => Attribute.ofJson other

/-! ## 2. Devices -/

/-- What is known of a device. -/
structure DeviceStore where
  attributes : Keyed Attribute := Keyed.empty
  /-- lists of values: modules, interfaces and the like -/
  collections : Keyed (List Attribute) := Keyed.empty
  /-- how often all has been forgotten -/
  resets : Nat := 0
  deriving Inhabited

/-- What may be done with the store of a device. -/
inductive Access where
  | full
  /-- attributes may be set, collections must not be added to -/
  | setOnly
  deriving DecidableEq, Inhabited

namespace DeviceStore

/-- Forgets all attributes and collections. -/
def reset (d : DeviceStore) : DeviceStore := { resets := d.resets + 1 }

/-- The attribute under a key. -/
def get? (d : DeviceStore) (key : String) : Option Attribute := d.attributes.get? key

/-- The values of a collection. -/
def collection (d : DeviceStore) (name : String) : List Attribute :=
  (d.collections.get? name).getD []

/-- Sets an attribute. -/
def set (d : DeviceStore) (key : String) (value : Attribute) : Except Failure DeviceStore := do
  refuseEmptyKey key "device.set"
  pure { d with attributes := d.attributes.insert key value }

/-- Sets an attribute from JSON. -/
def setJson (d : DeviceStore) (key : String) (value : Json) : Except Failure DeviceStore := do
  refuseEmptyKey key "device.set"
  let value ← definedValue value "device.set" key
  pure { d with attributes := d.attributes.insert key value }

/-- Adds a value at the end of a collection; an object is marked. -/
def add (d : DeviceStore) (access : Access) (name : String) (value : Attribute) :
    Except Failure DeviceStore :=
  match access with
  | .setOnly => .error (.argument .addUnavailable)
  | .full => do
    refuseEmptyKey name "device.add"
    pure { d with collections := d.collections.insert name (d.collection name ++ [value.marked]) }

/-- Adds a value from JSON; that it is null is found before all else. -/
def addJson (d : DeviceStore) (access : Access) (name : String) (value : Json) :
    Except Failure DeviceStore := do
  let value ← definedValue value "device.add" name
  d.add access name value

end DeviceStore

/-! ## 3. Configurations -/

/-- How a file is fetched from a device. -/
inductive DownloadMethod where
  | scp | sftp
  deriving DecidableEq, Inhabited

namespace DownloadMethod

/-- The name of a method. -/
def name : DownloadMethod → String
  | scp => "scp"
  | sftp => "sftp"

/-- The method of exactly that name. -/
def named? : String → Option DownloadMethod
  | "scp" => some scp
  | "sftp" => some sftp
  | _ => none

/-- The method of a name in any case of the letters A to Z. -/
def parse (s : String) : Except Failure DownloadMethod :=
  match named? (Text.lowerLatin s) with
  | some m => .ok m
  | none => .error (.argument (.unknownDownloadMethod s))

end DownloadMethod

/-- A file to be fetched. -/
structure Download where
  /-- the attribute that is to hold the file -/
  key : String
  method : DownloadMethod
  /-- the path of the file on the device -/
  remote : String
  /-- the name to store the file under, where it is another one -/
  store : Option String := none
  deriving DecidableEq, Inhabited

/-- The download that a driver asks for. An empty name to store the file under is none. -/
def Download.make (key method file : String) (store : Option String) : Except Failure Download := do
  refuseEmptyKey key "config.download"
  let method ← DownloadMethod.parse method
  if file.isEmpty then .error (.argument .emptyFileName)
  else .ok ⟨key, method, file, store.filter fun name => !name.isEmpty⟩

/-- What is known of a configuration. -/
structure ConfigStore where
  attributes : Keyed Attribute := Keyed.empty
  /-- the downloads asked for, in order -/
  downloads : List Download := []
  deriving Inhabited

namespace ConfigStore

/-- Sets an attribute. -/
def set (s : ConfigStore) (key : String) (value : Attribute) : Except Failure ConfigStore := do
  refuseEmptyKey key "config.set"
  pure { s with attributes := s.attributes.insert key value }

/-- Sets an attribute from JSON. -/
def setJson (s : ConfigStore) (key : String) (value : Json) : Except Failure ConfigStore := do
  refuseEmptyKey key "config.set"
  let value ← definedValue value "config.set" key
  pure { s with attributes := s.attributes.insert key value }

/-- Asks for one more download. -/
def request (s : ConfigStore) (d : Download) : ConfigStore :=
  { s with downloads := s.downloads ++ [d] }

/-- Asks for a download by its parts. -/
def download (s : ConfigStore) (key method file : String) (store : Option String) :
    Except Failure ConfigStore := do
  let d ← Download.make key method file store
  pure (s.request d)

end ConfigStore

end DeviceCli
