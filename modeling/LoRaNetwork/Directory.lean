import LoRaNetwork.Device
import LoRaNetwork.Error
import LoRaNetwork.Table

/-!
The directory of devices, held in memory. Records are kept by identity. Beside them stands an index
that lists, for every address in use, who has it; every write goes through `put`, which moves the
written record from its old place in the index to its new one.
-/

namespace LoRaNetwork

/-- Who has which address. No address is listed without anyone. -/
abbrev AddressIndex := Table Address (List Identity)

namespace AddressIndex

/-- Takes an identity off an address. -/
def leave (index : AddressIndex) (identity : Identity) (address : Address) : AddressIndex :=
  match index.get? address with
  | none => index
  | some members =>
    let others := members.filter (· ≠ identity)
    if others = [] then index.erase address else index.insert address others

/-- Lists an identity under an address. -/
def enter (index : AddressIndex) (identity : Identity) (address : Address) : AddressIndex :=
  let members := (index.get? address).getD []
  index.insert address (if identity ∈ members then members else members ++ [identity])

/-- Lists an identity under a new address in place of the one it had, if any. -/
def move (index : AddressIndex) (identity : Identity) (old : Option Address) (new : Address) :
    AddressIndex :=
  match old with
  | none => index.enter identity new
  | some old => (if old = new then index else index.leave identity old).enter identity new

end AddressIndex

/-- The records of all devices. -/
structure Directory where
  records : Table Identity Device
  index : AddressIndex

namespace Directory

def empty : Directory := ⟨.empty, .empty⟩

def size (directory : Directory) : Nat := directory.records.size

def get? (directory : Directory) (identity : Identity) : Option Device :=
  directory.records.get? identity

/-- The record of a device that has to be there. -/
def get (directory : Directory) (identity : Identity) : Except Error Device :=
  match directory.get? identity with
  | some device => .ok device
  | none => .error (.notFound (.device identity))

/-- The records of the devices that have an address. -/
def withAddress (directory : Directory) (address : Address) : List Device :=
  ((directory.index.get? address).getD []).filterMap directory.get?

/-- Stores a record under an identity, whose old record, if there is one, has the old address. -/
def put (directory : Directory) (identity : Identity) (old : Option Address) (device : Device) :
    Directory where
  records := directory.records.insert identity device
  index := directory.index.move identity old device.address

/-- Stores a whole record, there or not. -/
def write (directory : Directory) (device : Device) : Directory :=
  directory.put device.identity ((directory.get? device.identity).map (·.address)) device

/-- Writes the listed parts of a record that has to be there, or the whole record for an empty
list. -/
def set (directory : Directory) (device : Device) (fields : List DeviceField) :
    Except Error Directory :=
  if fields = [] then .ok (directory.write device)
  else match directory.get? device.identity with
    | some stored =>
      .ok (directory.put device.identity (some stored.address)
        (DeviceField.copyAll fields device stored))
    | none => .error (.notFound (.device device.identity))

/-- Starts a new session. A device that has no record is taken to be at address zero until then,
where the index does not list it. -/
def activate (directory : Directory) (identity : Identity) (address : Address) (key : Key)
    (now : Instant) : Directory :=
  let old := (directory.get? identity).getD (.unknown identity)
  directory.put identity (some old.address) (old.join address key now)

end Directory

end LoRaNetwork
