import LoRaNetwork.Directory

/-!
What the server asks of whoever keeps its devices. Each call is one step: it either does all of its
work or fails and changes nothing. The directory in memory is such a store, and so is a directory
behind a guard that lets through only reads, or nothing at all.
-/

namespace LoRaNetwork

class DeviceStore (σ : Type) where
  /-- The devices that have an address now. -/
  withAddress : σ → Address → Except Error (List Device)
  /-- The record of a device that has to be there. -/
  get : σ → Identity → Except Error Device
  /-- Writes the listed parts of a record, or all of it for an empty list. -/
  set : σ → Device → List DeviceField → Except Error σ
  /-- Starts a new session at an instant. -/
  activate : σ → Identity → Address → Key → Instant → Except Error σ

instance : DeviceStore Directory where
  withAddress directory address := .ok (directory.withAddress address)
  get := Directory.get
  set := Directory.set
  activate directory identity address key now :=
    .ok (directory.activate identity address key now)

/-- What a guard lets through. -/
inductive Access where
  | full
  | readOnly
  | unavailable
  deriving DecidableEq, Repr

/-- A directory behind a guard. -/
structure GuardedDirectory where
  access : Access
  directory : Directory

namespace GuardedDirectory

def read {α : Type} (store : GuardedDirectory) (answer : Directory → Except Error α) :
    Except Error α :=
  match store.access with
  | .full | .readOnly => answer store.directory
  | .unavailable => .error (.store "unavailable")

def write (store : GuardedDirectory) (change : Directory → Except Error Directory) :
    Except Error GuardedDirectory :=
  match store.access with
  | .full => (change store.directory).map fun directory => { store with directory := directory }
  | .readOnly => .error (.store "read only")
  | .unavailable => .error (.store "unavailable")

end GuardedDirectory

instance : DeviceStore GuardedDirectory where
  withAddress store address := store.read fun directory => .ok (directory.withAddress address)
  get store identity := store.read fun directory => directory.get identity
  set store device fields := store.write fun directory => directory.set device fields
  activate store identity address key now :=
    store.write fun directory => .ok (directory.activate identity address key now)

end LoRaNetwork
