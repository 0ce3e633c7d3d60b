import LoRaNetwork.Address
import LoRaNetwork.Time.Instant

/-!
What the network knows of one device: who it is, the session it is in, the counters of that session
and how strictly they are checked. Parts of a record can be written on their own, so a writer with
an old copy does not undo what others wrote meanwhile.
-/

namespace LoRaNetwork

/-- How a device is treated. -/
structure DeviceOptions where
  /-- The device counts its frames in 32 bits, of which a frame only shows 16. -/
  wideCounter : Bool
  /-- Uplinks are taken whatever their counter says. -/
  uncheckedCounter : Bool
  /-- The usages that a prefix must serve to give the device an address, separated by commas. -/
  activationConstraints : String
  deriving DecidableEq, Inhabited

namespace DeviceOptions

/-- Narrow counter, checked, no constraints. -/
def standard : DeviceOptions := ⟨false, false, ""⟩

/-- The constraints one by one. An empty text has none, but an empty piece between commas is one. -/
def constraints (options : DeviceOptions) : List String :=
  if options.activationConstraints = "" then []
  else (options.activationConstraints.toList.splitOn ',').map String.ofList

end DeviceOptions

structure Device where
  identity : Identity
  appId : String
  devId : String
  address : Address
  sessionKey : Key
  /-- The counter of the last uplink. -/
  counterUp : UInt32
  /-- The counter of the next downlink. -/
  counterDown : UInt32
  options : DeviceOptions
  /-- When the device last sent or joined. -/
  lastSeen : Option Instant
  deriving DecidableEq, Inhabited

/-- A device without a session, known by its identity alone. -/
def Device.unknown (identity : Identity) : Device where
  identity := identity
  appId := ""
  devId := ""
  address := ⟨0⟩
  sessionKey := ⟨.zero 16⟩
  counterUp := 0
  counterDown := 0
  options := .standard
  lastSeen := none

/-- The device in a new session, which starts both counters again. -/
def Device.join (device : Device) (address : Address) (key : Key) (now : Instant) : Device :=
  { device with
    address := address
    sessionKey := key
    counterUp := 0
    counterDown := 0
    lastSeen := some now }

/-- A part of a record that can be written on its own. -/
inductive DeviceField where
  | appId
  | devId
  | address
  | sessionKey
  | counterUp
  | counterDown
  | options
  | lastSeen
  deriving DecidableEq, Repr

namespace DeviceField

/-- The name under which a store keeps the part. -/
def name : DeviceField → String
  | appId => "app_id"
  | devId => "dev_id"
  | address => "dev_addr"
  | sessionKey => "nwk_s_key"
  | counterUp => "f_cnt_up"
  | counterDown => "f_cnt_down"
  | options => "options"
  | lastSeen => "last_seen"

/-- Puts the part of `source` in place of that of `target`. -/
def copy (field : DeviceField) (source target : Device) : Device :=
  match field with
  | appId => { target with appId := source.appId }
  | devId => { target with devId := source.devId }
  | address => { target with address := source.address }
  | sessionKey => { target with sessionKey := source.sessionKey }
  | counterUp => { target with counterUp := source.counterUp }
  | counterDown => { target with counterDown := source.counterDown }
  | options => { target with options := source.options }
  | lastSeen => { target with lastSeen := source.lastSeen }

def copyAll (fields : List DeviceField) (source target : Device) : Device :=
  fields.foldl (fun target field => field.copy source target) target

end DeviceField

end LoRaNetwork
