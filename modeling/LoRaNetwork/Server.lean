import LoRaNetwork.Config
import LoRaNetwork.Counter
import LoRaNetwork.DeviceStore
import LoRaNetwork.Message
import LoRaNetwork.PrefixRegistry

/-!
The state of a network server, a registry of prefixes and a store of devices, and the requests that
only read it. A request that reads answers `Except Error` alone, so its type says that it changes
nothing.
-/

namespace LoRaNetwork

structure Server (σ : Type) where
  registry : PrefixRegistry
  devices : σ

namespace Server

variable {σ : Type}

/-- A server without prefixes. Of the network's number the low 24 bits count. -/
def ofNetId (devices : σ) (netId : UInt32) : Server σ :=
  ⟨.empty (.ofWord netId), devices⟩

def usePrefix (server : Server σ) (range : AddressPrefix) (usages : List String) :
    Except Error (Server σ) :=
  (server.registry.register range usages).map fun registry => { server with registry := registry }

/-- Makes prefixes available one after the other; the first that is refused ends it. -/
def usePrefixes (server : Server σ) : List PrefixConfig → Except Error (Server σ)
  | [] => .ok server
  | entry :: rest => do
    let server ← server.usePrefix entry.range entry.usages
    server.usePrefixes rest

/-- A server with the prefixes of its configuration. -/
def ofConfig (devices : σ) (config : Config) : Except Error (Server σ) :=
  (ofNetId devices config.netId).usePrefixes config.prefixes

def info (device : Device) : DeviceInfo where
  identity := device.identity
  appId := device.appId
  devId := device.devId
  sessionKey := device.sessionKey
  counterUp := device.counterUp
  wideCounter := device.options.wideCounter
  uncheckedCounter := device.options.uncheckedCounter

/-- The device that a message names. -/
def identify (subject : Subject) (appEui devEui : Option Eui) : Except Error Identity :=
  match appEui, devEui with
  | some appEui, some devEui => .ok ⟨appEui, devEui⟩
  | _, _ => .error (.invalidArgument subject .missingIdentity)

variable [DeviceStore σ]

/-- The devices at an address that may have sent an uplink. -/
def devicesFor (server : Server σ) (request : DevicesRequest) : Except Error DevicesResponse :=
  match request.address with
  | none => .error (.invalidArgument .devicesRequest .missingAddress)
  | some address => do
    let devices ← DeviceStore.withAddress server.devices address
    .ok ⟨(devices.filter (·.maySend request.counter)).map info⟩

end Server

end LoRaNetwork
