import LoRaNetwork.Frame
import LoRaNetwork.Server

/-!
Joining a network, in two steps. Preparation picks an address and writes the acceptance, and stores
nothing. The session begins only when the activation comes back with its key.
-/

namespace LoRaNetwork.Server

variable {σ : Type} [DeviceStore σ]

/-- The usage that a prefix must serve for devices that join over the air. -/
def joinUsage : String := "otaa"

/-- A setting as a byte, if it is one. -/
def narrow (field : FrameField) (value : UInt32) : Except FrameError UInt8 :=
  if value < 256 then .ok value.toUInt8 else .error (.fieldOutOfRange field value)

/-- The frame that accepts a device at an address, still without nonce and integrity code. -/
def acceptFrame (netId : NetId) (address : Address) (settings : ActivationSettings) :
    Except FrameError Frame := do
  let rx2DataRate ← narrow .rx2DataRate settings.rx2DataRate
  let rx1DataRateOffset ← narrow .rx1DataRateOffset settings.rx1DataRateOffset
  let rxDelay ← narrow .rxDelay settings.rxDelay
  .ok (.unsigned .joinAccept (.joinAccept {
    nonce := .zero 3
    netId := netId
    address := address
    settings := ⟨rx2DataRate, rx1DataRateOffset⟩
    delay := rxDelay
    channels := ChannelList.ofList? settings.channels }))

def acceptBytes (netId : NetId) (address : Address) (settings : ActivationSettings) :
    Except Error (List UInt8) :=
  match acceptFrame netId address settings with
  | .error cause => .error (.frame cause)
  | .ok frame => frame.encode.mapError .frame

def requiredUsages (device : Device) : List String :=
  device.options.constraints ++ [joinUsage]

/-- Picks an address for a device that asks to join and writes the acceptance into the template. -/
def prepare (server : Server σ) (draw : Draw) (request : ActivationRequest) :
    Except Error ActivationRequest := do
  let identity ← identify .activation request.appEui request.devEui
  let device ← DeviceStore.get server.devices identity
  match request.metadata.bind (·.lorawan), request.template with
  | none, _ => .error (.invalidArgument .activation .missingSettings)
  | some _, none => .error (.invalidArgument .activation .missingTemplate)
  | some settings, some template => do
    let address ← server.registry.allocate (requiredUsages device) draw
    let payload ← acceptBytes server.registry.netId address settings
    .ok { request with
      appId := device.appId
      devId := device.devId
      metadata := some ⟨some { settings with address := some address }⟩
      template := some { template with payload := payload } }

/-- The session that an accepted activation names. -/
def session (response : ActivationResponse) : Except Error (Identity × Address × Key) :=
  match response.metadata with
  | none => .error (.invalidArgument .activation .missingMetadata)
  | some metadata =>
    match metadata.lorawan with
    | none => .error (.invalidArgument .activation .missingProtocolMetadata)
    | some settings =>
      match settings.appEui, settings.devEui, settings.address, settings.sessionKey with
      | some appEui, some devEui, some address, some key => .ok (⟨appEui, devEui⟩, address, key)
      | _, _, _, _ => .error (.invalidArgument .activation .missingSession)

/-- Begins the session of an accepted activation. -/
def activate (server : Server σ) (now : Instant) (response : ActivationResponse) :
    Except Error ActivationResponse × Server σ :=
  match session response with
  | .error cause => (.error cause, server)
  | .ok (identity, address, key) =>
    match DeviceStore.activate server.devices identity address key now with
    | .error cause => (.error cause, server)
    | .ok devices => (.ok response, { server with devices := devices })

end LoRaNetwork.Server
