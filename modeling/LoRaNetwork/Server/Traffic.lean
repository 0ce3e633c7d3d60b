import LoRaNetwork.Frame.Integrity
import LoRaNetwork.Server

/-!
Data frames in both directions. An uplink moves the device's uplink counter to the one it was sent
with and may prepare an answer. A downlink takes the next downlink counter and is signed with it.
The store is written between reading the message and building the reply, so the reply's own failures
come after the write.
-/

namespace LoRaNetwork.Server

variable {σ : Type} [DeviceStore σ]

/-- The data frame that a payload spells. -/
def readData (subject : Subject) (payload : List UInt8) : Except Error (Frame × DataPayload) :=
  match Frame.decode payload with
  | .error cause => .error (.invalidArgument subject (.undecodable cause))
  | .ok frame =>
    match frame.data? with
    | some data => .ok (frame, data)
    | none => .error (.invalidArgument subject .noData)

/-- The counter of an uplink: the one that came with the message, else what the frame shows. -/
def uplinkCounter (message : UplinkMessage) (data : DataPayload) : UInt32 :=
  match message.metadata.bind (·.lorawan) with
  | some transmission => transmission.counter
  | none => data.header.counter

/-- The record and the frame that an uplink is about. -/
def readUplink (server : Server σ) (message : UplinkMessage) :
    Except Error (Device × Frame × DataPayload) := do
  let identity ← identify .uplink message.appEui message.devEui
  let device ← DeviceStore.get server.devices identity
  let (frame, data) ← readData .uplink message.payload
  .ok (device, frame, data)

/-- The header of the answer to an uplink, which acknowledges it if it asks for that. -/
def answerHeader (device : Device) (uplink : Frame) (data : DataPayload) : FrameHeader where
  address := data.header.address
  control := { FrameControl.none with acknowledge := uplink.type == .confirmedDataUp }
  counter := device.counterDown
  options := .empty

/-- An empty downlink to the sender of an uplink. -/
def answerFrame (device : Device) (uplink : Frame) (data : DataPayload) : Frame :=
  .unsigned .unconfirmedDataDown (.data (.ofHeader (answerHeader device uplink data)))

/-- A template with the counter of a record, the names in an uplink, and a frame. -/
def fill (offered : DownlinkMessage) (device : Device) (message : UplinkMessage)
    (payload : List UInt8) : DownlinkMessage :=
  { offered.withCounter device.counterDown with
    payload := payload
    appEui := message.appEui
    devEui := message.devEui
    appId := message.appId
    devId := message.devId }

/-- The message with its template, if any, filled in. -/
def answerUplink (device : Device) (frame : Frame) (data : DataPayload) (message : UplinkMessage) :
    Except Error UplinkMessage :=
  match message.template with
  | none => .ok message
  | some template =>
    match (answerFrame device frame data).encode with
    | .error cause => .error (.frame cause)
    | .ok payload =>
      .ok { message with template := some (fill template device message payload) }

/-- The record of a device after an uplink. -/
def heard (device : Device) (now : Instant) (message : UplinkMessage) (data : DataPayload) :
    Device :=
  { device with
    counterUp := uplinkCounter message data
    lastSeen := some now }

/-- Records an uplink and fills in its template. -/
def uplink (server : Server σ) (now : Instant) (message : UplinkMessage) :
    Except Error UplinkMessage × Server σ :=
  match server.readUplink message with
  | .error cause => (.error cause, server)
  | .ok (device, frame, data) =>
    let heard := heard device now message data
    match DeviceStore.set server.devices heard [.counterUp, .lastSeen] with
    | .error cause => (.error cause, server)
    | .ok devices => (answerUplink heard frame data message, { server with devices := devices })

/-- The record and the frame that a downlink is about. The device must belong to the application
that the message names. -/
def readDownlink (server : Server σ) (message : DownlinkMessage) :
    Except Error (Device × Frame × DataPayload) := do
  let identity ← identify .downlink message.appEui message.devEui
  let device ← DeviceStore.get server.devices identity
  if device.appId = message.appId ∧ device.devId = message.devId then do
    let (frame, data) ← readData .downlink message.payload
    .ok (device, frame, data)
  else .error (.invalidArgument .downlink .foreignDevice)

/-- A data frame with the address and the downlink counter of a device. -/
def addressed (device : Device) (frame : Frame) (data : DataPayload) : Frame :=
  { frame with
    payload := .data { data with
      header := { data.header with
        address := device.address
        counter := device.counterDown } } }

/-- The message with its frame addressed to a device and signed with the key of its session. -/
def signDownlink (device : Device) (frame : Frame) (data : DataPayload)
    (message : DownlinkMessage) : Except Error DownlinkMessage :=
  match (addressed device frame data).sign device.sessionKey >>= Frame.encode with
  | .error cause => .error (.frame cause)
  | .ok payload => .ok { message with payload := payload }

/-- The record of a device after a downlink. After its last value the counter starts again. -/
def counted (device : Device) : Device :=
  { device with counterDown := device.counterDown + 1 }

/-- Takes the next downlink counter for a downlink and signs it. -/
def downlink (server : Server σ) (message : DownlinkMessage) :
    Except Error DownlinkMessage × Server σ :=
  match server.readDownlink message with
  | .error cause => (.error cause, server)
  | .ok (device, frame, data) =>
    match DeviceStore.set server.devices (counted device) [.counterDown] with
    | .error cause => (.error cause, server)
    | .ok devices => (signDownlink device frame data message, { server with devices := devices })

end LoRaNetwork.Server
