import LoRaNetwork.Server.Request
import LoRaNetwork.Proofs.DirectoryIndex
import LoRaNetwork.Proofs.FrameSigning

/-! What one request can do to a server whose directory is in order. Either it is refused and
everything stays as it was, or it is done and the new state is the one listed here. There is no
third case: once a counter has been written, the frame that goes with it can always be signed and
written, so no counter is spent on an answer that is not given. -/
namespace LoRaNetwork

namespace Server

variable {σ : Type} [DeviceStore σ] {store : Server σ} {server : Server Directory}

theorem identify_eq_ok_iff {subject : Subject} {appEui devEui : Option Eui} {identity : Identity} :
    identify subject appEui devEui = .ok identity ↔
      appEui = some identity.appEui ∧ devEui = some identity.devEui := by
  obtain ⟨app, dev⟩ := identity
  cases appEui with
  | none => simp [identify]
  | some appEui =>
    cases devEui with
    | none => simp [identify]
    | some devEui => simp [identify]

theorem readData_eq_ok_iff {subject : Subject} {bytes : List UInt8} {frame : Frame}
    {data : DataPayload} : readData subject bytes = .ok (frame, data) ↔
      Frame.decode bytes = .ok frame ∧ frame.payload = .data data := by
  rw [readData, ← Frame.data?_eq_some_iff]
  cases Frame.decode bytes with
  | error cause => simp
  | ok read =>
    constructor
    · intro ran
      dsimp only at ran
      split at ran
      · rename_i found
        cases ran
        exact ⟨rfl, found⟩
      · cases ran
    · rintro ⟨same, found⟩
      cases same
      dsimp only
      rw [found]

/-- An uplink is read when it names a stored device and spells a data frame. -/
theorem readUplink_eq_ok_iff {message : UplinkMessage} {device : Device} {frame : Frame}
    {data : DataPayload} : store.readUplink message = .ok (device, frame, data) ↔
      ∃ identity, identify .uplink message.appEui message.devEui = .ok identity ∧
        DeviceStore.get store.devices identity = .ok device ∧
        Frame.decode message.payload = .ok frame ∧ frame.payload = .data data := by
  simp only [readUplink, bind_eq_ok_iff]
  constructor
  · rintro ⟨identity, named, stored, found, ⟨_, _⟩, read, same⟩
    cases same
    exact ⟨identity, named, found, readData_eq_ok_iff.mp read⟩
  · rintro ⟨identity, named, found, read⟩
    exact ⟨identity, named, device, found, (frame, data), readData_eq_ok_iff.mpr read, rfl⟩

/-- A downlink is read when it names a stored device with its application and spells a data
frame. -/
theorem readDownlink_eq_ok_iff {message : DownlinkMessage} {device : Device} {frame : Frame}
    {data : DataPayload} : store.readDownlink message = .ok (device, frame, data) ↔
      ∃ identity, identify .downlink message.appEui message.devEui = .ok identity ∧
        DeviceStore.get store.devices identity = .ok device ∧
        (device.appId = message.appId ∧ device.devId = message.devId) ∧
        Frame.decode message.payload = .ok frame ∧ frame.payload = .data data := by
  simp only [readDownlink, bind_eq_ok_iff]
  constructor
  · rintro ⟨identity, named, stored, found, ran⟩
    split at ran
    · rename_i own
      obtain ⟨⟨_, _⟩, read, same⟩ := bind_eq_ok_iff.mp ran
      cases same
      exact ⟨identity, named, found, own, readData_eq_ok_iff.mp read⟩
    · cases ran
  · rintro ⟨identity, named, found, own, read⟩
    refine ⟨identity, named, device, found, ?_⟩
    rw [if_pos own]
    exact bind_eq_ok_iff.mpr ⟨(frame, data), readData_eq_ok_iff.mpr read, rfl⟩

/-- Only an uplink that was read is answered. -/
theorem read_of_uplink {now : Instant} {message reply : UplinkMessage}
    (ran : (store.uplink now message).1 = .ok reply) :
    ∃ device frame data, store.readUplink message = .ok (device, frame, data) := by
  cases read : store.readUplink message with
  | error cause =>
    rw [uplink, read] at ran
    cases ran
  | ok content => exact ⟨_, _, _, rfl⟩

/-- Only a downlink that was read is sent. -/
theorem read_of_downlink {message reply : DownlinkMessage}
    (ran : (store.downlink message).1 = .ok reply) :
    ∃ device frame data, store.readDownlink message = .ok (device, frame, data) := by
  cases read : store.readDownlink message with
  | error cause =>
    rw [downlink, read] at ran
    cases ran
  | ok content => exact ⟨_, _, _, rfl⟩

theorem answerFrame_eq (device : Device) (uplink : Frame) (data : DataPayload) :
    answerFrame device uplink data = .headerDown (answerHeader device uplink data) (.zero 4) := rfl

/-- The answer to an uplink can always be written: its frame is a header alone. -/
theorem exists_answerUplink (device : Device) (frame : Frame) (data : DataPayload)
    (message : UplinkMessage) : ∃ reply, answerUplink device frame data message = .ok reply := by
  unfold answerUplink
  cases message.template with
  | none => exact ⟨message, rfl⟩
  | some template =>
    rw [answerFrame_eq, Frame.encode_headerDown]
    exact ⟨_, rfl⟩

/-- A downlink is signed when its frame can be written at its new address and with its new counter,
and is sent as these bytes with their code. -/
theorem signDownlink_eq_ok_iff {device : Device} {frame : Frame} {data : DataPayload}
    {message reply : DownlinkMessage} :
    signDownlink device frame data message = .ok reply ↔ ∃ bytes,
      (addressed device frame data).content = .ok bytes ∧
      reply = { message with payload := bytes ++ (integrityCode device.sessionKey (integrityInput
        bytes device.address device.counterDown frame.type.direction)).toList } := by
  have steps : signDownlink device frame data message =
      (((addressed device frame data).sign device.sessionKey >>= Frame.encode).map fun payload =>
        { message with payload := payload }).mapError .frame := by
    rw [signDownlink]
    cases (addressed device frame data).sign device.sessionKey >>= Frame.encode <;> rfl
  rw [steps, mapError_eq_ok_iff, map_eq_ok_iff]
  simp only [Frame.sign_encode_eq_ok_iff]
  constructor
  · rintro ⟨_, ⟨_, bytes, carries, wrote, rfl⟩, rfl⟩
    cases carries
    exact ⟨bytes, wrote, rfl⟩
  · rintro ⟨bytes, wrote, rfl⟩
    exact ⟨_, ⟨_, bytes, rfl, wrote, rfl⟩, rfl⟩

/-- The frame of a downlink that was read can always be signed: it takes as much room with another
address and counter as it did before. -/
theorem exists_signDownlink (device : Device) {frame : Frame} {data : DataPayload}
    {message : DownlinkMessage} (read : Frame.decode message.payload = .ok frame)
    (carries : frame.payload = .data data) :
    ∃ bytes signed, signDownlink device frame data message = .ok { message with payload := bytes } ∧
      Frame.SignedWith device.sessionKey device.address device.counterDown signed bytes := by
  obtain ⟨content, before, _⟩ := Frame.encode_eq_ok_iff.mp (Frame.encode_of_decode read).1
  obtain ⟨after, wrote⟩ : ∃ after, (addressed device frame data).content = .ok after :=
    Frame.content_of_header carries before rfl
  obtain ⟨bytes, signed, signs, correct⟩ :=
    Frame.signedWith_of_content device.sessionKey rfl wrote
  refine ⟨bytes, signed, ?_, correct⟩
  rw [signDownlink, signs]

/-- What comes of a request that is left with one write to the store and an answer that stands
already: both, or the failure of the write and nothing. -/
def committed {α : Type} (server : Server σ) (wrote : Except Error σ) (reply : α) :
    Except Error α × Server σ :=
  match wrote with
  | .error cause => (.error cause, server)
  | .ok devices => (.ok reply, { server with devices := devices })

/-- Once an uplink is read, only its write can fail. -/
theorem uplink_eq_committed (now : Instant) {message : UplinkMessage} {device : Device}
    {frame : Frame} {data : DataPayload}
    (read : store.readUplink message = .ok (device, frame, data)) :
    ∃ reply, answerUplink (heard device now message data) frame data message = .ok reply ∧
      store.uplink now message = store.committed
        (DeviceStore.set store.devices (heard device now message data) [.counterUp, .lastSeen])
        reply := by
  obtain ⟨reply, answered⟩ := exists_answerUplink (heard device now message data) frame data message
  refine ⟨reply, answered, ?_⟩
  rw [uplink, read]
  dsimp only
  rw [answered]
  rfl

/-- Once a downlink is read, only its write can fail: the signed frame stands already. -/
theorem downlink_eq_committed {message : DownlinkMessage} {device : Device} {frame : Frame}
    {data : DataPayload} (ran : store.readDownlink message = .ok (device, frame, data)) :
    ∃ bytes signed, signDownlink device frame data message = .ok { message with payload := bytes } ∧
      Frame.SignedWith device.sessionKey device.address device.counterDown signed bytes ∧
      store.downlink message = store.committed
        (DeviceStore.set store.devices (counted device) [.counterDown])
        { message with payload := bytes } := by
  obtain ⟨_, _, _, _, read, carries⟩ := readDownlink_eq_ok_iff.mp ran
  obtain ⟨bytes, signed, signs, correct⟩ := exists_signDownlink device read carries
  refine ⟨bytes, signed, signs, correct, ?_⟩
  rw [downlink, ran]
  dsimp only
  rw [signs]
  rfl

/-- Writing parts of a stored record that differ from it in these parts alone. -/
private theorem set_stored {directory : Directory} {identity : Identity} {device updated : Device}
    {fields : List DeviceField} (consistent : directory.Consistent)
    (found : directory.get? identity = some device) (some_fields : fields ≠ [])
    (kept : updated.identity = device.identity)
    (copied : DeviceField.copyAll fields updated device = updated) :
    DeviceStore.set directory updated fields =
      .ok (directory.put identity (some device.address) updated) := by
  have named : updated.identity = identity := kept.trans (consistent.own found)
  have stored : directory.get? updated.identity = some device := by rw [named, found]
  refine (Directory.set_fields some_fields stored).trans ?_
  rw [copied, named]

/-- The server with a new record in place of that of a device. -/
def withRecord (server : Server Directory) (identity : Identity) (old new : Device) :
    Server Directory :=
  { server with devices := server.devices.put identity (some old.address) new }

@[simp]
theorem get?_withRecord (server : Server Directory) (identity other : Identity) (old new : Device) :
    (server.withRecord identity old new).devices.get? other =
      if identity = other then some new else server.devices.get? other :=
  Directory.get?_put ..

/-- What comes of a request: the answer that is given and the server that is left. -/
inductive Effect (server : Server Directory) (now : Instant) :
    Request → Except Error Reply → Server Directory → Prop where
  | refused {request : Request} (cause : Error) : Effect server now request (.error cause) server
  | registered {range : AddressPrefix} {usages : List String} {registry : PrefixRegistry} :
      server.registry.register range usages = .ok registry →
      Effect server now (.usePrefix range usages) (.ok .done) { server with registry := registry }
  | listed {request : DevicesRequest} {response : DevicesResponse} :
      server.devicesFor request = .ok response →
      Effect server now (.devices request) (.ok (.devices response)) server
  | prepared {request prepared : ActivationRequest} {draw : Draw} :
      server.prepare draw request = .ok prepared →
      Effect server now (.prepare request) (.ok (.prepared prepared)) server
  | activated {response : ActivationResponse} {identity : Identity} {address : Address}
      {key : Key} :
      session response = .ok (identity, address, key) →
      Effect server now (.activate response) (.ok (.activated response))
        { server with devices := server.devices.activate identity address key now }
  | uplinked {message reply : UplinkMessage} {identity : Identity} {device : Device}
      {frame : Frame} {data : DataPayload} :
      identify .uplink message.appEui message.devEui = .ok identity →
      server.devices.get? identity = some device →
      server.readUplink message = .ok (device, frame, data) →
      answerUplink (heard device now message data) frame data message = .ok reply →
      Effect server now (.uplink message) (.ok (.uplink reply))
        (server.withRecord identity device (heard device now message data))
  | downlinked {message : DownlinkMessage} {identity : Identity} {device : Device}
      {frame signed : Frame} {data : DataPayload} {bytes : List UInt8} :
      identify .downlink message.appEui message.devEui = .ok identity →
      server.devices.get? identity = some device →
      server.readDownlink message = .ok (device, frame, data) →
      signDownlink device frame data message = .ok { message with payload := bytes } →
      Frame.SignedWith device.sessionKey device.address device.counterDown signed bytes →
      Effect server now (.downlink message) (.ok (.downlink { message with payload := bytes }))
        (server.withRecord identity device (counted device))

/-- An uplink that is read is recorded and answered. -/
theorem uplink_of_read (consistent : server.devices.Consistent) (now : Instant)
    {message : UplinkMessage} {identity : Identity} {device : Device} {frame : Frame}
    {data : DataPayload} (read : server.readUplink message = .ok (device, frame, data))
    (found : server.devices.get? identity = some device) :
    ∃ reply, answerUplink (heard device now message data) frame data message = .ok reply ∧
      server.uplink now message =
        (.ok reply, server.withRecord identity device (heard device now message data)) := by
  obtain ⟨reply, answered, done⟩ := uplink_eq_committed now read
  have stored : DeviceStore.set server.devices (heard device now message data)
      [.counterUp, .lastSeen] = .ok (server.devices.put identity (some device.address)
        (heard device now message data)) :=
    set_stored consistent found (by decide) rfl rfl
  refine ⟨reply, answered, ?_⟩
  rw [done, stored]
  rfl

/-- A downlink that is read takes its counter and is signed with it. -/
theorem downlink_of_read (consistent : server.devices.Consistent) {message : DownlinkMessage}
    {identity : Identity} {device : Device} {frame : Frame} {data : DataPayload}
    (ran : server.readDownlink message = .ok (device, frame, data))
    (found : server.devices.get? identity = some device) :
    ∃ bytes signed, signDownlink device frame data message = .ok { message with payload := bytes } ∧
      Frame.SignedWith device.sessionKey device.address device.counterDown signed bytes ∧
      server.downlink message =
        (.ok { message with payload := bytes },
          server.withRecord identity device (counted device)) := by
  obtain ⟨bytes, signed, signs, correct, done⟩ := downlink_eq_committed ran
  have stored : DeviceStore.set server.devices (counted device) [.counterDown] =
      .ok (server.devices.put identity (some device.address) (counted device)) :=
    set_stored consistent found (by decide) rfl rfl
  refine ⟨bytes, signed, signs, correct, ?_⟩
  rw [done, stored]
  rfl

/-- Every request has one of these effects. -/
theorem handle_effect (consistent : server.devices.Consistent) (now : Instant) (draw : Draw)
    (request : Request) :
    Effect server now request (server.handle now draw request).1
      (server.handle now draw request).2 := by
  cases request with
  | usePrefix range usages =>
    rw [handle, usePrefix]
    cases ran : server.registry.register range usages with
    | error cause => exact .refused cause
    | ok registry => exact .registered ran
  | devices request =>
    rw [handle]
    cases ran : server.devicesFor request with
    | error cause => exact .refused cause
    | ok response => exact .listed ran
  | prepare request =>
    rw [handle]
    cases ran : server.prepare draw request with
    | error cause => exact .refused cause
    | ok prepared => exact .prepared ran
  | activate response =>
    rw [handle, activate]
    cases ran : session response with
    | error cause => exact .refused cause
    | ok started => exact .activated ran
  | uplink message =>
    rw [handle]
    cases ran : server.readUplink message with
    | error cause =>
      rw [uplink, ran]
      exact .refused cause
    | ok found =>
      obtain ⟨device, frame, data⟩ := found
      obtain ⟨identity, named, stored, _⟩ := readUplink_eq_ok_iff.mp ran
      have found := Directory.get_eq_ok_iff.mp stored
      obtain ⟨reply, answered, done⟩ := uplink_of_read consistent now ran found
      rw [done]
      exact .uplinked named found ran answered
  | downlink message =>
    rw [handle]
    cases ran : server.readDownlink message with
    | error cause =>
      rw [downlink, ran]
      exact .refused cause
    | ok found =>
      obtain ⟨device, frame, data⟩ := found
      obtain ⟨identity, named, stored, _⟩ := readDownlink_eq_ok_iff.mp ran
      have found := Directory.get_eq_ok_iff.mp stored
      obtain ⟨bytes, signed, signs, correct, done⟩ := downlink_of_read consistent ran found
      rw [done]
      exact .downlinked named found ran signs correct

/-- What a request leaves is in order again. -/
theorem Effect.consistent {next : Server Directory} {now : Instant} {request : Request}
    {answer : Except Error Reply} (effect : Effect server now request answer next)
    (consistent : server.devices.Consistent) : next.devices.Consistent := by
  cases effect with
  | refused | registered | listed | prepared => exact consistent
  | activated => exact consistent.activate _ _ _ _
  | uplinked _ found => exact consistent.replace found rfl
  | downlinked _ found => exact consistent.replace found rfl

end Server

end LoRaNetwork
