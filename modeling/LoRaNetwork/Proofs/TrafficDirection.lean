import LoRaNetwork.Proofs.RequestAtomicity

/-! The direction of traffic. Both handlers of data frames ask whether a frame is a data frame and
neither asks which way it travels, so the direction is what the sender of a request has made it. A
downlink is signed for the direction that its own first byte announces, and it leaves with the type
that it came with; an uplink of any of the four types of data frames is recorded. -/
namespace LoRaNetwork

namespace Server

variable {σ : Type} {store : Server σ}

theorem eq_of_committed {α : Type} {wrote : Except Error σ} {reply answer : α}
    (ran : (store.committed wrote reply).1 = .ok answer) : answer = reply := by
  cases wrote with
  | error cause => cases ran
  | ok devices =>
    cases ran
    rfl

variable [DeviceStore σ]

/-- Addressing and signing a frame leave its type alone. -/
theorem type_of_signDownlink {device : Device} {frame signed : Frame} {data : DataPayload}
    {message reply : DownlinkMessage} (signs : signDownlink device frame data message = .ok reply)
    (read : Frame.decode reply.payload = .ok signed) : signed.type = frame.type := by
  obtain ⟨bytes, wrote, rfl⟩ := signDownlink_eq_ok_iff.mp signs
  obtain ⟨mic, code⟩ : ∃ mic, mic = integrityCode device.sessionKey (integrityInput bytes
      device.address device.counterDown frame.type.direction) := ⟨_, rfl⟩
  rw [← code] at read
  have writes : Frame.encode { addressed device frame data with mic := mic } =
      .ok (bytes ++ mic.toList) := Frame.encode_eq_ok_iff.mpr ⟨bytes, wrote, rfl⟩
  cases (Frame.decode_of_encode writes).symm.trans read
  rfl

/-- A downlink that succeeds is the frame of its message, signed with its type and the direction that
goes with it. -/
theorem downlink_keeps_type {message reply : DownlinkMessage}
    (ran : (store.downlink message).1 = .ok reply) :
    ∃ device frame signed, store.Finds message.appEui message.devEui device ∧
      Frame.decode message.payload = .ok frame ∧ frame.type.isData = true ∧
      Frame.SignedWith device.sessionKey device.address device.counterDown signed reply.payload ∧
      signed.type = frame.type := by
  obtain ⟨device, frame, data, read⟩ := read_of_downlink ran
  obtain ⟨identity, named, found, _, decoded, carries⟩ := readDownlink_eq_ok_iff.mp read
  obtain ⟨app, dev⟩ := identify_eq_ok_iff.mp named
  obtain ⟨bytes, signed, signs, correct, done⟩ := downlink_eq_committed read
  rw [done] at ran
  cases eq_of_committed ran
  exact ⟨device, frame, signed, ⟨identity, app, dev, found⟩, decoded,
    Frame.isData_of_decode decoded carries, correct, type_of_signDownlink signs correct.read⟩

/-- Only a data frame gets an uplink to the store. -/
theorem isData_of_recorded {now : Instant} {message : UplinkMessage}
    (changed : (store.uplink now message).2 ≠ store) :
    ∃ frame, Frame.decode message.payload = .ok frame ∧ frame.type.isData = true := by
  cases read : store.readUplink message with
  | error cause =>
    rw [uplink, read] at changed
    exact absurd rfl changed
  | ok content =>
    obtain ⟨device, frame, data⟩ := content
    obtain ⟨_, _, _, decoded, carries⟩ := readUplink_eq_ok_iff.mp read
    exact ⟨frame, decoded, Frame.isData_of_decode decoded carries⟩

/-- The direction comes with the frame. Over any store, a downlink that succeeds returns a data frame
of the type that the payload of its message has, whatever its direction, signed with the key,
address and counter of the record for the direction of that type. So the server signs for the way up
only what is handed to it as an uplink. And an uplink that changes the store has a data frame for
its payload. -/
theorem direction_comes_with_frame (store : Server σ) :
    (∀ message reply, (store.downlink message).1 = .ok reply →
      ∃ device frame signed, store.Finds message.appEui message.devEui device ∧
        Frame.decode message.payload = .ok frame ∧ frame.type.isData = true ∧
        Frame.SignedWith device.sessionKey device.address device.counterDown signed reply.payload ∧
        signed.type = frame.type) ∧
    ∀ now message, (store.uplink now message).2 ≠ store →
      ∃ frame, Frame.decode message.payload = .ok frame ∧ frame.type.isData = true :=
  ⟨fun _ _ => downlink_keeps_type, fun _ _ => isData_of_recorded⟩

/-- A confirmed downlink leaves as one. -/
theorem direction_comes_with_frame_confirmed :
    let device := Device.unknown default
    let server := { ofNetId Directory.empty 0 with devices := Directory.empty.write device }
    let send : DownlinkMessage := {
      payload := [0xA0, 0, 0, 0, 0, 0, 0, 0, 1, 0xAA, 0, 0, 0, 0]
      appEui := some default
      devEui := some default
      appId := ""
      devId := ""
      option := none }
    ∃ reply signed, (server.downlink send).1 = .ok reply ∧
      Frame.decode reply.payload = .ok signed ∧ signed.type = .confirmedDataDown := by
  intro device server send
  obtain ⟨frame, data, read⟩ : ∃ frame data,
    server.readDownlink send = .ok (device, frame, data) := ⟨_, _, rfl⟩
  obtain ⟨bytes, _, _, _, done⟩ := downlink_eq_committed read
  have answered : (server.downlink send).1 = .ok { send with payload := bytes } := by
    rw [done]
    rfl
  obtain ⟨_, sent, signed, _, decoded, _, correct, same⟩ :=
    (direction_comes_with_frame server).1 send _ answered
  have down : sent.type = .confirmedDataDown := by
    cases decoded
    rfl
  exact ⟨_, signed, answered, correct.read, same.trans down⟩

/-- A frame of a device that is handed over as a downlink is signed as an uplink, and a frame of
the network that is handed over as an uplink is recorded. -/
theorem direction_is_not_checked :
    let device := Device.unknown default
    let server := { ofNetId Directory.empty 0 with devices := Directory.empty.write device }
    let send : DownlinkMessage := {
      payload := [0x40, 0, 0, 0, 0, 0, 0, 0, 0, 0, 0, 0]
      appEui := some default
      devEui := some default
      appId := ""
      devId := ""
      option := none }
    let hear : UplinkMessage := {
      payload := [0x60, 0, 0, 0, 0, 0, 6, 0, 0, 0, 0, 0]
      appEui := some default
      devEui := some default
      appId := ""
      devId := ""
      metadata := none
      template := none }
    server.Reachable ∧
      (∃ reply signed, (server.downlink send).1 = .ok reply ∧
        Frame.SignedWith device.sessionKey device.address device.counterDown signed reply.payload ∧
        signed.type = .unconfirmedDataUp) ∧
      (server.uplink default hear).2 ≠ server ∧
      ∃ frame, Frame.decode hear.payload = .ok frame ∧ frame.type = .unconfirmedDataDown := by
  intro device server send hear
  have wrote : (StoreWrite.set device []).call Directory.empty = .ok server.devices := rfl
  refine ⟨Reachable.written (.start 0) wrote, ?_, ?_, ⟨_, rfl, rfl⟩⟩
  · obtain ⟨frame, data, read, up⟩ : ∃ frame data,
        server.readDownlink send = .ok (device, frame, data) ∧
          frame.type = .unconfirmedDataUp := ⟨_, _, rfl, rfl⟩
    obtain ⟨bytes, signed, signs, correct, done⟩ := downlink_eq_committed read
    refine ⟨{ send with payload := bytes }, signed, ?_, correct, ?_⟩
    · rw [done]
      rfl
    · rw [type_of_signDownlink signs correct.read, up]
  · intro same
    have counters : some 6 = some (0 : UInt32) := congrArg
      (fun server : Server Directory => (server.devices.get? default).map Device.counterUp) same
    exact absurd counters (by decide)

end Server

end LoRaNetwork
