import LoRaNetwork.Proofs.FrameAuthenticity
import LoRaNetwork.Proofs.TrafficDirection

/-! The bytes of a downlink. A frame that is handed over to be sent is read, given the address and the
counter of a record, signed and written again, and all that this changes of its bytes are the ones
that the server is to write: every part of a data frame but its code stands at a place of its own,
counted from the front, and none depends on what the others say. -/
namespace LoRaNetwork

namespace Frame

/-- A data frame up to its code. The commands, the port and the data are the rest, as they come. -/
def dataBytes (first : UInt8) (address : Address) (control : UInt8) (counter : UInt32)
    (rest : List UInt8) : List UInt8 :=
  first :: (littleEndian 4 address.word ++ control :: (littleEndian 2 counter ++ rest))

/-- What a data frame is written as, with the address and the counter of its header in sight. -/
theorem content_eq_dataBytes {frame : Frame} {data : DataPayload} {message : List UInt8}
    (carries : frame.payload = .data data) (wrote : frame.content = .ok message) :
    message = dataBytes frame.type.header data.header.address
      (data.header.control.encode data.header.options.bytes.length) data.header.counter
      (data.header.options.bytes ++ (data.port.toList ++ data.content)) := by
  obtain ⟨_, _, rfl, _⟩ := (content_data_eq_ok_iff carries).mp wrote
  simp only [FrameHeader.encode, dataBytes, List.append_assoc, List.cons_append, List.nil_append]

/-- In the bytes of a data frame that was read, another address and counter take the places of its
own, and only the reserved bits of the first byte are lost by that. -/
theorem exists_dataBytes_of_decode {bytes : List UInt8} {frame : Frame} {data : DataPayload}
    (ran : decode bytes = .ok frame) (carries : frame.payload = .data data) :
    ∃ first control rest, frame.type = .ofHeader first ∧
      bytes = dataBytes first data.header.address control data.header.counter rest ++
        frame.mic.toList ∧
      ∀ address counter message, content { frame with payload := .data { data with
          header := { data.header with address := address, counter := counter } } } = .ok message →
        message = dataBytes (first &&& 0xE0) address control counter rest := by
  obtain ⟨first, body, rfl, _, _, announced, _⟩ := decode_eq_ok_iff.mp ran
  have before := content_eq_dataBytes carries (content_of_decode ran carries)
  rw [coveredBytes_eq] at before
  obtain ⟨_, rfl⟩ := List.cons.inj before
  refine ⟨first, _, _, announced, rfl, ?_⟩
  intro address counter message wrote
  rw [← MessageType.header_ofHeader, ← announced]
  exact content_eq_dataBytes rfl wrote

/-- What signing a downlink leaves of the bytes that it was handed over with, and what it writes. -/
structure Rewritten (key : Key) (address : Address) (counter : UInt32)
    (received sent : List UInt8) : Prop where
  whole : 12 ≤ received.length
  length : sent.length = received.length
  typed : sent.headD 0 = received.headD 0 &&& 0xE0
  addressed : (sent.drop 1).take 4 = littleEndian 4 address.word
  control : sent[5]? = received[5]?
  counted : (sent.drop 6).take 2 = littleEndian 2 counter
  rest : (sent.drop 8).take (sent.length - 12) = (received.drop 8).take (received.length - 12)
  signed : sent.drop (sent.length - 4) =
    (integrityCode key (integrityInput (sent.take (sent.length - 4)) address counter
      (MessageType.ofHeader (received.headD 0)).direction)).toList

/-- Two frames over the same rest, the second with its code, are related so. -/
theorem rewritten_dataBytes {first control : UInt8} {old address : Address} {last counter : UInt32}
    {rest : List UInt8} {key : Key} (given mic : Octets 4)
    (signs : mic = integrityCode key (integrityInput
      (dataBytes (first &&& 0xE0) address control counter rest) address counter
      (MessageType.ofHeader first).direction)) :
    Rewritten key address counter (dataBytes first old control last rest ++ given.toList)
      (dataBytes (first &&& 0xE0) address control counter rest ++ mic.toList) := by
  have received : (dataBytes first old control last rest).length = rest.length + 8 := rfl
  have sent : (dataBytes (first &&& 0xE0) address control counter rest).length =
      rest.length + 8 := rfl
  have whole (bytes : List UInt8) (code : Octets 4) :
      (bytes ++ code.toList).length = bytes.length + 4 := by
    rw [List.length_append, code.length_toList]
  constructor
  case typed => rfl
  case addressed => rfl
  case control => rfl
  case counted => rfl
  case whole => rw [whole, received]; omega
  case length => rw [whole, whole, received, sent]
  case rest =>
    rw [whole, whole, received, sent]
    change (rest ++ mic.toList).take (rest.length + 12 - 12) =
      (rest ++ given.toList).take (rest.length + 12 - 12)
    rw [Nat.add_sub_cancel, List.take_left, List.take_left]
  case signed =>
    rw [whole, Nat.add_sub_cancel, List.drop_left, List.take_left, signs]
    rfl

end Frame

namespace Server

variable {σ : Type} [DeviceStore σ] {store : Server σ}

/-- The server writes the bytes of a downlink that are its own. Over any store, a downlink that
succeeds names a stored device and comes back as it was handed over, but for its payload. That is as
long as it was. Its first byte has lost its reserved bits, the address and the lower half of the
counter of the record stand in their places, and at the end is the code that the key of the record
gives to these very bytes with the whole counter, for the direction that the first byte announces.
The flags, the commands, the port and the data are what they were. -/
theorem downlink_writes_its_places {message reply : DownlinkMessage}
    (ran : (store.downlink message).1 = .ok reply) :
    ∃ device, store.Finds message.appEui message.devEui device ∧
      reply = { message with payload := reply.payload } ∧
      Frame.Rewritten device.sessionKey device.address device.counterDown message.payload
        reply.payload := by
  obtain ⟨device, frame, data, read⟩ := read_of_downlink ran
  obtain ⟨identity, named, found, _, decoded, carries⟩ := readDownlink_eq_ok_iff.mp read
  obtain ⟨app, dev⟩ := identify_eq_ok_iff.mp named
  obtain ⟨payload, _, signs, _, done⟩ := downlink_eq_committed read
  rw [done] at ran
  cases eq_of_committed ran
  refine ⟨device, ⟨identity, app, dev, found⟩, rfl, ?_⟩
  -- Both the frame that came and the one that is signed are laid out over the same rest.
  obtain ⟨bytes, wrote, sent⟩ := signDownlink_eq_ok_iff.mp signs
  obtain ⟨first, control, rest, announced, received, writes⟩ :=
    Frame.exists_dataBytes_of_decode decoded carries
  cases writes _ _ _ wrote
  have payloads := congrArg DownlinkMessage.payload sent
  dsimp only at payloads ⊢
  rw [received, payloads, announced]
  exact Frame.rewritten_dataBytes frame.mic _ rfl

/-- A confirmed downlink with reserved bits, commands, a port, data and a code of its own, at a counter
of more than two bytes. -/
theorem downlink_writes_its_places_reserved :
    let device := { Device.unknown default with address := ⟨0x26010203⟩, counterDown := 0x1FFFE }
    let server := { ofNetId Directory.empty 0 with devices := Directory.empty.write device }
    let message : DownlinkMessage := {
      payload := [0xBC, 0x11, 0x22, 0x33, 0x44, 0x92, 7, 0, 2, 3, 1, 0xAA, 0xBB, 9, 9, 9, 9]
      appEui := some default
      devEui := some default
      appId := ""
      devId := ""
      option := some ⟨"", "gateway", none⟩ }
    ∃ sent, (server.downlink message).1 = .ok sent ∧ sent.option = message.option ∧
      sent.payload.headD 0 = 0xA0 ∧ (sent.payload.drop 6).take 2 = [0xFE, 0xFF] ∧
      (sent.payload.drop 8).take 5 = [2, 3, 1, 0xAA, 0xBB] ∧
      sent.payload.drop 13 = (integrityCode device.sessionKey
        (integrityInput (sent.payload.take 13) device.address 0x1FFFE .down)).toList := by
  intro device server message
  have read : ∃ frame data, server.readDownlink message = .ok (device, frame, data) := ⟨_, _, rfl⟩
  obtain ⟨frame, data, read⟩ := read
  obtain ⟨bytes, _, _, _, done⟩ := downlink_eq_committed read
  have ran : (server.downlink message).1 = .ok { message with payload := bytes } := by
    rw [done]
    rfl
  obtain ⟨stored, ⟨⟨_, _⟩, app, dev, found⟩, _, rewritten⟩ := downlink_writes_its_places ran
  cases app
  cases dev
  obtain rfl : device = stored := Except.ok.inj found
  have length : bytes.length = 17 := rewritten.length
  have type : message.payload.headD 0 &&& 0xE0 = 0xA0 := by decide
  have counter : littleEndian 2 device.counterDown = [0xFE, 0xFF] := by decide
  have down : (MessageType.ofHeader (message.payload.headD 0)).direction = .down := by decide
  have rest := rewritten.rest
  have signed := rewritten.signed
  rw [down] at signed
  dsimp only at rest signed
  rw [length] at rest signed
  exact ⟨_, ran, rfl, rewritten.typed.trans type, rewritten.counted.trans counter, rest, signed⟩

end Server
end LoRaNetwork
