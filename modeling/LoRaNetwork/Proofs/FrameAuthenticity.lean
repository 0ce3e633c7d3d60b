import LoRaNetwork.Proofs.FrameBinding

/-! What the integrity code of a received frame covers. A frame does not keep the bytes that it was
read from, so its code is checked over the bytes that it would be sent with. These are the received
ones for all that a data frame holds, down to the last bit of its flags and its commands. Only the
three bits that the first byte reserves have no place in a frame: they are ignored on the way in
and zero on the way out, and so they are the only ones that can change unseen. -/
namespace LoRaNetwork

namespace Frame

/-- What the code of received bytes covers: all bytes before it, but for the three bits that the
first one reserves. -/
def coveredBytes (bytes : List UInt8) : List UInt8 :=
  (bytes.take (bytes.length - micSize)).modify 0 (· &&& 0xE3)

theorem take_before_code (first : UInt8) (body : List UInt8) (mic : Octets 4) :
    (first :: (body ++ mic.toList)).take ((first :: (body ++ mic.toList)).length - micSize) =
      first :: body := by
  have before : (first :: (body ++ mic.toList)).length - micSize = (first :: body).length := by
    rw [length_frame_bytes, List.length_cons, micSize]
    omega
  rw [before, ← List.cons_append, List.take_left]

theorem coveredBytes_eq (first : UInt8) (body : List UInt8) (mic : Octets 4) :
    coveredBytes (first :: (body ++ mic.toList)) = (first &&& 0xE3) :: body := by
  rw [coveredBytes, take_before_code, List.modify_zero_cons]

/-- In a first byte of the known version, all bits but the reserved ones are those of its type. -/
theorem header_of_version {first : UInt8} (version : first &&& 0x03 = 0) :
    (MessageType.ofHeader first).header = first &&& 0xE3 := by
  have table : ∀ place : Fin 256, UInt8.ofFin place &&& 0x03 = 0 →
      UInt8.ofFin place &&& 0xE0 = UInt8.ofFin place &&& 0xE3 := by
    decide +kernel
  rw [MessageType.header_ofHeader]
  exact table first.toFin version

/-- A data frame that was read is written with the same bytes before its code but for the reserved
bits. -/
theorem content_of_decode {bytes : List UInt8} {frame : Frame} {data : DataPayload}
    (ran : decode bytes = .ok frame) (carries : frame.payload = .data data) :
    frame.content = .ok (coveredBytes bytes) := by
  obtain ⟨first, body, rfl, short, version, announced, read⟩ := decode_eq_ok_iff.mp ran
  obtain ⟨fits, wrote, _⟩ := Payload.encode_of_decode read
  have other : frame.type ≠ .joinAccept := by
    intro accept
    have announces := isData_of_decode ran carries
    rw [accept] at announces
    cases announces
  rw [Payload.clearReserved, if_neg other] at wrote
  refine content_eq_ok_iff.mpr ⟨fits, body, wrote, ?_, ?_⟩
  · rw [coveredBytes_eq, announced, header_of_version version]
  · rw [length_frame_bytes] at short
    rw [coveredBytes_eq, List.length_cons, micSize]
    omega

/-- The code of a frame is that of a byte string, when it is checked and when it is set. -/
structure CodeCovers (frame : Frame) (input : List UInt8) : Prop where
  verify : ∀ key, frame.verify key = .ok (integrityCode key input == frame.mic)
  sign : ∀ key, frame.sign key = .ok { frame with mic := integrityCode key input }

theorem codeCovers_of_authenticated {frame : Frame} {input : List UInt8}
    (ran : frame.authenticated = .ok input) : frame.CodeCovers input where
  verify key := by rw [Frame.verify, expectedMic, ran]; rfl
  sign key := sign_eq_ok_iff.mpr ⟨input, ran, rfl⟩

/-- What the code of a data frame that was read authenticates. -/
theorem authenticated_of_decode {bytes : List UInt8} {frame : Frame} {data : DataPayload}
    (ran : decode bytes = .ok frame) (carries : frame.payload = .data data) :
    frame.authenticated = .ok (integrityInput (coveredBytes bytes) data.header.address
      data.header.counter frame.type.direction) :=
  authenticated_eq_ok_iff.mpr ⟨data, _, carries, content_of_decode ran carries, rfl⟩

/-- Frames that are sent with the same bytes before their codes, and were received, are the same
before their codes. -/
theorem eq_of_covered {bytes other : List UInt8} {frame otherFrame : Frame}
    {data otherData : DataPayload} (ran : decode bytes = .ok frame)
    (carries : frame.payload = .data data) (otherRan : decode other = .ok otherFrame)
    (otherCarries : otherFrame.payload = .data otherData)
    (same : coveredBytes other = coveredBytes bytes) :
    otherFrame.type = frame.type ∧ otherData = data := by
  have wrote := content_of_decode ran carries
  have otherWrote := content_of_decode otherRan otherCarries
  rw [same] at otherWrote
  obtain ⟨types, payloads⟩ := received_of_content otherWrote wrote
  -- What was read has nothing left to lose by being sent and received again.
  have settled : frame.payload.received = frame.payload :=
    congrArg Frame.payload (encode_of_decode ran).2
  have otherSettled : otherFrame.payload.received = otherFrame.payload :=
    congrArg Frame.payload (encode_of_decode otherRan).2
  rw [settled, otherSettled, carries, otherCarries] at payloads
  exact ⟨types, Payload.data.inj payloads⟩

/-- The code of a received data frame authenticates what was received. It is checked and set over the
received bytes before it with the reserved bits of the first byte cleared, and the block in front of
them is made from the frame that they spell. So no other bit before the code can change without a
change of what the code authenticates: whatever other bytes are received as a data frame, theirs
is computed over the same byte string exactly when they agree before the code in all bits but the
reserved ones. -/
theorem code_covers_received_bytes {bytes : List UInt8} {frame : Frame} {data : DataPayload}
    (ran : decode bytes = .ok frame) (carries : frame.payload = .data data) :
    bytes = bytes.take (bytes.length - micSize) ++ frame.mic.toList ∧
      frame.CodeCovers (integrityInput (coveredBytes bytes) data.header.address
        data.header.counter frame.type.direction) ∧
      ∀ other otherFrame otherData, decode other = .ok otherFrame →
        otherFrame.payload = .data otherData →
        (otherFrame.authenticated = frame.authenticated ↔
          coveredBytes other = coveredBytes bytes) := by
  have authenticated := authenticated_of_decode ran carries
  refine ⟨?_, codeCovers_of_authenticated authenticated, ?_⟩
  · obtain ⟨first, body, rfl, _⟩ := decode_eq_ok_iff.mp ran
    rw [take_before_code]
    rfl
  · intro other otherFrame otherData otherRan otherCarries
    rw [authenticated, authenticated_of_decode otherRan otherCarries, Except.ok.injEq]
    constructor
    · exact fun same => (integrityInput_inj same).2.2
    · intro same
      obtain ⟨types, rfl⟩ := eq_of_covered ran carries otherRan otherCarries same
      rw [same, types]

/-- All three reserved bits of this frame are set, and its code covers them as if they were not. -/
theorem code_covers_received_bytes_reserved_set :
    let bytes : List UInt8 := [0x9C, 3, 2, 1, 0x26, 0x81, 7, 0, 2, 1, 0xAA, 1, 2, 3, 4]
    let header : FrameHeader :=
      ⟨⟨0x26010203⟩, ⟨true, false, false, false⟩, 7, ⟨[2], by decide⟩⟩
    let frame : Frame := ⟨.confirmedDataUp, .data ⟨header, some 1, [0xAA]⟩, ⟨[1, 2, 3, 4], rfl⟩⟩
    decode bytes = .ok frame ∧ frame.CodeCovers (integrityInput
      [0x80, 3, 2, 1, 0x26, 0x81, 7, 0, 2, 1, 0xAA] ⟨0x26010203⟩ 7 .up) := by
  intro bytes header frame
  have ran : decode bytes = .ok frame := rfl
  obtain ⟨_, covers, _⟩ := code_covers_received_bytes ran rfl
  exact ⟨ran, covers⟩

/-- Two byte strings that differ in a reserved bit alone are received as one frame, so its code is
not computed over the bytes of both: the one with the bit set is authenticated as the other. -/
theorem code_misses_reserved_bit :
    let bytes : List UInt8 := [0x44, 3, 2, 1, 0x26, 0, 1, 0, 1, 0xAA, 1, 2, 3, 4]
    let cleared : List UInt8 := [0x40, 3, 2, 1, 0x26, 0, 1, 0, 1, 0xAA, 1, 2, 3, 4]
    let data : DataPayload := ⟨⟨⟨0x26010203⟩, .none, 1, .empty⟩, some 1, [0xAA]⟩
    let frame : Frame := ⟨.unconfirmedDataUp, .data data, ⟨[1, 2, 3, 4], rfl⟩⟩
    decode bytes = .ok frame ∧ decode cleared = .ok frame ∧
      frame.content = .ok (cleared.take 10) ∧ frame.content ≠ .ok (bytes.take 10) ∧
      frame.CodeCovers (integrityInput (cleared.take 10) data.header.address data.header.counter
        frame.type.direction) := by
  intro bytes cleared data frame
  have ran : decode cleared = .ok frame := rfl
  have carries : frame.payload = .data data := rfl
  have covered : coveredBytes cleared = cleared.take 10 := by decide
  have wrote := content_of_decode ran carries
  have covers := codeCovers_of_authenticated (authenticated_of_decode ran carries)
  rw [covered] at wrote covers
  refine ⟨rfl, ran, wrote, ?_, covers⟩
  intro same
  have equal : cleared.take 10 = bytes.take 10 := Except.ok.inj (wrote.symm.trans same)
  exact absurd equal (by decide)

end Frame

end LoRaNetwork
