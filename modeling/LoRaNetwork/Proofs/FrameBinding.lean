import LoRaNetwork.Proofs.FrameSigning

/-! What the integrity code binds. A code is a function of a key and one byte string, so a frame is
bound as far as its byte string tells it from other frames. It tells all: the block in front has a
fixed length and holds the whole counter, and the bytes after it are those that are sent, from which
everything else can be read again. That these bytes are never more than 251 is what keeps their
number in one byte of the block. -/
namespace LoRaNetwork

/-- No two words have the same four bytes. -/
theorem littleEndian_four_inj {word other : UInt32}
    (same : littleEndian 4 word = littleEndian 4 other) : word = other := by
  have read := congrArg ofLittleEndian same
  rwa [ofLittleEndian_littleEndian_four, ofLittleEndian_littleEndian_four] at read

theorem length_integrityBlock (address : Address) (counter : UInt32) (direction : Direction)
    (length : Nat) : (integrityBlock address counter direction length).length = 16 := by
  simp [integrityBlock]

/-- The last byte of the block counts the message, if one byte can. -/
theorem getElem?_integrityInput {message : List UInt8} (short : message.length < 256)
    (address : Address) (counter : UInt32) (direction : Direction) :
    (integrityInput message address counter direction)[15]?.map UInt8.toNat =
      some message.length := by
  have inside : 15 < (integrityBlock address counter direction message.length).length := by
    rw [length_integrityBlock]
    decide
  rw [integrityInput, List.getElem?_append_left inside, integrityBlock,
    List.getElem?_append_right (by simp)]
  simpa using Nat.mod_eq_of_lt short

/-- From the byte string come back the address, the whole counter and the message. -/
theorem integrityInput_inj {message otherMessage : List UInt8} {address otherAddress : Address}
    {counter otherCounter : UInt32} {direction otherDirection : Direction}
    (same : integrityInput message address counter direction =
      integrityInput otherMessage otherAddress otherCounter otherDirection) :
    address = otherAddress ∧ counter = otherCounter ∧ message = otherMessage := by
  obtain ⟨blocks, messages⟩ := List.append_inj same
    (by rw [length_integrityBlock, length_integrityBlock])
  obtain ⟨front, _⟩ := List.append_inj blocks (by simp)
  obtain ⟨front, counters⟩ := List.append_inj front (by simp)
  obtain ⟨_, addresses⟩ := List.append_inj front rfl
  refine ⟨?_, littleEndian_four_inj counters, messages⟩
  cases address
  cases otherAddress
  exact congrArg Address.mk (littleEndian_four_inj addresses)

namespace Frame

/-- A receiver that reads the same bytes before the code reads the same frame before the code. -/
theorem received_of_content {frame other : Frame} {message : List UInt8}
    (wrote : frame.content = .ok message) (otherWrote : other.content = .ok message) :
    frame.type = other.type ∧ frame.payload.received = other.payload.received := by
  -- The code is no part of the content, so any will do to complete both frames with.
  have written : encode { frame with mic := .zero 4 } =
      .ok (message ++ (Octets.zero 4).toList) := encode_eq_ok_iff.mpr ⟨message, wrote, rfl⟩
  have otherWritten : encode { other with mic := .zero 4 } =
      .ok (message ++ (Octets.zero 4).toList) := encode_eq_ok_iff.mpr ⟨message, otherWrote, rfl⟩
  have both := (decode_of_encode written).symm.trans (decode_of_encode otherWritten)
  simp only [Except.ok.injEq, received, Frame.mk.injEq] at both
  exact ⟨both.1, both.2.1⟩

/-- The code of a frame binds all of it. Whatever two data frames are signed, their codes are
computed over the same byte string only if the frames are of the same type and have the same
payload: address, flags, whole counter, commands, port or none, and application data. The byte
string is a block of sixteen bytes, the last of which is the exact number of those that follow, and
all bytes that are sent before the code. -/
theorem code_binds_frame {frame other signed otherSigned : Frame} {key otherKey : Key}
    (signs : frame.sign key = .ok signed) (otherSigns : other.sign otherKey = .ok otherSigned) :
    (frame.authenticated = other.authenticated →
      frame.type = other.type ∧
        ∃ data, frame.payload = .data data ∧ other.payload = .data data) ∧
    ∃ input message, frame.authenticated = .ok input ∧ signed.mic = integrityCode key input ∧
      frame.content = .ok message ∧ input.drop 16 = message ∧
      input[15]?.map UInt8.toNat = some message.length := by
  obtain ⟨input, ran, rfl⟩ := sign_eq_ok_iff.mp signs
  obtain ⟨otherInput, otherRan, -⟩ := sign_eq_ok_iff.mp otherSigns
  obtain ⟨data, message, carries, wrote, layout⟩ := authenticated_eq_ok_iff.mp ran
  obtain ⟨otherData, otherMessage, otherCarries, otherWrote, otherLayout⟩ :=
    authenticated_eq_ok_iff.mp otherRan
  constructor
  · intro same
    rw [ran, otherRan, Except.ok.injEq, layout, otherLayout] at same
    obtain ⟨_, counters, rfl⟩ := integrityInput_inj same
    obtain ⟨types, payloads⟩ := received_of_content wrote otherWrote
    refine ⟨types, data, carries, ?_⟩
    rw [carries, otherCarries] at payloads
    -- What the bytes that are sent do not show is the upper half of the counter.
    obtain ⟨⟨address, control, counter, options⟩, port, content⟩ := data
    obtain ⟨⟨otherAddress, otherControl, otherCounter, otherOptions⟩, otherPort, otherContent⟩ :=
      otherData
    simp only [Payload.received, DataPayload.received, FrameHeader.received, Payload.data.injEq,
      DataPayload.mk.injEq, FrameHeader.mk.injEq] at payloads counters
    obtain ⟨⟨rfl, rfl, _, rfl⟩, rfl, rfl⟩ := payloads
    rw [otherCarries, counters]
  · obtain ⟨_, _, _, short⟩ := (content_data_eq_ok_iff carries).mp wrote
    rw [micSize, maxSize] at short
    refine ⟨input, message, ran, rfl, wrote, ?_, ?_⟩
    · rw [layout, integrityInput, List.drop_left' (length_integrityBlock ..)]
    · rw [layout]
      exact getElem?_integrityInput (by omega) _ _ _

/-- Two frames that are sent with the same bytes, as their counters differ in the upper half only,
and whose codes are computed over different ones. -/
theorem code_binds_frame_upper_half :
    let frame (counter : UInt32) : Frame := .unsigned .confirmedDataDown (.data
      ⟨⟨⟨0x26010203⟩, ⟨true, false, true, false⟩, counter, ⟨[2], by decide⟩⟩, some 1, [0xAA]⟩)
    (frame 0x00000007).content = (frame 0x00010007).content ∧
      (frame 0x00000007).authenticated ≠ (frame 0x00010007).authenticated := by
  intro frame
  have signs (counter : UInt32) : ∃ signed, (frame counter).sign default = .ok signed :=
    ⟨_, sign_eq_ok_iff.mpr ⟨_, rfl, rfl⟩⟩
  obtain ⟨_, narrow⟩ := signs 0x00000007
  obtain ⟨_, wide⟩ := signs 0x00010007
  refine ⟨rfl, fun same => ?_⟩
  obtain ⟨_, data, carries, otherCarries⟩ := (code_binds_frame narrow wide).1 same
  have equal : (frame 0x00000007).payload = (frame 0x00010007).payload :=
    carries.trans otherCarries.symm
  exact absurd equal (by decide)

end Frame

end LoRaNetwork
