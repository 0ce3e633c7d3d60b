import LoRaNetwork.Proofs.CounterReconstruction
import LoRaNetwork.Proofs.FrameSigning

/-! A signed frame on its way. What is sent of the counter is its lower half, and what is signed is
all of it, so the receiver has to find the upper half again before the code can be checked. When it
does, by the rule that counters only run ahead, it holds the very frame that was signed. -/
namespace LoRaNetwork

namespace Frame

/-- With its whole counter back, a data frame that was received is the frame that was sent. -/
theorem received_withCounter {frame : Frame} {data : DataPayload}
    (carries : frame.payload = .data data) :
    frame.received.withCounter data.header.counter = frame := by
  obtain ⟨type, payload, mic⟩ := frame
  cases carries
  rfl

/-- Sign, send, receive, find the counter again, verify. A data frame that was signed can be sent,
and what arrives is a data frame with the lower half of the counter. Whatever counter the receiver
has last seen, if the frame's is not behind it and less than 2¹⁶ ahead, then the counter that goes
with the lower half makes the received frame the signed one, and it verifies under the same key. -/
theorem delivered_frame_verifies {frame signed : Frame} {data : DataPayload} {key : Key}
    {last : UInt32} (carries : frame.payload = .data data) (signs : frame.sign key = .ok signed)
    (behind : last.toNat ≤ data.header.counter.toNat)
    (near : data.header.counter.toNat ≤ last.toNat + 0xFFFF) :
    ∃ bytes arrived heard, signed.encode = .ok bytes ∧ decode bytes = .ok arrived ∧
      arrived.payload = .data heard ∧
      heard.header.counter.toNat = data.header.counter.toNat % 0x10000 ∧
      let whole := arrived.withCounter (wholeCounter last heard.header.counter.toUInt16)
      whole = signed ∧ whole.verify key = .ok true := by
  obtain ⟨input, ran, same⟩ := sign_eq_ok_iff.mp signs
  obtain ⟨_, message, _, wrote, _⟩ := authenticated_eq_ok_iff.mp ran
  have carried : signed.payload = .data data := by rw [same, carries]
  have writes : signed.encode = .ok (message ++ signed.mic.toList) := by
    refine encode_eq_ok_iff.mpr ⟨message, ?_, rfl⟩
    rw [same]
    exact wrote
  -- The lower half of the lower half is the lower half.
  have half : (data.header.counter % 65536).toUInt16 = data.header.counter.toUInt16 := by
    apply UInt16.toNat_inj.mp
    rw [UInt32.toNat_toUInt16, UInt32.toNat_toUInt16]
    exact Nat.mod_mod _ _
  have whole : signed.received.withCounter
      (wholeCounter last data.received.header.counter.toUInt16) = signed := by
    change signed.received.withCounter
      (wholeCounter last (data.header.counter % 65536).toUInt16) = signed
    rw [half, wholeCounter_of_near behind near, received_withCounter carried]
  refine ⟨_, signed.received, data.received, writes, decode_of_encode writes, ?_, rfl, whole, ?_⟩
  · rw [received, carried]
    rfl
  · rw [whole]
    exact verify_of_sign signs

/-- The counter of this frame has just begun its third round of 16 bits. -/
theorem delivered_frame_verifies_rollover :
    let data : DataPayload := ⟨⟨⟨0x26010203⟩, ⟨true, false, true, false⟩, 0x00020003, ⟨[2], by decide⟩⟩,
      some 1, [0xAA, 0xBB]⟩
    let frame : Frame := .unsigned .unconfirmedDataDown (.data data)
    ∃ signed bytes arrived heard, frame.sign default = .ok signed ∧
      signed.encode = .ok bytes ∧ decode bytes = .ok arrived ∧ arrived.payload = .data heard ∧
      heard.header.counter = 3 ∧
      (arrived.withCounter (wholeCounter 0x0001FFFE 3)).verify default = .ok true := by
  intro data frame
  obtain ⟨signed, signs⟩ : ∃ signed, frame.sign default = .ok signed :=
    ⟨_, sign_eq_ok_iff.mpr ⟨_, rfl, rfl⟩⟩
  have behind : (0x0001FFFE : UInt32).toNat ≤ data.header.counter.toNat := by decide
  obtain ⟨bytes, arrived, heard, sent, read, carries, half, _, verifies⟩ :=
    delivered_frame_verifies rfl signs behind (by decide)
  have three : heard.header.counter = 3 := UInt32.toNat_inj.mp (half.trans (by decide))
  rw [three] at verifies
  exact ⟨signed, bytes, arrived, heard, signs, sent, read, carries, three, verifies⟩

end Frame

end LoRaNetwork
