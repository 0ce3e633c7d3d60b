import LoRaNetwork.Frame.Integrity
import LoRaNetwork.Proofs.FrameRoundTrip

/-! Signing data frames. The integrity code is computed over exactly the bytes that are sent before
it, so a frame is signed whenever it can be written. The counter shows up in three forms that have
to agree: the whole counter that was given, its lower half in the frame, and the whole counter again
in the code. A receiver that reads the frame finds the second and can check the third. -/
namespace LoRaNetwork

namespace Frame

theorem data?_eq_some_iff {frame : Frame} {data : DataPayload} :
    frame.data? = some data ↔ frame.payload = .data data := by
  rw [data?]
  cases frame.payload <;> simp

/-- The bytes of a data frame before its code. -/
theorem content_data_eq_ok_iff {frame : Frame} {data : DataPayload} {message : List UInt8}
    (carries : frame.payload = .data data) :
    frame.content = .ok message ↔ frame.type.isData = true ∧
      (data.port = none → data.content = []) ∧
      message = frame.type.header ::
        (data.header.encode ++ (data.port.toList ++ data.content)) ∧
      message.length + micSize ≤ maxSize := by
  rw [content_eq_ok_iff, carries]
  constructor
  · rintro ⟨fits, body, wrote, rfl, short⟩
    obtain ⟨bare, rfl⟩ := DataPayload.encode_eq_ok_iff.mp wrote
    exact ⟨fits, bare, rfl, short⟩
  · rintro ⟨fits, bare, rfl, short⟩
    exact ⟨fits, _, DataPayload.encode_eq_ok_iff.mpr ⟨bare, rfl⟩, rfl, short⟩

/-- A header with the same commands takes the place of another in a frame that can be written. -/
theorem content_of_header {frame : Frame} {data : DataPayload} {message : List UInt8}
    (carries : frame.payload = .data data) (wrote : frame.content = .ok message)
    {header : FrameHeader} (same : header.options = data.header.options) :
    ∃ other, content { frame with payload := .data { data with header := header } } =
      .ok other := by
  obtain ⟨fits, bare, rfl, short⟩ := (content_data_eq_ok_iff carries).mp wrote
  have replaced : payload { frame with payload := .data { data with header := header } } =
      .data { data with header := header } := rfl
  refine ⟨_, (content_data_eq_ok_iff replaced).mpr ⟨fits, bare, rfl, ?_⟩⟩
  simp only [List.length_cons, List.length_append, FrameHeader.length_encode, same] at short ⊢
  exact short

/-- Bytes that spell a data frame at an address, show the lower half of a counter, and end in the
code that a key gives to all bytes before it with the whole counter. -/
structure SignedWith (key : Key) (address : Address) (counter : UInt32) (frame : Frame)
    (bytes : List UInt8) : Prop where
  read : decode bytes = .ok frame
  header : ∃ data, frame.payload = .data data ∧ data.header.address = address ∧
    data.header.counter.toNat = counter.toNat % 0x10000
  code : ∃ message, bytes = message ++ frame.mic.toList ∧ frame.mic =
    integrityCode key (integrityInput message address counter frame.type.direction)

/-- What the code of a frame authenticates: its bytes with its address, direction and counter. -/
theorem authenticated_eq_ok_iff {frame : Frame} {input : List UInt8} :
    frame.authenticated = .ok input ↔ ∃ data message, frame.payload = .data data ∧
      frame.content = .ok message ∧ input =
        integrityInput message data.header.address data.header.counter frame.type.direction := by
  rw [authenticated]
  constructor
  · intro ran
    split at ran
    · cases ran
    · rename_i data found
      obtain ⟨message, wrote, same⟩ := bind_eq_ok_iff.mp ran
      cases same
      exact ⟨data, message, data?_eq_some_iff.mp found, wrote, rfl⟩
  · rintro ⟨data, message, carries, wrote, rfl⟩
    rw [data?_eq_some_iff.mpr carries]
    exact bind_eq_ok_iff.mpr ⟨message, wrote, rfl⟩

/-- A frame is signed when there is something for its code to authenticate. -/
theorem sign_eq_ok_iff {frame signed : Frame} {key : Key} :
    frame.sign key = .ok signed ↔ ∃ input, frame.authenticated = .ok input ∧
      signed = { frame with mic := integrityCode key input } := by
  rw [sign, expectedMic, map_eq_ok_iff]
  constructor
  · rintro ⟨mic, found, rfl⟩
    obtain ⟨input, ran, rfl⟩ := map_eq_ok_iff.mp found
    exact ⟨input, ran, rfl⟩
  · rintro ⟨input, ran, rfl⟩
    exact ⟨_, map_eq_ok_iff.mpr ⟨input, ran, rfl⟩, rfl⟩

/-- The code of a frame does not authenticate itself, so a signed frame verifies. -/
theorem verify_of_sign {frame signed : Frame} {key : Key} (signs : frame.sign key = .ok signed) :
    signed.verify key = .ok true := by
  obtain ⟨input, ran, rfl⟩ := sign_eq_ok_iff.mp signs
  have again : authenticated { frame with mic := integrityCode key input } = .ok input := ran
  rw [verify, expectedMic, again]
  exact map_eq_ok_iff.mpr ⟨_, rfl, beq_self_eq_true _⟩

/-- A data frame that can be written is sent as its bytes and the code that the key gives to them. -/
theorem sign_encode_eq_ok_iff {frame : Frame} {key : Key} {bytes : List UInt8} :
    (frame.sign key >>= encode) = .ok bytes ↔ ∃ data message, frame.payload = .data data ∧
      frame.content = .ok message ∧ bytes = message ++ (integrityCode key (integrityInput message
        data.header.address data.header.counter frame.type.direction)).toList := by
  rw [bind_eq_ok_iff]
  constructor
  · rintro ⟨signed, signs, writes⟩
    obtain ⟨input, ran, rfl⟩ := sign_eq_ok_iff.mp signs
    obtain ⟨data, message, carries, wrote, rfl⟩ := authenticated_eq_ok_iff.mp ran
    obtain ⟨again, wroteAgain, rfl⟩ := encode_eq_ok_iff.mp writes
    cases wrote.symm.trans wroteAgain
    exact ⟨data, message, carries, wrote, rfl⟩
  · rintro ⟨data, message, carries, wrote, rfl⟩
    have ran := authenticated_eq_ok_iff.mpr ⟨data, message, carries, wrote, rfl⟩
    exact ⟨_, sign_eq_ok_iff.mpr ⟨_, ran, rfl⟩, encode_eq_ok_iff.mpr ⟨message, wrote, rfl⟩⟩

/-- What a receiver reads of a frame that was signed. -/
theorem signedWith_of_content {frame : Frame} {data : DataPayload} {message : List UInt8}
    (key : Key) (carries : frame.payload = .data data) (wrote : frame.content = .ok message) :
    ∃ bytes signed, (frame.sign key >>= encode) = .ok bytes ∧
      SignedWith key data.header.address data.header.counter signed bytes := by
  obtain ⟨mic, code⟩ : ∃ mic, mic = integrityCode key (integrityInput message
      data.header.address data.header.counter frame.type.direction) := ⟨_, rfl⟩
  have signs : (frame.sign key >>= encode) = .ok (message ++ mic.toList) :=
    sign_encode_eq_ok_iff.mpr ⟨data, message, carries, wrote, code ▸ rfl⟩
  have writes : encode { frame with mic := mic } = .ok (message ++ mic.toList) :=
    encode_eq_ok_iff.mpr ⟨message, wrote, rfl⟩
  refine ⟨_, _, signs, decode_of_encode writes, ?_, ?_⟩
  · refine ⟨data.received, ?_, rfl, rfl⟩
    rw [received, carries]
    rfl
  · exact ⟨message, rfl, code⟩

/-- A downlink that is a header alone. -/
def headerDown (header : FrameHeader) (mic : Octets 4) : Frame :=
  ⟨.unconfirmedDataDown, .data (.ofHeader header), mic⟩

/-- There is room for every header. -/
theorem content_headerDown (header : FrameHeader) (mic : Octets 4) :
    (headerDown header mic).content =
      .ok (MessageType.unconfirmedDataDown.header :: header.encode) := by
  have carries : (headerDown header mic).payload = .data (.ofHeader header) := rfl
  apply (content_data_eq_ok_iff carries).mpr
  refine ⟨rfl, fun _ => rfl, ?_, ?_⟩
  · simp [DataPayload.ofHeader, headerDown]
  · have few := header.options.length_le
    rw [List.length_cons, FrameHeader.length_encode, FrameHeader.size, micSize, maxSize]
    omega

theorem encode_headerDown (header : FrameHeader) (mic : Octets 4) :
    (headerDown header mic).encode =
      .ok (MessageType.unconfirmedDataDown.header :: (header.encode ++ mic.toList)) :=
  encode_eq_ok_iff.mpr ⟨_, content_headerDown header mic, rfl⟩

/-- What the receiver of a signed header reads. -/
theorem sign_headerDown (header : FrameHeader) (old : Octets 4) (key : Key) : ∃ mic,
    ((headerDown header old).sign key >>= encode) =
      .ok (MessageType.unconfirmedDataDown.header :: (header.encode ++ mic.toList)) ∧
    SignedWith key header.address header.counter (headerDown header.received mic)
      (MessageType.unconfirmedDataDown.header :: (header.encode ++ mic.toList)) := by
  obtain ⟨bytes, frame, signs, correct⟩ :=
    signedWith_of_content key rfl (content_headerDown header old)
  obtain ⟨signed, ran, writes⟩ := bind_eq_ok_iff.mp signs
  obtain ⟨input, _, rfl⟩ := sign_eq_ok_iff.mp ran
  have wrote := encode_headerDown header (integrityCode key input)
  cases writes.symm.trans wrote
  cases correct.read.symm.trans (decode_of_encode wrote)
  exact ⟨_, signs, correct⟩

end Frame

end LoRaNetwork
