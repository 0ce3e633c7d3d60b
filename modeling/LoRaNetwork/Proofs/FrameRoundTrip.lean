import LoRaNetwork.Proofs.FrameParts
import LoRaNetwork.Proofs.Outcome

/-! A frame survives the air. What the reader returns for written bytes is the frame itself but for
what a frame cannot carry, and what is written for accepted bytes are those bytes but for the
reserved bits. Both follow from the layout common to all frames, a first byte, a payload and an
integrity code, and from the round trips of the payloads. -/
namespace LoRaNetwork

namespace Payload

/-- The payload as a receiver reads it. -/
def received : Payload → Payload
  | .joinRequest request => .joinRequest request
  | .joinAccept accept => .joinAccept accept.received
  | .data payload => .data payload.received

/-- What a receiver knows of a payload, in numbers: everything, but only the lower half of a data
frame's counter and, of each frequency, the multiple of 100 Hz below it. -/
def SurvivesAs : Payload → Payload → Prop
  | .joinRequest sent, .joinRequest read => read = sent
  | .joinAccept sent, .joinAccept read =>
    read = { sent with channels := read.channels } ∧
      read.channels.map (fun list => list.frequencies.map UInt32.toNat) =
        sent.channels.map fun list =>
          list.frequencies.map fun frequency => frequency.toNat / 100 * 100
  | .data sent, .data read =>
    read = { sent with header := { sent.header with counter := read.header.counter } } ∧
      read.header.counter.toNat = sent.header.counter.toNat % 0x10000
  | _, _ => False

theorem survivesAs_received (payload : Payload) : payload.SurvivesAs payload.received := by
  cases payload with
  | joinRequest request => exact rfl
  | data payload => exact ⟨rfl, rfl⟩
  | joinAccept accept =>
    have inNumbers (frequency : UInt32) :
        (frequency / 100 * 100).toNat = frequency.toNat / 100 * 100 := by
      have bound := frequency.toNat_lt
      have hundred : (100 : UInt32).toNat = 100 := rfl
      rw [UInt32.toNat_mul, UInt32.toNat_div, hundred]
      omega
    refine ⟨rfl, ?_⟩
    cases found : accept.channels with
    | none => simp [JoinAccept.received, found]
    | some list => simp [JoinAccept.received, found, ChannelList.rounded, inNumbers]

/-- The bytes of a payload with the reserved bits cleared. Only acceptances have any. -/
def clearReserved (type : MessageType) (body : List UInt8) : List UInt8 :=
  if type = .joinAccept then JoinAccept.clearReserved body else body

/-- The four types of data frames announce the same payload. -/
theorem decode_data {type : MessageType} (data : type.isData = true) (body : List UInt8) :
    decode type body = (DataPayload.decode body).map .data := by
  cases type <;> first | rfl | cases data

theorem decode_of_encode {type : MessageType} {payload : Payload} {body : List UInt8}
    (fits : payload.fits type = true) (wrote : payload.encode = .ok body) :
    decode type body = .ok payload.received := by
  cases payload with
  | joinRequest request =>
    cases type <;> cases fits
    cases wrote
    rw [decode, JoinRequest.decode_encode]
    rfl
  | joinAccept accept =>
    cases type <;> cases fits
    rw [decode, JoinAccept.decode_of_encode wrote]
    rfl
  | data payload =>
    rw [decode_data fits, DataPayload.decode_of_encode wrote]
    rfl

/-- A payload that was read is of the announced kind, is written with the same bytes but for the
reserved bits, and has nothing left to lose. -/
theorem encode_of_decode {type : MessageType} {payload : Payload} {body : List UInt8}
    (ran : decode type body = .ok payload) :
    payload.fits type = true ∧ payload.encode = .ok (clearReserved type body) ∧
      payload.received = payload := by
  have dataCase (data : type.isData = true) : payload.fits type = true ∧
      payload.encode = .ok body ∧ payload.received = payload := by
    rw [decode_data data] at ran
    obtain ⟨content, read, rfl⟩ := map_eq_ok_iff.mp ran
    obtain ⟨wrote, settled⟩ := DataPayload.encode_of_decode read
    exact ⟨data, wrote, congrArg Payload.data settled⟩
  cases type with
  | joinRequest =>
    obtain ⟨request, read, rfl⟩ := map_eq_ok_iff.mp ran
    exact ⟨rfl, congrArg Except.ok (JoinRequest.encode_of_decode read), rfl⟩
  | joinAccept =>
    obtain ⟨accept, read, rfl⟩ := map_eq_ok_iff.mp ran
    obtain ⟨wrote, settled, _⟩ := JoinAccept.encode_of_decode read
    exact ⟨rfl, wrote, congrArg Payload.joinAccept settled⟩
  | unconfirmedDataUp => exact dataCase rfl
  | unconfirmedDataDown => exact dataCase rfl
  | confirmedDataUp => exact dataCase rfl
  | confirmedDataDown => exact dataCase rfl
  | rejoinRequest => cases ran
  | proprietary => cases ran

end Payload

namespace MessageType

/-- The first byte of a frame announces its type and the first version of the protocol. -/
theorem header_version (type : MessageType) : type.header &&& 0x03 = 0 := by
  cases type <;> rfl

/-- All that a first byte says but its version is its type. -/
theorem header_ofHeader (byte : UInt8) : (ofHeader byte).header = byte &&& 0xE0 := by
  have table : ∀ place : Fin 256, (ofHeader (.ofFin place)).header = .ofFin place &&& 0xE0 := by
    decide +kernel
  exact table byte.toFin

end MessageType

namespace Frame

/-- The frame as a receiver reads it: the counter of a data frame keeps its lower half, and the
frequencies of an acceptance are rounded down to a multiple of 100 Hz. -/
def received (frame : Frame) : Frame :=
  { frame with payload := frame.payload.received }

/-- A frame of any length is read as a first byte, a payload and four bytes of code. -/
theorem decode_eq (first : UInt8) (body : List UInt8) (mic : Octets 4) :
    decode (first :: (body ++ mic.toList)) =
      if maxSize < body.length + 5 then .error (.tooLong maxSize (body.length + 5))
      else if first &&& 0x03 = 0 then
        (Payload.decode (.ofHeader first) body).map fun payload =>
          ⟨.ofHeader first, payload, mic⟩
      else .error (.unsupportedMajor (first &&& 0x03)) := by
  have length : (body ++ mic.toList).length = body.length + 4 := by
    rw [List.length_append, mic.length_toList]
  have bodyAt : (body ++ mic.toList).take ((body ++ mic.toList).length - micSize) = body := by
    rw [length, micSize, Nat.add_sub_cancel]
    exact List.take_left
  have micAt : ∀ inside, Octets.slice (body ++ mic.toList)
      ((body ++ mic.toList).length - micSize) 4 inside = mic :=
    Octets.slice_eq (congrArg (body ++ ·) (List.append_nil _).symm)
      (by rw [length, micSize, Nat.add_sub_cancel])
  have enough : micSize ≤ (body ++ mic.toList).length := by
    rw [length, micSize]
    omega
  rw [decode]
  simp only [bodyAt, micAt, enough, ↓reduceDIte]
  rw [List.length_cons, length]
  cases Payload.decode (.ofHeader first) body <;> rfl

theorem length_frame_bytes (first : UInt8) (body : List UInt8) (mic : Octets 4) :
    (first :: (body ++ mic.toList)).length = body.length + 5 := by
  rw [List.length_cons, List.length_append, mic.length_toList]

theorem exists_frame_bytes {bytes : List UInt8} (enough : 5 ≤ bytes.length) :
    ∃ (first : UInt8) (body : List UInt8) (mic : Octets 4),
      bytes = first :: (body ++ mic.toList) := by
  obtain ⟨first, rest, rfl⟩ := List.exists_cons_of_length_pos (l := bytes) (by omega)
  rw [List.length_cons] at enough
  have last : (rest.drop (rest.length - 4)).take 4 = rest.drop (rest.length - 4) :=
    List.take_of_length_le (by rw [List.length_drop]; omega)
  refine ⟨first, rest.take (rest.length - 4), .slice rest (rest.length - 4) 4 (by omega), ?_⟩
  rw [Octets.toList_slice, last, List.take_append_drop]

theorem decode_short {bytes : List UInt8} (short : bytes.length < 5) :
    decode bytes = .error (.tooShort (1 + micSize) bytes.length) := by
  cases bytes with
  | nil => rfl
  | cons first rest =>
    have missing : ¬ micSize ≤ rest.length := by
      rw [List.length_cons] at short
      rw [micSize]
      omega
    rw [decode, if_neg (by rw [maxSize]; omega)]
    exact dif_neg missing

/-- What the reader accepts: at most 255 bytes, a first byte of the known version, and a payload of
the type that it announces. -/
theorem decode_eq_ok_iff {bytes : List UInt8} {frame : Frame} :
    decode bytes = .ok frame ↔ ∃ first body, bytes = first :: (body ++ frame.mic.toList) ∧
      bytes.length ≤ maxSize ∧ first &&& 0x03 = 0 ∧ frame.type = .ofHeader first ∧
      Payload.decode frame.type body = .ok frame.payload := by
  constructor
  · intro ran
    by_cases enough : 5 ≤ bytes.length
    · obtain ⟨first, body, mic, rfl⟩ := exists_frame_bytes enough
      rw [decode_eq] at ran
      split at ran
      · cases ran
      · rename_i short
        split at ran
        · rename_i version
          obtain ⟨payload, read, rfl⟩ := map_eq_ok_iff.mp ran
          refine ⟨first, body, rfl, ?_, version, rfl, read⟩
          rw [List.length_cons, List.length_append, mic.length_toList]
          exact Nat.not_lt.mp short
        · cases ran
    · rw [decode_short (Nat.not_le.mp enough)] at ran
      cases ran
  · rintro ⟨first, body, rfl, short, version, announced, read⟩
    rw [List.length_cons, List.length_append, frame.mic.length_toList] at short
    rw [decode_eq, if_neg (Nat.not_lt.mpr short), if_pos version, ← announced, read]
    rfl

theorem isData_of_decode {bytes : List UInt8} {frame : Frame} {data : DataPayload}
    (ran : decode bytes = .ok frame) (carries : frame.payload = .data data) :
    frame.type.isData = true := by
  obtain ⟨_, _, _, _, _, _, read⟩ := decode_eq_ok_iff.mp ran
  have fits := (Payload.encode_of_decode read).1
  rw [carries] at fits
  exact fits

/-- What comes before the integrity code is written when the payload is of the announced kind and
can be written, and there is room for the code in 255 bytes. -/
theorem content_eq_ok_iff {frame : Frame} {message : List UInt8} :
    frame.content = .ok message ↔ frame.payload.fits frame.type = true ∧ ∃ body,
      frame.payload.encode = .ok body ∧ message = frame.type.header :: body ∧
      message.length + micSize ≤ maxSize := by
  rw [content]
  by_cases fits : frame.payload.fits frame.type = true
  · rw [if_pos fits, bind_eq_ok_iff]
    constructor
    · rintro ⟨body, wrote, fitted⟩
      dsimp only at fitted
      split at fitted
      · cases fitted
      · rename_i short
        cases fitted
        exact ⟨fits, body, wrote, rfl, Nat.not_lt.mp short⟩
    · rintro ⟨_, body, wrote, rfl, short⟩
      exact ⟨body, wrote, if_neg (Nat.not_lt.mpr short)⟩
  · simp [fits]

theorem encode_eq_ok_iff {frame : Frame} {bytes : List UInt8} :
    frame.encode = .ok bytes ↔
      ∃ message, frame.content = .ok message ∧ bytes = message ++ frame.mic.toList := by
  rw [encode, bind_eq_ok_iff]
  simp [eq_comm]

/-- What was written is read as the frame itself, but for what a frame cannot carry. -/
theorem decode_of_encode {frame : Frame} {bytes : List UInt8} (wrote : frame.encode = .ok bytes) :
    decode bytes = .ok frame.received := by
  obtain ⟨message, content, rfl⟩ := encode_eq_ok_iff.mp wrote
  obtain ⟨fits, body, payload, rfl, short⟩ := content_eq_ok_iff.mp content
  refine decode_eq_ok_iff.mpr ⟨frame.type.header, body, rfl, ?_, frame.type.header_version,
    (MessageType.ofHeader_header _).symm, Payload.decode_of_encode fits payload⟩
  rw [List.length_append, frame.mic.length_toList]
  exact short

/-- The bytes of a frame with the reserved bits cleared: five in the first byte, and in an
acceptance one of the settings, four beside the delay and the last byte of the channels. -/
def clearReserved (bytes : List UInt8) : List UInt8 :=
  let typed := bytes.modify 0 (· &&& 0xE0)
  if MessageType.ofHeader (bytes.headD 0) = .joinAccept then
    let fixed := (typed.modify 11 (· &&& 0x7F)).modify 12 (· &&& 0x0F)
    if bytes.length = 33 then fixed.set 28 0 else fixed
  else typed

theorem length_clearReserved (bytes : List UInt8) :
    (clearReserved bytes).length = bytes.length := by
  simp only [clearReserved]
  split
  · split <;> simp
  · simp

/-- Clearing the reserved bits of a frame leaves its code alone. -/
theorem clearReserved_eq {first : UInt8} {body : List UInt8} (mic : Octets 4)
    (length : MessageType.ofHeader first = .joinAccept → body.length = 12 ∨ body.length = 28) :
    clearReserved (first :: (body ++ mic.toList)) =
      (first &&& 0xE0) ::
        (Payload.clearReserved (.ofHeader first) body ++ mic.toList) := by
  simp only [clearReserved, Payload.clearReserved, List.headD_cons, List.modify_zero_cons]
  by_cases accept : MessageType.ofHeader first = .joinAccept
  · have tenth : 10 < body.length := by
      have := length accept
      omega
    have eleventh : 11 < (body.modify 10 (· &&& 0x7F)).length := by
      have := length accept
      rw [List.length_modify]
      omega
    simp only [accept, ↓reduceIte, JoinAccept.clearReserved, List.modify_succ_cons,
      modify_append_left _ tenth, modify_append_left _ eleventh, List.length_cons,
      List.length_append, mic.length_toList]
    rcases length accept with short | long
    · rw [if_neg (by omega), List.set_eq_of_length_le (by simp [short])]
    · rw [if_pos (by omega), List.set_cons_succ, List.set_append_left _ _ (by simp [long])]
  · simp only [accept, ↓reduceIte]

/-- A frame that was read is written with the same bytes but for the reserved bits, and it has
nothing left to lose. -/
theorem encode_of_decode {bytes : List UInt8} {frame : Frame} (ran : decode bytes = .ok frame) :
    frame.encode = .ok (clearReserved bytes) ∧ frame.received = frame := by
  obtain ⟨first, body, rfl, short, version, announced, read⟩ := decode_eq_ok_iff.mp ran
  obtain ⟨fits, wrote, settled⟩ := Payload.encode_of_decode read
  have length (accept : MessageType.ofHeader first = .joinAccept) :
      body.length = 12 ∨ body.length = 28 := by
    rw [announced, accept] at read
    obtain ⟨content, found, _⟩ := map_eq_ok_iff.mp read
    exact (JoinAccept.encode_of_decode found).2.2
  have cleared := clearReserved_eq frame.mic length
  rw [← announced, ← MessageType.header_ofHeader, ← announced] at cleared
  constructor
  · refine encode_eq_ok_iff.mpr ⟨_, content_eq_ok_iff.mpr ⟨fits, _, wrote, rfl, ?_⟩, cleared⟩
    have same := length_clearReserved (first :: (body ++ frame.mic.toList))
    rw [cleared] at same
    simp only [List.length_cons, List.length_append, frame.mic.length_toList,
      micSize] at same short ⊢
    omega
  · rw [received, settled]

/-- Reading undoes writing over the whole frame format: what was written is read with the same type,
the same code and the same payload, but for what a frame cannot carry. -/
theorem decode_undoes_encode {frame : Frame} {bytes : List UInt8}
    (wrote : frame.encode = .ok bytes) :
    ∃ decoded, decode bytes = .ok decoded ∧ decoded.type = frame.type ∧
      decoded.mic = frame.mic ∧ frame.payload.SurvivesAs decoded.payload :=
  ⟨frame.received, decode_of_encode wrote, rfl, rfl, frame.payload.survivesAs_received⟩

/-- The counter of this frame is beyond 16 bits. -/
theorem decode_undoes_encode_wide_counter :
    let frame : Frame := ⟨.unconfirmedDataDown, .data ⟨⟨⟨0x26010203⟩,
      ⟨true, false, true, false⟩, 0x00010007, ⟨[2], by decide⟩⟩, some 1, [0xAA, 0xBB]⟩, .zero 4⟩
    frame.encode = .ok [0x60, 3, 2, 1, 0x26, 0xA1, 7, 0, 2, 1, 0xAA, 0xBB, 0, 0, 0, 0] ∧
      ∃ decoded,
        decode [0x60, 3, 2, 1, 0x26, 0xA1, 7, 0, 2, 1, 0xAA, 0xBB, 0, 0, 0, 0] = .ok decoded ∧
          decoded.type = frame.type ∧ decoded.mic = frame.mic ∧
          frame.payload.SurvivesAs decoded.payload :=
  ⟨rfl, decode_undoes_encode rfl⟩

/-- Reads bytes and writes the frame that they spell. -/
def reencode (bytes : List UInt8) : Except FrameError (List UInt8) :=
  decode bytes >>= encode

/-- Writing undoes reading up to the reserved bits: every frame that was read can be written, with
as many bytes, and these are the ones that were read with the reserved bits cleared. So two byte
strings spell the same frame when they agree in all other bits, and writing again changes
nothing. -/
theorem encode_undoes_decode {bytes : List UInt8} {frame : Frame}
    (ran : decode bytes = .ok frame) :
    frame.encode = .ok (clearReserved bytes) ∧
      (clearReserved bytes).length = bytes.length ∧
      (∀ other otherFrame, decode other = .ok otherFrame →
        (otherFrame = frame ↔ clearReserved other = clearReserved bytes)) ∧
      reencode bytes = .ok (clearReserved bytes) ∧
      reencode (clearReserved bytes) = .ok (clearReserved bytes) := by
  have back {bytes : List UInt8} {frame : Frame} (ran : decode bytes = .ok frame) :
      decode (clearReserved bytes) = .ok frame := by
    obtain ⟨wrote, settled⟩ := encode_of_decode ran
    rw [decode_of_encode wrote, settled]
  obtain ⟨wrote, _⟩ := encode_of_decode ran
  refine ⟨wrote, length_clearReserved bytes, ?_, bind_eq_ok_iff.mpr ⟨frame, ran, wrote⟩,
    bind_eq_ok_iff.mpr ⟨frame, back ran, wrote⟩⟩
  intro other otherFrame otherRan
  constructor
  · rintro rfl
    obtain ⟨otherWrote, _⟩ := encode_of_decode otherRan
    exact Except.ok.inj (otherWrote.symm.trans wrote)
  · intro same
    have otherBack := back otherRan
    rw [same, back ran] at otherBack
    exact (Except.ok.inj otherBack).symm

/-- An acceptance in which every reserved bit is set. -/
theorem encode_undoes_decode_reserved_bits :
    let bytes : List UInt8 := [0x3C, 1, 2, 3, 0x13, 0, 0, 3, 2, 1, 0x26, 0xA3, 0xF1, 0x18, 0x4F,
      0x84, 0xE8, 0x56, 0x84, 0xB8, 0x5E, 0x84, 0x88, 0x66, 0x84, 0x58, 0x6E, 0x84, 0xFF,
      1, 2, 3, 4]
    let written : List UInt8 := [0x20, 1, 2, 3, 0x13, 0, 0, 3, 2, 1, 0x26, 0x23, 0x01, 0x18, 0x4F,
      0x84, 0xE8, 0x56, 0x84, 0xB8, 0x5E, 0x84, 0x88, 0x66, 0x84, 0x58, 0x6E, 0x84, 0, 1, 2, 3, 4]
    ∃ frame, decode bytes = .ok frame ∧ frame.encode = .ok written ∧
      reencode written = .ok written := by
  intro bytes written
  have ran : decode bytes = .ok ⟨.joinAccept, .joinAccept ⟨⟨[3, 2, 1], rfl⟩, ⟨⟨[0, 0, 0x13], rfl⟩⟩,
    ⟨0x26010203⟩, ⟨3, 2⟩, 1, some ⟨[867100000, 867300000, 867500000, 867700000, 867900000], rfl⟩⟩,
    ⟨[1, 2, 3, 4], rfl⟩⟩ := rfl
  have cleared : clearReserved bytes = written := by decide
  obtain ⟨wrote, _, _, _, again⟩ := encode_undoes_decode ran
  rw [cleared] at wrote again
  exact ⟨_, ran, wrote, again⟩

end Frame

end LoRaNetwork
