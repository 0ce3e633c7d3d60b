import LoRaNetwork.Proofs.FrameBounds
import Mathlib.Tactic.SplitIfs

/-! The grammar of frames. What the reader accepts is said in lengths and in two bytes, the first of
the frame and the sixth, and so is the reason that it gives when it does not accept. Each payload
has its own lengths; the reasons of its reader are found first and then put behind those of the
frame. -/
namespace LoRaNetwork

theorem JoinRequest.failure?_decode (body : List UInt8) :
    failure? (decode body) =
      if body.length < size then some (.tooShort size body.length)
      else if size < body.length then some (.invalidLength size body.length)
      else none := by
  simp only [decode, failure?_ite, failure?_dite, failure?_error, failure?_ok]
  split_ifs <;> first | rfl | omega

theorem ChannelList.failure?_decode? (bytes : List UInt8) :
    failure? (decode? bytes) =
      if bytes.length = 0 ∨ bytes.length = size then none
      else some (.invalidChannelList bytes.length) := by
  simp only [decode?, failure?_ite, failure?_dite, failure?_error, failure?_ok,
    ← List.length_eq_zero_iff]
  split_ifs <;> first | rfl | omega

theorem JoinAccept.failure?_decode (body : List UInt8) :
    failure? (decode body) =
      if body.length < size then some (.tooShort size body.length)
      else if body.length = size ∨ body.length = size + ChannelList.size then none
      else some (.invalidChannelList (body.length - size)) := by
  by_cases enough : size ≤ body.length
  · obtain ⟨nonce, netId, address, settings, delay, channels, rfl⟩ := exists_accept_bytes enough
    have length : (nonce.toList ++ (netId.toList ++
        (address.toList ++ settings :: delay :: channels))).length = size + channels.length := by
      simp only [List.length_append, List.length_cons, Octets.length_toList, size]
      omega
    rw [decode_eq, failure?_map, ChannelList.failure?_decode?, length, Nat.add_sub_cancel_left]
    split_ifs <;> first | rfl | omega
  · rw [decode, dif_neg enough, if_pos (Nat.not_le.mp enough)]
    rfl

/-- The number of announced commands matters only where there is a whole header. -/
theorem FrameHeader.failure?_decode {body : List UInt8} {commands : Nat}
    (announced : size ≤ body.length → commandBytes (body.getD 4 0) = commands) :
    failure? (decode body) =
      if body.length < size then some (.tooShort size body.length)
      else if body.length < size + commands then some (.tooShort (size + commands) body.length)
      else none := by
  by_cases enough : size ≤ body.length
  · rw [if_neg (Nat.not_lt.mpr enough), ← announced enough]
    obtain ⟨a, b, c, d, control, low, high, tail, rfl⟩ := exists_header_bytes enough
    rw [decode_eq, failure?_ite]
    rfl
  · rw [decode, dif_neg enough, if_pos (Nat.not_le.mp enough)]
    rfl

/-- Whatever follows a header is a port and application data. -/
theorem DataPayload.failure?_decode (body : List UInt8) :
    failure? (decode body) = failure? (FrameHeader.decode body) := by
  apply failure?_bind_total
  rintro ⟨header, _ | ⟨port, content⟩⟩ <;> rfl

/-- What is wrong with a payload of so many bytes that announces so many commands. -/
def Payload.lengthFault? (type : MessageType) (length commands : Nat) : Option FrameError :=
  match type with
  | .joinRequest =>
    if length < 18 then some (.tooShort 18 length)
    else if 18 < length then some (.invalidLength 18 length)
    else none
  | .joinAccept =>
    if length < 12 then some (.tooShort 12 length)
    else if length = 12 ∨ length = 28 then none
    else some (.invalidChannelList (length - 12))
  | .unconfirmedDataUp | .unconfirmedDataDown | .confirmedDataUp | .confirmedDataDown =>
    if length < 7 then some (.tooShort 7 length)
    else if length < 7 + commands then some (.tooShort (7 + commands) length)
    else none
  | .rejoinRequest | .proprietary => some (.unsupported type)

theorem Payload.failure?_decode (type : MessageType) {body : List UInt8} {commands : Nat}
    (announced : 7 ≤ body.length → FrameHeader.commandBytes (body.getD 4 0) = commands) :
    failure? (decode type body) = lengthFault? type body.length commands := by
  have dataCase := (failure?_map (f := Payload.data)).trans
    ((DataPayload.failure?_decode body).trans (FrameHeader.failure?_decode announced))
  cases type with
  | joinRequest => exact failure?_map.trans (JoinRequest.failure?_decode body)
  | joinAccept => exact failure?_map.trans (JoinAccept.failure?_decode body)
  | unconfirmedDataUp => exact dataCase
  | unconfirmedDataDown => exact dataCase
  | confirmedDataUp => exact dataCase
  | confirmedDataDown => exact dataCase
  | rejoinRequest => rfl
  | proprietary => rfl

namespace Frame

/-- How many bytes of commands a data frame announces, in the lower half of its sixth byte. -/
def announcedCommands (bytes : List UInt8) : Nat :=
  (bytes.getD 5 0 &&& 0x0F).toNat

/-- Why bytes are no frame: their number first, then the version, then what their type asks for. -/
def fault? (bytes : List UInt8) : Option FrameError :=
  let first := bytes.headD 0
  if 255 < bytes.length then some (.tooLong 255 bytes.length)
  else if bytes.length < 5 then some (.tooShort 5 bytes.length)
  else if first &&& 0x03 = 0 then
    Payload.lengthFault? (.ofHeader first) (bytes.length - 5) (announcedCommands bytes)
  else some (.unsupportedMajor (first &&& 0x03))

/-- The lengths of the frames of each type. -/
def HasLength (bytes : List UInt8) : MessageType → Prop
  | .joinRequest => bytes.length = 23
  | .joinAccept => bytes.length = 17 ∨ bytes.length = 33
  | .unconfirmedDataUp | .unconfirmedDataDown | .confirmedDataUp | .confirmedDataDown =>
    12 + announcedCommands bytes ≤ bytes.length
  | .rejoinRequest | .proprietary => False

/-- The byte strings that are frames. -/
structure Spelled (bytes : List UInt8) : Prop where
  least : 5 ≤ bytes.length
  most : bytes.length ≤ 255
  version : bytes.headD 0 &&& 0x03 = 0
  length : HasLength bytes (.ofHeader (bytes.headD 0))

theorem announcedCommands_eq (first : UInt8) {body : List UInt8} (mic : Octets 4)
    (enough : 7 ≤ body.length) :
    FrameHeader.commandBytes (body.getD 4 0) =
      announcedCommands (first :: (body ++ mic.toList)) := by
  have place : (first :: (body ++ mic.toList)).getD 5 0 = body.getD 4 0 := by
    simp only [List.getD_eq_getElem?_getD, List.getElem?_cons_succ,
      List.getElem?_append_left (by omega : 4 < body.length)]
  rw [announcedCommands, place, FrameHeader.commandBytes, UInt8.toNat_and, UInt8.toNat_mod]
  exact (Nat.and_two_pow_sub_one_eq_mod _ 4).symm

/-- The reader gives exactly the reasons of the grammar. -/
theorem failure?_decode (bytes : List UInt8) : failure? (decode bytes) = fault? bytes := by
  by_cases enough : 5 ≤ bytes.length
  · obtain ⟨first, body, mic, rfl⟩ := exists_frame_bytes enough
    have payload := Payload.failure?_decode (.ofHeader first)
      (fun whole : 7 ≤ body.length => announcedCommands_eq first mic whole)
    simp only [decode_eq, fault?, length_frame_bytes, Nat.add_sub_cancel, List.headD_cons, ← payload,
      failure?_ite, failure?_error, failure?_map]
    rw [if_neg (by omega : ¬ body.length + 5 < 5)]
    rfl
  · have short := Nat.not_le.mp enough
    rw [decode_short short, fault?, if_neg (by omega), if_pos short]
    rfl

theorem hasLength_iff {bytes : List UInt8} (least : 5 ≤ bytes.length) (type : MessageType) :
    HasLength bytes type ↔
      Payload.lengthFault? type (bytes.length - 5) (announcedCommands bytes) = none := by
  cases type
  case rejoinRequest | proprietary => exact ⟨nofun, nofun⟩
  all_goals
    simp only [HasLength, Payload.lengthFault?]
    split_ifs <;> simp <;> omega

theorem fault?_eq_none_iff (bytes : List UInt8) : fault? bytes = none ↔ Spelled bytes := by
  rw [fault?]
  constructor
  · intro sound
    split_ifs at sound with long short version
    have least := Nat.not_lt.mp short
    exact ⟨least, Nat.not_lt.mp long, version, (hasLength_iff least _).mpr sound⟩
  · rintro ⟨least, most, version, length⟩
    rw [if_neg (Nat.not_lt.mpr most), if_neg (Nat.not_lt.mpr least), if_pos version]
    exact (hasLength_iff least _).mp length

/-- One command is announced, and the byte in its place belongs to the code. -/
example : fault? [0x40, 3, 2, 1, 0x26, 0x01, 0, 0, 1, 2, 3, 4] = some (.tooShort 8 7) := by
  decide

end Frame

end LoRaNetwork
