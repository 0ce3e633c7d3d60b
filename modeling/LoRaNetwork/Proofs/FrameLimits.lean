import LoRaNetwork.Proofs.FrameSigning
import Mathlib.Tactic.SplitIfs

/-! What cannot be sent. A frame is refused for one reason, the first of a fixed order, and every
other frame is written with a length that its parts determine. Signing and checking a code ask for
the same bytes as writing, so they refuse the same data frames for the same reasons; in particular
the length of what they authenticate always fits in one byte. -/
namespace LoRaNetwork

theorem DownlinkSettings.failure?_encode (settings : DownlinkSettings) :
    failure? settings.encode =
      if 15 < settings.rx2DataRate.toNat then
        some (.fieldOutOfRange .rx2DataRate settings.rx2DataRate.toUInt32)
      else if 7 < settings.rx1DataRateOffset.toNat then
        some (.fieldOutOfRange .rx1DataRateOffset settings.rx1DataRateOffset.toUInt32)
      else none := by
  rw [encode, failure?_ite, failure?_ite]
  rfl

namespace ChannelList

/-- The first frequency for which three bytes are too few is named with its own value. -/
theorem failure?_encodeFrequencies (frequencies : List UInt32) :
    failure? (encodeFrequencies frequencies) =
      (frequencies.find? fun frequency => 0xFFFFFF < frequency.toNat / 100).map
        (.fieldOutOfRange .channelList) := by
  induction frequencies with
  | nil => rfl
  | cons frequency rest ih =>
    have inNumbers : 0xFFFFFF < frequency / 100 ↔ 0xFFFFFF < frequency.toNat / 100 := by
      rw [UInt32.lt_iff_toNat_lt, UInt32.toNat_div]
      rfl
    rw [encodeFrequencies, failure?_ite, failure?_bind_total fun _ => rfl, ih, List.find?_cons]
    by_cases large : 0xFFFFFF < frequency.toNat / 100
    · simp [inNumbers, large]
    · simp [inNumbers, large]

theorem failure?_encode? (channels : Option ChannelList) :
    failure? (encode? channels) =
      ((channels.elim [] frequencies).find? fun frequency => 0xFFFFFF < frequency.toNat / 100).map
        (.fieldOutOfRange .channelList) := by
  cases channels with
  | none => rfl
  | some channels =>
    exact (failure?_bind_total fun _ => rfl).trans (failure?_encodeFrequencies _)

theorem length_of_encode? {channels : Option ChannelList} {bytes : List UInt8}
    (wrote : encode? channels = .ok bytes) :
    bytes.length = if channels.isSome then 16 else 0 := by
  cases channels with
  | none => cases wrote; rfl
  | some channels => exact length_of_encode wrote

end ChannelList

namespace JoinAccept

/-- The first value of an acceptance for which a frame has too few bits. -/
def misfit? (accept : JoinAccept) : Option FrameError :=
  if 15 < accept.delay.toNat then some (.fieldOutOfRange .rxDelay accept.delay.toUInt32)
  else if 15 < accept.settings.rx2DataRate.toNat then
    some (.fieldOutOfRange .rx2DataRate accept.settings.rx2DataRate.toUInt32)
  else if 7 < accept.settings.rx1DataRateOffset.toNat then
    some (.fieldOutOfRange .rx1DataRateOffset accept.settings.rx1DataRateOffset.toUInt32)
  else ((accept.channels.elim [] ChannelList.frequencies).find? fun frequency =>
    0xFFFFFF < frequency.toNat / 100).map (.fieldOutOfRange .channelList)

theorem failure?_encode (accept : JoinAccept) : failure? accept.encode = accept.misfit? := by
  have channels : ∀ settings, failure? (do
      let channels ← ChannelList.encode? accept.channels
      Except.ok (accept.nonce.reverse.toList ++ accept.netId.octets.reverse.toList ++
        littleEndian 4 accept.address.word ++ [settings, accept.delay] ++ channels)) =
      failure? (ChannelList.encode? accept.channels) :=
    fun _ => failure?_bind_total fun _ => rfl
  rw [encode, failure?_ite, failure?_bind fun settings _ => channels settings,
    DownlinkSettings.failure?_encode, ChannelList.failure?_encode?, misfit?]
  split_ifs <;> first | rfl | contradiction

theorem length_of_encode {accept : JoinAccept} {body : List UInt8}
    (wrote : accept.encode = .ok body) :
    body.length = if accept.channels.isSome then 28 else 12 := by
  obtain ⟨_, settings, channels, _, channelsWrote, rfl⟩ := encode_eq_ok_iff.mp wrote
  have length := ChannelList.length_of_encode? channelsWrote
  simp only [List.length_append, List.length_cons, Octets.length_toList, length_littleEndian,
    length]
  split <;> rfl

end JoinAccept

namespace DataPayload

theorem failure?_encode (payload : DataPayload) :
    failure? payload.encode =
      if payload.port = none ∧ payload.content ≠ [] then some .missingPort else none := by
  obtain ⟨header, port, content⟩ := payload
  cases port with
  | some port => rfl
  | none =>
    rw [encode, failure?_ite]
    simp

theorem length_of_encode {payload : DataPayload} {body : List UInt8}
    (wrote : payload.encode = .ok body) :
    body.length = 7 + payload.header.options.bytes.length +
      if payload.port.isSome then 1 + payload.content.length else 0 := by
  obtain ⟨bare, rfl⟩ := encode_eq_ok_iff.mp wrote
  rw [List.length_append, FrameHeader.length_encode, FrameHeader.size, List.length_append]
  cases found : payload.port with
  | none => simp [bare found]
  | some port => simp

end DataPayload

namespace Payload

/-- How long a frame with this payload is. -/
def wireLength : Payload → Nat
  | .joinRequest _ => 23
  | .joinAccept accept => if accept.channels.isSome then 33 else 17
  | .data payload => 12 + payload.header.options.bytes.length +
      if payload.port.isSome then 1 + payload.content.length else 0

/-- Five bytes of a frame are not its payload's. -/
theorem length_of_encode {payload : Payload} {body : List UInt8}
    (wrote : payload.encode = .ok body) : body.length + 5 = payload.wireLength := by
  cases payload with
  | joinRequest request =>
    cases wrote
    rw [request.length_encode]
    rfl
  | joinAccept accept =>
    rw [JoinAccept.length_of_encode wrote, wireLength]
    split <;> rfl
  | data payload =>
    rw [DataPayload.length_of_encode wrote, wireLength]
    omega

end Payload

namespace Frame

/-- Why a frame has no bytes: its payload is of another kind than its type announces, or else a part
of the payload does not fit, or else all of it does not. -/
def refusal? (frame : Frame) : Option FrameError :=
  if frame.payload.fits frame.type then
    match frame.payload with
    | .joinRequest _ => none
    | .joinAccept accept => accept.misfit?
    | .data payload =>
      if payload.port = none ∧ payload.content ≠ [] then some .missingPort
      else if 255 < frame.payload.wireLength then some (.tooLong 255 frame.payload.wireLength)
      else none
  else some (.payloadMismatch frame.type)

theorem failure?_content (frame : Frame) : failure? frame.content = frame.refusal? := by
  have room : ∀ body, frame.payload.encode = .ok body →
      failure? (if maxSize < (frame.type.header :: body).length + micSize then
          Except.error (FrameError.tooLong maxSize ((frame.type.header :: body).length + micSize))
        else .ok (frame.type.header :: body)) =
      if 255 < frame.payload.wireLength then some (.tooLong 255 frame.payload.wireLength)
      else none := by
    intro body wrote
    rw [failure?_ite, ← Payload.length_of_encode wrote]
    rfl
  rw [content, failure?_ite, failure?_bind room, refusal?]
  by_cases fits : frame.payload.fits frame.type = true
  · rw [if_pos fits, if_pos fits]
    cases frame.payload with
    | joinRequest request => rfl
    | joinAccept accept =>
      have short : ¬ 255 < (Payload.joinAccept accept).wireLength := by
        rw [Payload.wireLength]
        split <;> omega
      rw [if_neg short, Option.or_none]
      exact accept.failure?_encode
    | data payload =>
      change (failure? payload.encode).or _ = if payload.port = none ∧ payload.content ≠ [] then _
        else _
      rw [payload.failure?_encode]
      split_ifs <;> rfl
  · rw [if_neg fits, if_neg fits]
    rfl

theorem failure?_encode (frame : Frame) : failure? frame.encode = frame.refusal? := by
  rw [encode, failure?_bind_total fun _ => rfl, failure?_content]

theorem length_of_encode {frame : Frame} {bytes : List UInt8} (wrote : frame.encode = .ok bytes) :
    bytes.length = frame.payload.wireLength := by
  obtain ⟨message, content, rfl⟩ := encode_eq_ok_iff.mp wrote
  obtain ⟨_, body, payload, rfl, _⟩ := content_eq_ok_iff.mp content
  rw [← Payload.length_of_encode payload, List.length_append, frame.mic.length_toList]
  rfl

/-- There is something to authenticate in every data frame that can be written. -/
theorem failure?_authenticated (frame : Frame) :
    failure? frame.authenticated =
      if frame.data?.isSome then failure? frame.encode else some .notData := by
  rw [authenticated, failure?_encode, ← failure?_content]
  cases frame.data? with
  | none => rfl
  | some data => exact failure?_bind_total fun _ => rfl

/-- Signing a frame where it is: the code is computed, then written over the old one. -/
def signInPlace (key : Key) : ExceptT FrameError (StateM Frame) Unit := do
  let frame ← get
  let mic ← ofExcept (frame.expectedMic key)
  modify fun frame => { frame with mic := mic }

theorem run_signInPlace (frame : Frame) (key : Key) :
    (signInPlace key).run.run frame =
      match frame.sign key with
      | .error cause => (.error cause, frame)
      | .ok signed => (.ok (), signed) := by
  have afterGet : (signInPlace key).run.run frame =
      (ofExcept (frame.expectedMic key) >>= fun mic => modify fun frame =>
        { frame with mic := mic } : ExceptT FrameError (StateM Frame) Unit).run.run frame := rfl
  rw [afterGet, sign]
  cases frame.expectedMic key <;> rfl

/-- Writing refuses a frame for the first reason of a fixed order, or gives exactly as many bytes as
its parts ask for. Signing and checking refuse frames without data, and of the others the same ones
as writing for the same reasons. A refused frame is not touched by signing, and a signed one passes
the check. -/
theorem encode_sign_verify_refuse_alike (frame : Frame) :
    (match frame.refusal? with
      | some cause => frame.encode = .error cause
      | none => ∃ bytes, frame.encode = .ok bytes ∧ bytes.length = frame.payload.wireLength) ∧
    ∀ key : Key,
      failure? (frame.sign key) =
        (if frame.data?.isSome then failure? frame.encode else some .notData) ∧
      failure? (frame.verify key) =
        (if frame.data?.isSome then failure? frame.encode else some .notData) ∧
      match (signInPlace key).run.run frame with
      | (.error cause, kept) => frame.sign key = .error cause ∧ kept = frame
      | (.ok _, signed) => frame.sign key = .ok signed ∧ signed.verify key = .ok true := by
  constructor
  · rw [← failure?_encode]
    cases wrote : frame.encode with
    | error cause => rfl
    | ok bytes => exact ⟨bytes, rfl, length_of_encode wrote⟩
  · intro key
    refine ⟨?_, ?_, ?_⟩
    · rw [sign, expectedMic, failure?_map, failure?_map, failure?_authenticated]
    · rw [verify, expectedMic, failure?_map, failure?_map, failure?_authenticated]
    · rw [run_signInPlace]
      cases signs : frame.sign key with
      | error cause => exact ⟨rfl, rfl⟩
      | ok signed => exact ⟨rfl, verify_of_sign signs⟩

/-- One byte of application data too many. -/
example : refusal? (unsigned .unconfirmedDataUp (.data ⟨⟨⟨0x26010203⟩, .none, 7, .empty⟩, some 1,
    List.replicate 243 0⟩)) = some (.tooLong 255 256) := by
  decide +kernel

end Frame

end LoRaNetwork
