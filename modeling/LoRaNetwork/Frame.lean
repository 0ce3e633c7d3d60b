import LoRaNetwork.Frame.Data
import LoRaNetwork.Frame.Join

/-!
Frames: one byte that announces the kind of message, a payload of that kind, and four bytes of
integrity code. A frame has at most 255 bytes in either direction, which is also what lets the
length of what the code covers fit in one byte.
-/

namespace LoRaNetwork

inductive Payload where
  | joinRequest (request : JoinRequest)
  | joinAccept (accept : JoinAccept)
  | data (payload : DataPayload)
  deriving DecidableEq

namespace Payload

/-- Whether a payload is of the kind that a message type announces. -/
def fits : Payload → MessageType → Bool
  | .joinRequest _, .joinRequest => true
  | .joinAccept _, .joinAccept => true
  | .data _, type => type.isData
  | _, _ => false

def encode : Payload → Except FrameError (List UInt8)
  | .joinRequest request => .ok request.encode
  | .joinAccept accept => accept.encode
  | .data payload => payload.encode

/-- The payload that bytes spell under a message type. -/
def decode (type : MessageType) (body : List UInt8) : Except FrameError Payload :=
  match type with
  | .joinRequest => (JoinRequest.decode body).map .joinRequest
  | .joinAccept => (JoinAccept.decode body).map .joinAccept
  | .unconfirmedDataUp | .unconfirmedDataDown | .confirmedDataUp | .confirmedDataDown =>
    (DataPayload.decode body).map .data
  | .rejoinRequest | .proprietary => .error (.unsupported type)

end Payload

/-- A frame, as it is sent over the air. -/
structure Frame where
  type : MessageType
  payload : Payload
  /-- The integrity code. -/
  mic : Octets 4
  deriving DecidableEq

namespace Frame

def micSize : Nat := 4

def maxSize : Nat := 255

/-- A frame whose integrity code is still zero. -/
def unsigned (type : MessageType) (payload : Payload) : Frame :=
  ⟨type, payload, .zero 4⟩

def data? (frame : Frame) : Option DataPayload :=
  match frame.payload with
  | .data payload => some payload
  | .joinRequest _ | .joinAccept _ => none

/-- A data frame with another counter; no other frame has one. -/
def withCounter (frame : Frame) (counter : UInt32) : Frame :=
  match frame.payload with
  | .data payload =>
    { frame with
      payload := .data { payload with header := { payload.header with counter := counter } } }
  | .joinRequest _ | .joinAccept _ => frame

/-- All bytes before the integrity code. -/
def content (frame : Frame) : Except FrameError (List UInt8) :=
  if frame.payload.fits frame.type then do
    let body ← frame.payload.encode
    let bytes := frame.type.header :: body
    if maxSize < bytes.length + micSize then .error (.tooLong maxSize (bytes.length + micSize))
    else .ok bytes
  else .error (.payloadMismatch frame.type)

def encode (frame : Frame) : Except FrameError (List UInt8) := do
  let bytes ← frame.content
  .ok (bytes ++ frame.mic.toList)

/-- The frame that bytes spell. Length and version come first, then what the kind asks for. -/
def decode (bytes : List UInt8) : Except FrameError Frame :=
  if maxSize < bytes.length then .error (.tooLong maxSize bytes.length)
  else match bytes with
    | [] => .error (.tooShort (1 + micSize) 0)
    | first :: rest =>
      if enough : micSize ≤ rest.length then
        if first &&& 0x03 = 0 then do
          let type := MessageType.ofHeader first
          let payload ← Payload.decode type (rest.take (rest.length - micSize))
          .ok ⟨type, payload,
            Octets.slice rest (rest.length - micSize) 4 (by simp only [micSize] at *; omega)⟩
        else .error (.unsupportedMajor (first &&& 0x03))
      else .error (.tooShort (1 + micSize) bytes.length)

end Frame

end LoRaNetwork
