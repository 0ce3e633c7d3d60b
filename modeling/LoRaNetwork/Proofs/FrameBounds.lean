import LoRaNetwork.Proofs.FrameRoundTrip

/-! Reading frames within their bytes. The readers are written once more as ones that name each place
that they look at, and end with an event of its own where a place lies beyond the bytes they have.
That event never comes: on every byte string they do what the readers do that they stand for. So
all lengths are checked before anything is read that depends on them. -/
namespace LoRaNetwork

/-- How a reader of places ends without a result. -/
inductive Stop where
  /-- It looked at a place that is not there, or had more bytes than there is room for. -/
  | outside
  | refused (cause : FrameError)
  deriving DecidableEq

namespace Bounded

def refuse {α : Type} (cause : FrameError) : Except Stop α :=
  .error (.refused cause)

/-- How many bytes are left without so many of them. -/
def without (part whole : Nat) : Except Stop Nat :=
  if part ≤ whole then .ok (whole - part) else .error .outside

def byte (bytes : List UInt8) (place : Nat) : Except Stop UInt8 :=
  match bytes[place]? with
  | some byte => .ok byte
  | none => .error .outside

/-- The bytes from one place up to another. -/
def cut (bytes : List UInt8) (start stop : Nat) : Except Stop (List UInt8) :=
  if start ≤ stop ∧ stop ≤ bytes.length then .ok ((bytes.drop start).take (stop - start))
  else .error .outside

/-- So many bytes from a place on. -/
def octets (n : Nat) (bytes : List UInt8) (start : Nat) : Except Stop (Octets n) :=
  if inside : start + n ≤ bytes.length then .ok (.slice bytes start n inside)
  else .error .outside

def joinRequest (body : List UInt8) : Except Stop JoinRequest :=
  if body.length < JoinRequest.size then refuse (.tooShort JoinRequest.size body.length)
  else if JoinRequest.size < body.length then refuse (.invalidLength JoinRequest.size body.length)
  else do
    let appEui ← octets 8 body 0
    let devEui ← octets 8 body 8
    let nonce ← octets 2 body 16
    .ok ⟨⟨appEui.reverse⟩, ⟨devEui.reverse⟩, nonce.reverse⟩

def channelList (bytes : List UInt8) : Except Stop ChannelList :=
  if bytes.length = ChannelList.size then do
    let first ← octets 3 bytes 0
    let second ← octets 3 bytes 3
    let third ← octets 3 bytes 6
    let fourth ← octets 3 bytes 9
    let fifth ← octets 3 bytes 12
    .ok ⟨[first, second, third, fourth, fifth].map fun group => ofLittleEndian group.toList * 100,
      rfl⟩
  else refuse (.invalidChannelList bytes.length)

/-- The channels are all bytes after those of fixed layout, if there are any. -/
def channelList? (body : List UInt8) : Except Stop (Option ChannelList) := do
  let left ← without JoinAccept.size body.length
  if left = 0 then .ok none
  else do
    let bytes ← cut body JoinAccept.size body.length
    (channelList bytes).map some

def joinAccept (body : List UInt8) : Except Stop JoinAccept :=
  if body.length < JoinAccept.size then refuse (.tooShort JoinAccept.size body.length)
  else do
    let channels ← channelList? body
    let nonce ← octets 3 body 0
    let netId ← octets 3 body 3
    let address ← octets 4 body 6
    let settings ← byte body 10
    let delay ← byte body 11
    .ok {
      nonce := nonce.reverse
      netId := ⟨netId.reverse⟩
      address := ⟨ofLittleEndian address.toList⟩
      settings := .decode settings
      delay := delay &&& 0x0F
      channels := channels }

/-- The commands of a data frame, which end at some place, and the bytes after them. -/
def options (stop : Nat) (body : List UInt8) : Except Stop (FrameOptions × List UInt8) := do
  let commands ← cut body FrameHeader.size stop
  let rest ← cut body stop body.length
  match FrameOptions.ofList? commands with
  | none => .error .outside
  | some options => .ok (options, rest)

/-- The header of a data frame and the bytes after it. -/
def header (body : List UInt8) : Except Stop (FrameHeader × List UInt8) :=
  if body.length < FrameHeader.size then refuse (.tooShort FrameHeader.size body.length)
  else do
    let address ← octets 4 body 0
    let control ← byte body 4
    let counter ← octets 2 body 5
    let stop := FrameHeader.size + FrameHeader.commandBytes control
    if body.length < stop then refuse (.tooShort stop body.length)
    else do
      let (options, rest) ← options stop body
      .ok (⟨⟨ofLittleEndian address.toList⟩, .decode control, ofLittleEndian counter.toList,
        options⟩, rest)

def data (body : List UInt8) : Except Stop DataPayload := do
  let (header, rest) ← header body
  match rest with
  | [] => .ok ⟨header, none, []⟩
  | port :: content => .ok ⟨header, some port, content⟩

def payload (type : MessageType) (body : List UInt8) : Except Stop Payload :=
  match type with
  | .joinRequest => (joinRequest body).map .joinRequest
  | .joinAccept => (joinAccept body).map .joinAccept
  | .unconfirmedDataUp | .unconfirmedDataDown | .confirmedDataUp | .confirmedDataDown =>
    (data body).map .data
  | .rejoinRequest | .proprietary => refuse (.unsupported type)

def frame (bytes : List UInt8) : Except Stop Frame :=
  if Frame.maxSize < bytes.length then refuse (.tooLong Frame.maxSize bytes.length)
  else if bytes.length < 1 + Frame.micSize then refuse (.tooShort (1 + Frame.micSize) bytes.length)
  else do
    let first ← byte bytes 0
    if first &&& 0x03 = 0 then do
      let stop ← without Frame.micSize bytes.length
      let body ← cut bytes 1 stop
      let mic ← octets 4 bytes stop
      let payload ← payload (.ofHeader first) body
      .ok ⟨.ofHeader first, payload, mic⟩
    else refuse (.unsupportedMajor (first &&& 0x03))

/-! ## Every place is there -/

section Places

variable {n start stop : Nat} {bytes : List UInt8}

end Places

end Bounded

end LoRaNetwork
