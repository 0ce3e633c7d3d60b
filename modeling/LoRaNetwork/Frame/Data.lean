import LoRaNetwork.Address
import LoRaNetwork.Frame.Error

/-!
The payload of a data frame: a header with the device's address, four flags, a counter and up to
fifteen bytes of commands, then a port and application data. The counter has 32 bits but a frame
only carries the lower half. A port is told from its absence by whether any byte is left.
-/

namespace LoRaNetwork

structure FrameControl where
  /-- The network may adapt the data rate. -/
  adaptiveRate : Bool
  /-- The device asks for a sign that the network still hears it. -/
  adaptiveRateRequest : Bool
  /-- The last confirmed frame was received. -/
  acknowledge : Bool
  /-- More is waiting to be sent. -/
  pending : Bool
  deriving DecidableEq

namespace FrameControl

def none : FrameControl := ⟨false, false, false, false⟩

/-- The flags in the upper half of a byte, the number of command bytes in the lower. -/
def encode (control : FrameControl) (commandBytes : Nat) : UInt8 :=
  (if control.adaptiveRate then 0x80 else 0) |||
    (if control.adaptiveRateRequest then 0x40 else 0) |||
    (if control.acknowledge then 0x20 else 0) ||| (if control.pending then 0x10 else 0) |||
    (UInt8.ofNat commandBytes &&& 0x0F)

def decode (byte : UInt8) : FrameControl where
  adaptiveRate := byte &&& 0x80 != 0
  adaptiveRateRequest := byte &&& 0x40 != 0
  acknowledge := byte &&& 0x20 != 0
  pending := byte &&& 0x10 != 0

end FrameControl

/-- Commands that ride in a frame header. -/
structure FrameOptions where
  bytes : List UInt8
  length_le : bytes.length ≤ 15
  deriving DecidableEq

namespace FrameOptions

def empty : FrameOptions := ⟨[], by decide⟩

/-- At most fifteen bytes. -/
def ofList? (bytes : List UInt8) : Option FrameOptions :=
  if short : bytes.length ≤ 15 then some ⟨bytes, short⟩ else none

end FrameOptions

structure FrameHeader where
  address : Address
  control : FrameControl
  /-- The whole counter. -/
  counter : UInt32
  options : FrameOptions
  deriving DecidableEq

namespace FrameHeader

/-- The length of a header without commands. -/
def size : Nat := 7

/-- Only the lower half of the counter is written. -/
def encode (header : FrameHeader) : List UInt8 :=
  littleEndian 4 header.address.word ++ [header.control.encode header.options.bytes.length] ++
    littleEndian 2 header.counter ++ header.options.bytes

/-- The number of command bytes that a header announces. -/
def commandBytes (control : UInt8) : Nat :=
  (control % 16).toNat

theorem commandBytes_le (control : UInt8) : commandBytes control ≤ 15 := by
  have : (16 : UInt8).toNat = 16 := rfl
  rw [commandBytes, UInt8.toNat_mod, this]
  omega

/-- The header and the bytes after it. -/
def decode (body : List UInt8) : Except FrameError (FrameHeader × List UInt8) :=
  if enough : size ≤ body.length then
    let fixed := Octets.slice body 0 7 (by simp only [size] at enough; omega)
    let count := commandBytes fixed[4]
    if body.length < size + count then .error (.tooShort (size + count) body.length)
    else
      .ok ({
        address := ⟨ofLittleEndian
          (Octets.slice body 0 4 (by simp only [size] at enough; omega)).toList⟩
        control := .decode fixed[4]
        counter := ofLittleEndian
          (Octets.slice body 5 2 (by simp only [size] at enough; omega)).toList
        options := ⟨(body.drop size).take count, by
          rw [List.length_take]
          exact Nat.le_trans (Nat.min_le_left _ _) (commandBytes_le _)⟩ },
        body.drop (size + count))
  else .error (.tooShort size body.length)

end FrameHeader

/-- The payload of a data frame. The application data stays encrypted here. -/
structure DataPayload where
  header : FrameHeader
  port : Option UInt8
  content : List UInt8
  deriving DecidableEq

namespace DataPayload

def ofHeader (header : FrameHeader) : DataPayload := ⟨header, none, []⟩

/-- Application data has to follow a port. -/
def encode (payload : DataPayload) : Except FrameError (List UInt8) :=
  match payload.port with
  | some port => .ok (payload.header.encode ++ port :: payload.content)
  | none =>
    if payload.content = [] then .ok payload.header.encode else .error .missingPort

/-- Any byte after the header is a port, and all that follow are application data. -/
def decode (body : List UInt8) : Except FrameError DataPayload := do
  let (header, rest) ← FrameHeader.decode body
  match rest with
  | [] => .ok ⟨header, none, []⟩
  | port :: content => .ok ⟨header, some port, content⟩

end DataPayload

end LoRaNetwork
