import LoRaNetwork.Cipher.Cmac
import LoRaNetwork.Frame

/-!
The integrity code of data frames. It authenticates all bytes of the frame before it together with
what the frame leaves out: the way the message travels and the whole counter. These make up a block
in front of the message, so that the code is a plain function of a key and one byte string.
-/

namespace LoRaNetwork

def Direction.code : Direction → UInt8
  | .up => 0
  | .down => 1

/-- The block in front of a message of `length` bytes. -/
def integrityBlock (address : Address) (counter : UInt32) (direction : Direction) (length : Nat) :
    List UInt8 :=
  [0x49, 0, 0, 0, 0, direction.code] ++ littleEndian 4 address.word ++ littleEndian 4 counter ++
    [0, UInt8.ofNat length]

/-- The byte string that the integrity code authenticates. -/
def integrityInput (message : List UInt8) (address : Address) (counter : UInt32)
    (direction : Direction) : List UInt8 :=
  integrityBlock address counter direction message.length ++ message

/-- The first four bytes of the authentication code of a byte string. -/
def integrityCode (key : Key) (input : List UInt8) : Octets 4 :=
  let code := Cipher.cmac key.octets input
  .slice code.toList 0 4 (by rw [code.length_toList]; omega)

namespace Frame

/-- The byte string that the integrity code of a frame authenticates. Only data frames have one. -/
def authenticated (frame : Frame) : Except FrameError (List UInt8) :=
  match frame.data? with
  | none => .error .notData
  | some payload => do
    let message ← frame.content
    .ok (integrityInput message payload.header.address payload.header.counter frame.type.direction)

/-- The integrity code that a frame ought to have under a key. -/
def expectedMic (frame : Frame) (key : Key) : Except FrameError (Octets 4) :=
  frame.authenticated.map (integrityCode key)

def sign (frame : Frame) (key : Key) : Except FrameError Frame :=
  (frame.expectedMic key).map fun mic => { frame with mic := mic }

def verify (frame : Frame) (key : Key) : Except FrameError Bool :=
  (frame.expectedMic key).map (· == frame.mic)

end Frame

end LoRaNetwork
