/-!
The first byte of a frame. Its three leading bits say what kind of message the frame carries and
its two last bits say by which major version of the protocol to read it; the bits between are
reserved and ignored.
-/

namespace LoRaNetwork

inductive MessageType where
  | joinRequest
  | joinAccept
  | unconfirmedDataUp
  | unconfirmedDataDown
  | confirmedDataUp
  | confirmedDataDown
  | rejoinRequest
  | proprietary
  deriving DecidableEq, Repr

inductive Direction where
  /-- From a device to the network. -/
  | up
  /-- From the network to a device. -/
  | down
  deriving DecidableEq, Repr

namespace MessageType

/-- Every kind of message, in the order of its code. -/
def all : List MessageType :=
  [joinRequest, joinAccept, unconfirmedDataUp, unconfirmedDataDown, confirmedDataUp,
    confirmedDataDown, rejoinRequest, proprietary]

def name : MessageType → String
  | joinRequest => "JoinRequest"
  | joinAccept => "JoinAccept"
  | unconfirmedDataUp => "UnconfirmedDataUp"
  | unconfirmedDataDown => "UnconfirmedDataDown"
  | confirmedDataUp => "ConfirmedDataUp"
  | confirmedDataDown => "ConfirmedDataDown"
  | rejoinRequest => "RejoinRequest"
  | proprietary => "Proprietary"

def ofName? (name : String) : Option MessageType :=
  all.find? (·.name == name)

/-- The first byte of a frame of this kind. The code of the version is zero. -/
def header : MessageType → UInt8
  | joinRequest => 0x00
  | joinAccept => 0x20
  | unconfirmedDataUp => 0x40
  | unconfirmedDataDown => 0x60
  | confirmedDataUp => 0x80
  | confirmedDataDown => 0xA0
  | rejoinRequest => 0xC0
  | proprietary => 0xE0

/-- The kind of message that a first byte announces. -/
def ofHeader (byte : UInt8) : MessageType :=
  match (byte >>> 5).toNat with
  | 0 => joinRequest
  | 1 => joinAccept
  | 2 => unconfirmedDataUp
  | 3 => unconfirmedDataDown
  | 4 => confirmedDataUp
  | 5 => confirmedDataDown
  | 6 => rejoinRequest
  | _ => proprietary

@[simp]
theorem ofHeader_header (type : MessageType) : ofHeader type.header = type := by
  cases type <;> rfl

def isUplink : MessageType → Bool
  | joinRequest | unconfirmedDataUp | confirmedDataUp | rejoinRequest => true
  | joinAccept | unconfirmedDataDown | confirmedDataDown | proprietary => false

/-- Whether messages of this kind carry a frame header and application data. -/
def isData : MessageType → Bool
  | unconfirmedDataUp | unconfirmedDataDown | confirmedDataUp | confirmedDataDown => true
  | joinRequest | joinAccept | rejoinRequest | proprietary => false

def direction (type : MessageType) : Direction :=
  if type.isUplink then .up else .down

end MessageType

end LoRaNetwork
