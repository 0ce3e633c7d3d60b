import LoRaNetwork.Frame.MessageType

/-!
What can be wrong with a frame: on the way in the bytes do not have the length or version that their
kind asks for, on the way out a value does not fit the place that the frame has for it.
-/

namespace LoRaNetwork

/-- A value with less room in a frame than its type allows. -/
inductive FrameField where
  | rx2DataRate
  | rx1DataRateOffset
  | rxDelay
  | channelList
  deriving DecidableEq, Repr

def FrameField.name : FrameField → String
  | .rx2DataRate => "RX2DataRate"
  | .rx1DataRateOffset => "RX1DROffset"
  | .rxDelay => "RXDelay"
  | .channelList => "CFList"

/-- Why bytes are no frame, or why a frame has no bytes. -/
inductive FrameError where
  /-- Fewer bytes than the part being read needs. -/
  | tooShort (needed actual : Nat)
  /-- More bytes than a payload of fixed length has. -/
  | invalidLength (expected actual : Nat)
  /-- More bytes than any frame has. -/
  | tooLong (most actual : Nat)
  /-- A list of channels that does not have its one length. -/
  | invalidChannelList (actual : Nat)
  /-- A value that does not fit its field. -/
  | fieldOutOfRange (field : FrameField) (value : UInt32)
  | missingPort
  | unsupportedMajor (version : UInt8)
  | unsupported (type : MessageType)
  /-- A payload of another kind than the header announces. -/
  | payloadMismatch (type : MessageType)
  /-- Integrity is only computed for data frames. -/
  | notData
  deriving DecidableEq, Repr

def FrameError.message : FrameError → String
  | .tooShort needed actual =>
    "frame too short: need " ++ toString needed ++ " bytes, got " ++ toString actual
  | .invalidLength expected actual =>
    "invalid payload length: expected " ++ toString expected ++ " bytes, got " ++ toString actual
  | .tooLong most actual =>
    "frame too long: at most " ++ toString most ++ " bytes, got " ++ toString actual
  | .invalidChannelList actual => "invalid CFList length " ++ toString actual
  | .fieldOutOfRange field value => field.name ++ " out of range: " ++ toString value.toNat
  | .missingPort => "FRMPayload requires an FPort"
  | .unsupportedMajor version => "unsupported major version " ++ toString version.toNat
  | .unsupported type => "unsupported message type " ++ type.name
  | .payloadMismatch type => "message type " ++ type.name ++ " does not match payload"
  | .notData => "not a data payload"

end LoRaNetwork
