import LoRaNetwork.Frame.Error
import LoRaNetwork.Identifier

/-!
Why a request fails. Each failure is held as its cause; the words for it are in `Error.message`.
-/

namespace LoRaNetwork

open Text

/-- What an argument at fault belongs to. -/
inductive Subject where
  | eui
  | address
  | addressPrefix
  | devicesRequest
  | activation
  | uplink
  | downlink
  deriving DecidableEq, Repr

def Subject.name : Subject → String
  | .eui => "EUI64"
  | .address => "DevAddr"
  | .addressPrefix => "Prefix"
  | .devicesRequest => "DevicesRequest"
  | .activation => "Activation"
  | .uplink => "Uplink"
  | .downlink => "Downlink"

/-- What is wrong with an argument. -/
inductive Fault where
  | notHex (cause : HexError)
  | missingLength (text : String)
  /-- The length of a prefix is no number from 0 to 255. -/
  | invalidLength (text : String)
  /-- The length of a prefix is above 32. -/
  | lengthOver
  /-- A prefix to be registered does not reach over the bits that name the network. -/
  | lengthUnder
  /-- A prefix to be registered belongs to another network. -/
  | foreignNetwork
  /-- A request for devices names no address. -/
  | missingAddress
  | missingIdentity
  /-- A request to join lacks the settings that the answer is made of. -/
  | missingSettings
  | missingTemplate
  | missingMetadata
  | missingProtocolMetadata
  /-- An accepted activation does not name the whole session. -/
  | missingSession
  | undecodable (cause : FrameError)
  | noData
  /-- The device belongs to another application than the message says. -/
  | foreignDevice
  deriving DecidableEq, Repr

def Fault.message : Fault → String
  | .notHex cause => cause.message
  | .missingLength text => "missing length in " ++ quote text
  | .invalidLength text => "invalid length in " ++ quote text
  | .lengthOver => "length exceeds 32 bits"
  | .lengthUnder => "invalid length"
  | .foreignNetwork => "invalid netID"
  | .missingAddress => "missing DevAddr"
  | .missingIdentity => "missing AppEUI or DevEUI"
  | .missingSettings => "missing LoRaWAN metadata"
  | .missingTemplate => "missing response template"
  | .missingMetadata => "missing ActivationMetadata"
  | .missingProtocolMetadata => "missing LoRaWAN ActivationMetadata"
  | .missingSession => "missing AppEUI, DevEUI, DevAddr or NwkSKey"
  | .undecodable cause => "could not decode payload: " ++ cause.message
  | .noData => "does not contain a MAC payload"
  | .foreignDevice => "AppID and DevID do not match AppEUI and DevEUI"

/-- What was looked for in vain. -/
inductive Missing where
  | device (identity : Identity)
  | addressPrefix (usages : List String)
  deriving DecidableEq

def Missing.text : Missing → String
  | .device identity => "Device " ++ identity.text
  | .addressPrefix usages => "DevAddr prefix with constraints " ++ quoteList usages

/-- Why a configuration cannot be loaded. -/
inductive ConfigError where
  | unreadable
  | notText
  | malformed
  | unexpectedForm
  deriving DecidableEq, Repr

def ConfigError.message : ConfigError → String
  | .unreadable => "the file cannot be read"
  | .notText => "the file is not UTF-8 text"
  | .malformed => "the document is malformed"
  | .unexpectedForm => "the document is no configuration"

/-- Why a request fails. -/
inductive Error where
  | invalidArgument (subject : Subject) (fault : Fault)
  | notFound (missing : Missing)
  | frame (cause : FrameError)
  /-- The store of devices failed, in its own words. -/
  | store (reason : String)
  | config (cause : ConfigError)
  deriving DecidableEq

def Error.message : Error → String
  | .invalidArgument subject fault => "invalid argument " ++ subject.name ++ ": " ++ fault.message
  | .notFound missing => missing.text ++ " not found"
  | .frame cause => "frame error: " ++ cause.message
  | .store reason => "device store error: " ++ reason
  | .config cause => "configuration error: " ++ cause.message

end LoRaNetwork
