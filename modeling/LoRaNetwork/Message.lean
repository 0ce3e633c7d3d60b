import LoRaNetwork.Address

/-!
The messages that the server exchanges with its neighbours. What a well-formed message always
carries is optional here all the same, and it is the server that refuses a message without it.
-/

namespace LoRaNetwork

/-- Asks for the devices that may have sent an uplink. -/
structure DevicesRequest where
  address : Option Address
  counter : UInt32
  deriving DecidableEq

/-- What is told about a device that may have sent an uplink. -/
structure DeviceInfo where
  identity : Identity
  appId : String
  devId : String
  sessionKey : Key
  counterUp : UInt32
  wideCounter : Bool
  uncheckedCounter : Bool
  deriving DecidableEq

/-- The devices that may have sent an uplink. -/
structure DevicesResponse where
  results : List DeviceInfo
  deriving DecidableEq

/-- How a message is or was sent over the air. -/
structure Transmission where
  counter : UInt32
  dataRate : String
  codingRate : String
  deriving DecidableEq

/-- The part of a message that belongs to one protocol, if it is this one. -/
structure ProtocolPart (α : Type) where
  lorawan : Option α
  deriving DecidableEq

/-- What an activation consists of. -/
structure ActivationSettings where
  appEui : Option Eui
  devEui : Option Eui
  /-- Given while the activation is prepared. -/
  address : Option Address
  /-- Derived once the join is accepted. -/
  sessionKey : Option Key
  rx1DataRateOffset : UInt32
  rx2DataRate : UInt32
  rxDelay : UInt32
  /-- Frequencies of further channels, in hertz. -/
  channels : List UInt32
  deriving DecidableEq

/-- The way a downlink is to take. -/
structure DownlinkOption where
  identifier : String
  gatewayId : String
  protocol : Option (ProtocolPart Transmission)
  deriving DecidableEq

/-- A frame on its way to a device. -/
structure DownlinkMessage where
  payload : List UInt8
  appEui : Option Eui
  devEui : Option Eui
  appId : String
  devId : String
  option : Option DownlinkOption
  deriving DecidableEq

/-- A frame that came from a device. -/
structure UplinkMessage where
  payload : List UInt8
  appEui : Option Eui
  devEui : Option Eui
  appId : String
  devId : String
  metadata : Option (ProtocolPart Transmission)
  /-- A downlink to fill in, when the device can receive one. -/
  template : Option DownlinkMessage
  deriving DecidableEq

/-- A device asks to join. -/
structure ActivationRequest where
  payload : List UInt8
  appEui : Option Eui
  devEui : Option Eui
  appId : String
  devId : String
  metadata : Option (ProtocolPart ActivationSettings)
  /-- The acceptance to fill in. -/
  template : Option DownlinkMessage
  deriving DecidableEq

structure ActivationResponse where
  payload : List UInt8
  metadata : Option (ProtocolPart ActivationSettings)
  deriving DecidableEq

/-- The downlink with the counter in its settings, if it has settings for this protocol. -/
def DownlinkMessage.withCounter (message : DownlinkMessage) (counter : UInt32) : DownlinkMessage :=
  { message with
    option := message.option.map fun option =>
      { option with
        protocol := option.protocol.map fun protocol =>
          { protocol with
            lorawan := protocol.lorawan.map fun transmission =>
              { transmission with counter := counter } } } }

end LoRaNetwork
