import LoRaNetwork.Proofs.DownlinkBytes
import LoRaNetwork.Proofs.UplinkAnswer

/-! All that comes of an uplink: what is stored, what is returned, and what of both is left as it
was. Values of three origins meet here, the message, the frame that it carries and the record of its
device, and each of them is named with its origin. -/
namespace LoRaNetwork

namespace Frame

end Frame

/-- The counter that an uplink comes with: the whole one, where it was passed on beside the frame,
and else the part of it that the frame shows. -/
def UplinkMessage.counter (message : UplinkMessage) : UInt32 :=
  match message.metadata with
  | some ⟨some sending⟩ => sending.counter
  | some ⟨none⟩ | none => ofLittleEndian ((message.payload.drop 6).take 2)

/-- The way of a downlink with another counter, if all that leads to a counter is there. -/
def DownlinkOption.counted (counter : UInt32) : Option DownlinkOption → Option DownlinkOption
  | some ⟨identifier, gatewayId, some ⟨some sending⟩⟩ =>
    some ⟨identifier, gatewayId, some ⟨some { sending with counter := counter }⟩⟩
  | option => option

namespace Server

variable {server later : Server Directory}

end Server

end LoRaNetwork
