import LoRaNetwork.Server.Activation
import LoRaNetwork.Server.Traffic

/-!
All requests to a server in one type, and the server as a machine that takes them one at a time. The
clock and chance reach a request as values beside it.
-/

namespace LoRaNetwork

inductive Request where
  | usePrefix (range : AddressPrefix) (usages : List String)
  | devices (request : DevicesRequest)
  | prepare (request : ActivationRequest)
  | activate (response : ActivationResponse)
  | uplink (message : UplinkMessage)
  | downlink (message : DownlinkMessage)
  deriving DecidableEq

inductive Reply where
  | done
  | devices (response : DevicesResponse)
  | prepared (request : ActivationRequest)
  | activated (response : ActivationResponse)
  | uplink (message : UplinkMessage)
  | downlink (message : DownlinkMessage)
  deriving DecidableEq

namespace Server

variable {σ : Type} [DeviceStore σ]

/-- Takes one request at an instant. -/
def handle (server : Server σ) (now : Instant) (draw : Draw) :
    Request → Except Error Reply × Server σ
  | .usePrefix range usages =>
    match server.usePrefix range usages with
    | .error cause => (.error cause, server)
    | .ok server => (.ok .done, server)
  | .devices request => ((server.devicesFor request).map .devices, server)
  | .prepare request => ((server.prepare draw request).map .prepared, server)
  | .activate response =>
    let (answer, server) := server.activate now response
    (answer.map .activated, server)
  | .uplink message =>
    let (answer, server) := server.uplink now message
    (answer.map .uplink, server)
  | .downlink message =>
    let (answer, server) := server.downlink message
    (answer.map .downlink, server)

end Server

end LoRaNetwork
