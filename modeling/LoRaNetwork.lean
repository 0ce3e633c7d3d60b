import LoRaNetwork.Argument
import LoRaNetwork.Json.Message
import LoRaNetwork.Proofs.DirectoryIndex
import LoRaNetwork.Proofs.DownlinkSession
import LoRaNetwork.Proofs.FrameBinding
import LoRaNetwork.Proofs.FrameDelivery
import LoRaNetwork.Proofs.FrameRoundTrip
import LoRaNetwork.Proofs.PrefixHistory
import LoRaNetwork.Proofs.RequestAtomicity
import LoRaNetwork.Proofs.AddressAllocation
import LoRaNetwork.Proofs.RecordOwnership
import LoRaNetwork.Proofs.JoinSession
import LoRaNetwork.Proofs.JoinRefusal
import LoRaNetwork.Proofs.UplinkAnswer
import LoRaNetwork.Proofs.UplinkOutcome
import LoRaNetwork.Proofs.DeviceIsolation
import LoRaNetwork.Proofs.DownlinkCounter
import LoRaNetwork.Proofs.UplinkCounter
import LoRaNetwork.Proofs.FrameAuthenticity
import LoRaNetwork.Proofs.TrafficDirection
import LoRaNetwork.Proofs.DownlinkBytes
import LoRaNetwork.Proofs.FrameBounds
import LoRaNetwork.Proofs.FrameGrammar
import LoRaNetwork.Proofs.FrameLimits
import LoRaNetwork.Proofs.DeviceLookup
import LoRaNetwork.Proofs.PartialWrites
import LoRaNetwork.Proofs.PrefixNormalForm
import LoRaNetwork.Proofs.NetworkPrefixes
