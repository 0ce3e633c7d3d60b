import LoRaNetwork.Proofs.JoinPreparation
import LoRaNetwork.Proofs.RecordOwnership

/-! Joining a network from the request to the first downlink. Preparation chooses an address and says
so twice, to the device in the acceptance and to the server's neighbours in the settings; activation
takes it from the settings. In between any other requests may come. From the activation on, the
record, the index and the frames sent to the device all have the same address and key, whatever they
had before and whoever else has that address. -/
namespace LoRaNetwork

namespace Server

variable {server : Server Directory}

/-- Looking devices up succeeds, and of one device this is what is told. -/
def Lists (server : Server Directory) (request : DevicesRequest) (identity : Identity)
    (entries : List DeviceInfo) : Prop :=
  ∃ response, server.devicesFor request = .ok response ∧
    response.results.filter (·.identity = identity) = entries

/-- At most one of the devices that are told of has a given identity, the one that is stored there. -/
theorem mem_candidates (consistent : server.devices.Consistent) {identity : Identity}
    {device : Device} (found : server.devices.get? identity = some device)
    (address : Address) (counter : UInt32) (other : Device) :
    other ∈ ((server.devices.withAddress address).filter (·.maySend counter)).filter
        (·.identity = identity) ↔
      other = device ∧ device.address = address ∧ device.maySend counter = true := by
  rw [List.mem_filter, List.mem_filter, consistent.mem_withAddress, decide_eq_true_eq]
  constructor
  · rintro ⟨⟨⟨stored, here⟩, may⟩, rfl⟩
    cases found.symm.trans stored
    exact ⟨rfl, here, may⟩
  · rintro ⟨rfl, here, may⟩
    have own := consistent.own found
    exact ⟨⟨⟨own.symm ▸ found, here⟩, may⟩, own⟩

/-- A device is told of once, at the address of its record and with a counter that it may have
sent. -/
theorem lists_of_get? (consistent : server.devices.Consistent) {identity : Identity}
    {device : Device} (found : server.devices.get? identity = some device) (address : Address)
    (counter : UInt32) : server.Lists ⟨some address, counter⟩ identity
      (if device.address = address ∧ device.maySend counter = true then [info device] else []) := by
  have member := mem_candidates consistent found address counter
  have distinct := ((consistent.nodup_withAddress address).filter
    (fun device => device.maySend counter)).filter (fun device => device.identity = identity)
  refine ⟨_, rfl, ?_⟩
  rw [List.filter_map]
  change List.map info (((server.devices.withAddress address).filter (·.maySend counter)).filter
    (·.identity = identity)) = _
  split
  · rename_i here
    have single := (List.perm_ext_iff_of_nodup distinct (List.nodup_singleton device)).mpr
      fun other => by rw [member, List.mem_singleton, and_iff_left here]
    rw [List.perm_singleton.mp single]
    rfl
  · rename_i away
    have none : ((server.devices.withAddress address).filter (·.maySend counter)).filter
        (·.identity = identity) = [] := by
      apply List.eq_nil_iff_forall_not_mem.mpr
      intro other found
      exact away ((member other).mp found).2
    rw [none]
    rfl

end Server

end LoRaNetwork
