import LoRaNetwork.Server
import LoRaNetwork.Proofs.CounterReconstruction
import LoRaNetwork.Proofs.DirectoryIndex

/-! Looking up who may have sent an uplink. The index gives the records at an address, each once, and
the counter rules some of them out. Which ones is said in closed form: a device with a wide counter is
ruled out only in the last 2¹⁶ counters there are, where no counter above its own has the lower half
that was seen. So a device is never ruled out that did send the uplink. -/
namespace LoRaNetwork

namespace Device

/-- The device may have sent an uplink with this counter: its counter is not checked, or is not ahead,
or it is wide and some counter from it on has the same lower half. -/
def PossibleSender (device : Device) (counter : UInt32) : Prop :=
  device.options.uncheckedCounter = true ∨ device.counterUp.toNat ≤ counter.toNat ∨
    device.options.wideCounter = true ∧
      (device.counterUp.toNat < 0xFFFF0000 ∨
        device.counterUp.toNat % 0x10000 ≤ counter.toNat % 0x10000)

instance (device : Device) (counter : UInt32) : Decidable (device.PossibleSender counter) :=
  inferInstanceAs (Decidable (_ ∨ _ ∨ _ ∧ (_ ∨ _)))

variable {device : Device} {counter sent : UInt32}

theorem maySend_iff : device.maySend counter = true ↔ device.PossibleSender counter := by
  have lower : counter.toUInt16.toNat = counter.toNat % 0x10000 := UInt32.toNat_toUInt16 counter
  simp only [maySend, PossibleSender, Bool.or_eq_true, Bool.and_eq_true, decide_eq_true_eq,
    UInt32.le_iff_toNat_le.symm, le_wholeCounter_iff, lower, or_assoc]

/-- A device is not ruled out by a counter that it has not passed. -/
theorem possibleSender_of_le (behind : device.counterUp.toNat ≤ sent.toNat) :
    device.PossibleSender sent :=
  .inr (.inl behind)

/-- A device with a wide counter is not ruled out by the lower half of a counter that it has not
passed: above its own counter there is this one. -/
theorem possibleSender_low (wide : device.options.wideCounter = true)
    (behind : device.counterUp.toNat ≤ sent.toNat) :
    device.PossibleSender (.ofNat (sent.toNat % 0x10000)) := by
  have bound := sent.toNat_lt
  refine .inr (.inr ⟨wide, ?_⟩)
  rw [UInt32.toNat_ofNat']
  omega

end Device

namespace Server

variable {server : Server Directory} {address : Address} {counter : UInt32} {device : Device}

/-- The device is told of when an address is looked up with a counter. -/
def Tells (server : Server Directory) (address : Address) (counter : UInt32) (device : Device) :
    Prop :=
  ∃ response, server.devicesFor ⟨some address, counter⟩ = .ok response ∧
    info device ∈ response.results

/-- What is told are the records at the address that the counter does not rule out. -/
theorem mem_results (consistent : server.devices.Consistent) {response : DevicesResponse}
    (ran : server.devicesFor ⟨some address, counter⟩ = .ok response) {entry : DeviceInfo} :
    entry ∈ response.results ↔ ∃ device, server.devices.get? device.identity = some device ∧
      device.address = address ∧ device.PossibleSender counter ∧ info device = entry := by
  cases ran
  simp only [List.mem_map, List.mem_filter, consistent.mem_withAddress, Device.maySend_iff,
    and_assoc]

/-- No device is told of twice, as no identity is listed twice under an address. -/
theorem nodup_results (consistent : server.devices.Consistent) {response : DevicesResponse}
    (ran : server.devicesFor ⟨some address, counter⟩ = .ok response) :
    (response.results.map (·.identity)).Nodup := by
  cases ran
  rw [List.map_map]
  refine List.Nodup.map_on ?_ ((consistent.nodup_withAddress address).filter _)
  intro one member other otherMember (same : one.identity = other.identity)
  have found := (consistent.mem_withAddress.mp (List.mem_of_mem_filter member)).1
  have otherFound := (consistent.mem_withAddress.mp (List.mem_of_mem_filter otherMember)).1
  rw [same, otherFound] at found
  exact (Option.some.inj found).symm

/-- A stored device is told of at its address, with the counters that do not rule it out. -/
theorem tells_iff (consistent : server.devices.Consistent)
    (found : server.devices.get? device.identity = some device) :
    server.Tells address counter device ↔
      device.address = address ∧ device.PossibleSender counter := by
  constructor
  · rintro ⟨response, ran, member⟩
    obtain ⟨other, otherFound, here, possible, same⟩ := (mem_results consistent ran).mp member
    have named : other.identity = device.identity := congrArg DeviceInfo.identity same
    rw [named, found] at otherFound
    cases otherFound
    exact ⟨here, possible⟩
  · rintro ⟨here, possible⟩
    exact ⟨_, rfl, (mem_results consistent rfl).mpr ⟨device, found, here, possible, rfl⟩⟩

/-- Looking an address up lists exactly the possible senders. Whatever was written to the store, and
whatever address and counter are asked for, the answer has one entry for each stored device at the
address that may have sent with this counter, and no other entry; an entry tells the key, the counter
and the options that the device has now. So a device that has sent a counter which it had not passed
is told of, also by the lower half of that counter alone if it counts in 32 bits. -/
theorem lookup_lists_possible_senders (registry : PrefixRegistry) (writes : List StoreWrite)
    (address : Address) :
    let server : Server Directory := ⟨registry, StoreWrite.callAll Directory.empty writes⟩
    (∀ counter, ∃ response, server.devicesFor ⟨some address, counter⟩ = .ok response ∧
      (response.results.map (·.identity)).Nodup ∧
      ∀ entry, entry ∈ response.results ↔ ∃ device,
        server.devices.get device.identity = .ok device ∧ device.address = address ∧
          device.PossibleSender counter ∧
          entry = {
            identity := device.identity
            appId := device.appId
            devId := device.devId
            sessionKey := device.sessionKey
            counterUp := device.counterUp
            wideCounter := device.options.wideCounter
            uncheckedCounter := device.options.uncheckedCounter }) ∧
    ∀ device sent, server.devices.get device.identity = .ok device → device.address = address →
      device.counterUp.toNat ≤ sent.toNat →
        server.Tells address sent device ∧
          (device.options.wideCounter = true →
            server.Tells address (.ofNat (sent.toNat % 0x10000)) device) := by
  intro server
  obtain ⟨consistent, _⟩ := Directory.consistent_empty.callAll writes
  constructor
  · intro counter
    refine ⟨_, rfl, nodup_results consistent rfl, fun entry => ?_⟩
    rw [mem_results consistent rfl]
    simp only [Directory.get_eq_ok_iff, info, eq_comm (a := entry)]
  · intro device sent found here behind
    have tells {counter : UInt32} : server.Tells address counter device ↔
        device.address = address ∧ device.PossibleSender counter :=
      tells_iff consistent (Directory.get_eq_ok_iff.mp found)
    constructor
    · exact tells.mpr ⟨here, Device.possibleSender_of_le behind⟩
    · intro wide
      exact tells.mpr ⟨here, Device.possibleSender_low wide behind⟩

/-- Three devices at one address, two with wide counters: one that has started its lower half again
and one among the last counters there are. -/
theorem lookup_lists_possible_senders_last_counters :
    let place : Address := ⟨0x26010203⟩
    let device (name : UInt8) (counter : UInt32) (wide : Bool) : Device :=
      { Device.unknown ⟨default, ⟨.ofFn fun _ => name⟩⟩ with
        address := place
        counterUp := counter
        options := ⟨wide, false, ""⟩ }
    let narrow := device 1 0x10005 false
    let again := device 2 0x1FFFE true
    let last := device 3 0xFFFF0005 true
    let server : Server Directory := ⟨.empty (.ofWord 0x13), StoreWrite.callAll Directory.empty
      [.set narrow [], .set again [], .set last []]⟩
    server.Tells place 6 last ∧ server.Tells place 6 again ∧ ¬ server.Tells place 6 narrow ∧
      server.Tells place 4 again ∧ ¬ server.Tells place 4 last := by
  intro place device narrow again last server
  obtain ⟨_, genuine⟩ := lookup_lists_possible_senders server.registry
    [.set narrow [], .set again [], .set last []] place
  have consistent : server.devices.Consistent := (Directory.consistent_empty.callAll _).1
  have ruledOut {device : Device} {counter : UInt32}
      (found : server.devices.get? device.identity = some device)
      (impossible : ¬ device.PossibleSender counter) : ¬ server.Tells place counter device :=
    fun tells => impossible ((tells_iff consistent found).mp tells).2
  refine ⟨(genuine last 0xFFFF0006 rfl rfl (by decide)).2 rfl,
    (genuine again 0x20006 rfl rfl (by decide)).2 rfl, ruledOut rfl (by decide),
    (genuine again 0x20004 rfl rfl (by decide)).2 rfl, ruledOut rfl (by decide)⟩

end Server

end LoRaNetwork
