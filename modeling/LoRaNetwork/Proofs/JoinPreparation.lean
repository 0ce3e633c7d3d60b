import LoRaNetwork.Proofs.AddressAllocation
import LoRaNetwork.Proofs.FrameRoundTrip
import LoRaNetwork.Proofs.RequestAtomicity

/-! What a device is told when it joins. Its settings come as whole numbers, are narrowed to bytes and
then packed into fewer bits, and each of these steps refuses what it has no room for. So whatever gets
through both has kept its value, and the acceptance can be read back as the settings that it was made
of, with the address that is also written into them. -/
namespace LoRaNetwork

/-- An acceptance says what the settings for it say: the same numbers, and the channels if they are
five, in units of 100 Hz. -/
structure JoinAccept.Tells (accept : JoinAccept) (netId : NetId) (address : Address)
    (settings : ActivationSettings) : Prop where
  nonce : accept.nonce = .zero 3
  netId : accept.netId = netId
  address : accept.address = address
  rx2DataRate : accept.settings.rx2DataRate.toNat = settings.rx2DataRate.toNat
  rx1DataRateOffset : accept.settings.rx1DataRateOffset.toNat = settings.rx1DataRateOffset.toNat
  delay : accept.delay.toNat = settings.rxDelay.toNat
  channels : accept.channels.map (fun list => list.frequencies.map UInt32.toNat) =
    if settings.channels.length = 5 then
      some (settings.channels.map fun frequency => frequency.toNat / 100 * 100)
    else none

namespace ChannelList

/-- Rounding stays below the frequency, so it is the same in numbers. -/
theorem toNat_rounded (channels : ChannelList) :
    channels.rounded.frequencies.map UInt32.toNat =
      channels.frequencies.map fun frequency => frequency.toNat / 100 * 100 := by
  rw [rounded, List.map_map]
  apply List.map_congr_left
  intro frequency _
  have below : frequency.toNat / 100 * 100 ≤ frequency.toNat := Nat.div_mul_le_self _ _
  have bound := frequency.toNat_lt
  change (frequency / 100 * 100).toNat = _
  rw [UInt32.toNat_mul, UInt32.toNat_div]
  exact Nat.mod_eq_of_lt (Nat.lt_of_le_of_lt below bound)

theorem toNat_received_ofList? (frequencies : List UInt32) :
    ((ofList? frequencies).map rounded).map (fun list => list.frequencies.map UInt32.toNat) =
      if frequencies.length = 5 then
        some (frequencies.map fun frequency => frequency.toNat / 100 * 100)
      else none := by
  unfold ofList?
  split
  · rename_i five
    exact congrArg some (toNat_rounded ⟨frequencies, five⟩)
  · rfl

end ChannelList

theorem ProtocolPart.bind_lorawan_eq_some_iff {α : Type} {part : Option (ProtocolPart α)} {a : α} :
    part.bind (·.lorawan) = some a ↔ part = some ⟨some a⟩ := by
  cases part with
  | none => exact ⟨nofun, nofun⟩
  | some part =>
    obtain ⟨lorawan⟩ := part
    simp

namespace Server

variable {σ : Type} [DeviceStore σ] {store : Server σ}

/-- A setting that is narrowed keeps its value. -/
theorem narrow_eq_ok_iff {field : FrameField} {value : UInt32} {byte : UInt8} :
    narrow field value = .ok byte ↔ byte.toNat = value.toNat := by
  have small : value < 256 ↔ value.toNat < 256 := UInt32.lt_iff_toNat_lt
  unfold narrow
  split
  · rename_i below
    have kept : value.toUInt8.toNat = value.toNat :=
      Nat.mod_eq_of_lt (small.mp below)
    rw [← kept, UInt8.toNat_inj, Except.ok.injEq, eq_comm]
  · rename_i above
    constructor
    · nofun
    · intro same
      exact absurd (small.mpr (same ▸ byte.toNat_lt)) above

/-- The acceptance is the frame of the settings in bytes. -/
theorem acceptBytes_eq (netId : NetId) (address : Address) (settings : ActivationSettings) :
    acceptBytes netId address settings =
      (acceptFrame netId address settings >>= Frame.encode).mapError .frame := by
  unfold acceptBytes
  cases acceptFrame netId address settings <;> rfl

/-- The bytes of an acceptance can be read, and tell a device its settings. -/
theorem tells_of_acceptBytes {netId : NetId} {address : Address} {settings : ActivationSettings}
    {bytes : List UInt8} (wrote : acceptBytes netId address settings = .ok bytes) :
    ∃ accept, Frame.decode bytes = .ok ⟨.joinAccept, .joinAccept accept, .zero 4⟩ ∧
      accept.Tells netId address settings := by
  rw [acceptBytes_eq, mapError_eq_ok_iff] at wrote
  obtain ⟨frame, made, encoded⟩ := bind_eq_ok_iff.mp wrote
  simp only [acceptFrame, bind_eq_ok_iff, narrow_eq_ok_iff] at made
  obtain ⟨rx2DataRate, rx2Kept, rx1DataRateOffset, rx1Kept, delay, delayKept, same⟩ := made
  cases same
  refine ⟨_, Frame.decode_of_encode encoded, ?_⟩
  exact {
    nonce := rfl
    netId := rfl
    address := rfl
    rx2DataRate := rx2Kept
    rx1DataRateOffset := rx1Kept
    delay := delayKept
    channels := ChannelList.toNat_received_ofList? settings.channels }

/-- A preparation takes an address from the registry, and what it returns has the address in the
settings and the acceptance in the template. -/
theorem prepare_eq_ok_iff {draw : Draw} {request prepared : ActivationRequest} :
    store.prepare draw request = .ok prepared ↔
      ∃ identity device settings template address bytes,
        identify .activation request.appEui request.devEui = .ok identity ∧
        DeviceStore.get store.devices identity = .ok device ∧
        request.metadata.bind (·.lorawan) = some settings ∧
        request.template = some template ∧
        store.registry.allocate (requiredUsages device) draw = .ok address ∧
        acceptBytes store.registry.netId address settings = .ok bytes ∧
        prepared = { request with
          appId := device.appId
          devId := device.devId
          metadata := some ⟨some { settings with address := some address }⟩
          template := some { template with payload := bytes } } := by
  simp only [prepare, bind_eq_ok_iff]
  constructor
  · rintro ⟨identity, named, device, found, ran⟩
    cases settled : request.metadata.bind (·.lorawan) with
    | none =>
      rw [settled] at ran
      cases ran
    | some settings =>
      cases held : request.template with
      | none =>
        rw [settled, held] at ran
        cases ran
      | some template =>
        rw [settled, held] at ran
        obtain ⟨address, allocated, rest⟩ := bind_eq_ok_iff.mp ran
        obtain ⟨bytes, wrote, same⟩ := bind_eq_ok_iff.mp rest
        cases same
        exact ⟨identity, device, settings, template, address, bytes, named, found, rfl, rfl,
          allocated, wrote, rfl⟩
  · rintro ⟨identity, device, settings, template, address, bytes, named, found, settled, held,
      allocated, wrote, rfl⟩
    refine ⟨identity, named, device, found, ?_⟩
    rw [settled, held]
    exact bind_eq_ok_iff.mpr ⟨address, allocated, bind_eq_ok_iff.mpr ⟨bytes, wrote, rfl⟩⟩

/-- The acceptance says what the metadata says. Over any store, a preparation that succeeds names a
stored device and comes with settings and a template. The request comes back with the application of
the device, an address in its settings and another payload in its template, and otherwise as it was.
This payload is an acceptance without nonce and code, for the network of the server and for the very
address that is in the settings. It tells the device the numbers of the settings as they are, and
the channels exactly if they are five, each at the multiple of 100 Hz that is next below. -/
theorem acceptance_tells_metadata {draw : Draw} {request prepared : ActivationRequest}
    (prepares : store.prepare draw request = .ok prepared) :
    ∃ device settings template address payload accept,
      store.Finds request.appEui request.devEui device ∧
      request.metadata = some ⟨some settings⟩ ∧ request.template = some template ∧
      prepared = { request with
        appId := device.appId
        devId := device.devId
        metadata := some ⟨some { settings with address := some address }⟩
        template := some { template with payload := payload } } ∧
      Frame.decode payload = .ok ⟨.joinAccept, .joinAccept accept, .zero 4⟩ ∧
      accept.Tells store.registry.netId address settings := by
  obtain ⟨identity, device, settings, template, address, payload, named, found, settled, held, _,
    wrote, rfl⟩ := prepare_eq_ok_iff.mp prepares
  obtain ⟨app, dev⟩ := identify_eq_ok_iff.mp named
  obtain ⟨accept, decoded, tells⟩ := tells_of_acceptBytes wrote
  exact ⟨device, settings, template, address, payload, accept, ⟨identity, app, dev, found⟩,
    ProtocolPart.bind_lorawan_eq_some_iff.mp settled, held, rfl, decoded, tells⟩

/-- Five channels between the multiples of 100 Hz, and the largest numbers that there is room for. -/
theorem acceptance_tells_metadata_channels :
    let range : AddressPrefix := ⟨⟨0x26000000⟩, 7⟩
    let device := { Device.unknown default with appId := "app", devId := "dev" }
    let registry := { PrefixRegistry.empty (.ofWord 0x13) with
      usages := Table.empty.insert range (.ofList ["otaa"]) }
    let server : Server Directory := ⟨registry, Directory.empty.write device⟩
    let settings : ActivationSettings := {
      appEui := none
      devEui := none
      address := none
      sessionKey := none
      rx1DataRateOffset := 7
      rx2DataRate := 15
      rxDelay := 15
      channels := [867100001, 867300099, 867500050, 867700000, 99] }
    let request : ActivationRequest := {
      payload := []
      appEui := some default
      devEui := some default
      appId := ""
      devId := ""
      metadata := some ⟨some settings⟩
      template := some ⟨[], none, none, "", "", none⟩ }
    ∀ draw, ∃ prepared address template accept list,
      server.prepare draw request = .ok prepared ∧ prepared.appId = "app" ∧
      prepared.metadata = some ⟨some { settings with address := some address }⟩ ∧
      prepared.template = some template ∧
      Frame.decode template.payload = .ok ⟨.joinAccept, .joinAccept accept, .zero 4⟩ ∧
      accept.address = address ∧ accept.delay.toNat = 15 ∧ accept.channels = some list ∧
      list.frequencies.map UInt32.toNat = [867100000, 867300000, 867500000, 867700000, 0] := by
  intro range device registry server settings request draw
  have member : range ∈ server.registry.prefixesFor (requiredUsages device) := by
    have required : requiredUsages device = ["otaa"] := rfl
    rw [required]
    refine PrefixRegistry.mem_prefixesFor.mpr ⟨.ofList ["otaa"], rfl, ?_⟩
    simp
  obtain ⟨address, allocated⟩ := PrefixRegistry.exists_allocate_of_mem member draw
  obtain ⟨bytes, accepts⟩ : ∃ bytes, acceptBytes server.registry.netId address settings =
    .ok bytes := ⟨_, rfl⟩
  have prepares : server.prepare draw request = .ok _ := prepare_eq_ok_iff.mpr
    ⟨default, device, settings, _, _, _, rfl, rfl, rfl, rfl, allocated, accepts, rfl⟩
  obtain ⟨_, _, _, _, _, accept, ⟨⟨_, _⟩, app, dev, found⟩, sameSettings, sameTemplate, same,
    decoded, tells⟩ := acceptance_tells_metadata prepares
  cases app
  cases dev
  cases found
  cases sameSettings
  cases sameTemplate
  cases same
  have five : settings.channels.length = 5 := rfl
  have channels := tells.channels
  rw [if_pos five, Option.map_eq_some_iff] at channels
  obtain ⟨list, present, frequencies⟩ := channels
  exact ⟨_, _, _, accept, list, prepares, rfl, rfl, rfl, decoded, tells.address, tells.delay,
    present, frequencies⟩

end Server

end LoRaNetwork
