import LoRaNetwork.Proofs.RecordOwnership

/-! The downlink counter under one key. A downlink is signed with the counter of the record, which
then moves on, so the counter stays beyond all those that were used under the key of the record. Two
things take it back: a session that begins with the same key, as an activation that is delivered
twice does, and the end of the counter's range, behind which it starts again. As long as neither
happens, no counter is used twice. -/
namespace LoRaNetwork

namespace Server

/-- The call signs a downlink to a device with a key and a counter, those of its record. -/
def Signs (identity : Identity) (key : Key) (counter : UInt32) (server : Server Directory)
    (call : Call) : Prop :=
  ∃ device bytes frame, server.devices.get? identity = some device ∧
    device.sessionKey = key ∧ device.counterDown = counter ∧
    call.request.signedFor identity (server.answer call) = some bytes ∧
    Frame.SignedWith key device.address counter frame bytes

/-- The call begins a session of a device with a key. -/
def BeginsWith (identity : Identity) (key : Key) (server : Server Directory) (call : Call) : Prop :=
  (∃ response address, call.request = .activate response ∧
    session response = .ok (identity, address, key)) ∧ server.Succeeds call

/-- The device can be signed to under a key only with counters beyond a given one. -/
def Beyond (identity : Identity) (key : Key) (counter : UInt32) (server : Server Directory) :
    Prop :=
  ∀ device, server.devices.get? identity = some device → device.sessionKey = key →
    counter < device.counterDown

variable {server : Server Directory} {identity : Identity} {key : Key} {counter : UInt32}
  {call : Call}

/-- Every downlink that succeeds is signed with the key and the counter of the record, and moves the
counter on. -/
theorem signs_of_sends (consistent : server.devices.Consistent)
    (sends : Sends identity server call) : ∃ device,
    server.devices.get? identity = some device ∧
      Signs identity device.sessionKey device.counterDown server call ∧
      (server.next call).devices.get? identity = some (counted device) := by
  have effect := effect_call consistent call
  obtain ⟨own, reply, ran⟩ := sends
  obtain ⟨now, draw, request⟩ := call
  rw [ran] at effect
  cases request with
  | usePrefix | devices | prepare | activate | uplink => cases own
  | downlink message =>
    generalize server.next ⟨now, draw, .downlink message⟩ = next at effect ⊢
    cases effect with
    | @downlinked _ receiver device frame signed data bytes named found read signs correct =>
      cases named.symm.trans (identify_eq_ok_iff.mpr own)
      have spoken : (Request.downlink message).signedFor identity
          (server.answer ⟨now, draw, .downlink message⟩) = some bytes := by
        rw [ran]
        exact if_pos own
      refine ⟨device, found, ⟨device, bytes, signed, found, rfl, rfl, spoken, correct⟩, ?_⟩
      rw [get?_withRecord, if_pos rfl]

theorem signs_of_found (consistent : server.devices.Consistent) {device : Device}
    (found : server.devices.get? identity = some device) (sends : Sends identity server call) :
    Signs identity device.sessionKey device.counterDown server call := by
  obtain ⟨stored, same, signs, _⟩ := signs_of_sends consistent sends
  cases found.symm.trans same
  exact signs

/-- There is a signed frame only in the answer to a downlink that succeeds. -/
theorem sends_of_signedFor {bytes : List UInt8}
    (spoken : call.request.signedFor identity (server.answer call) = some bytes) :
    Sends identity server call := by
  obtain ⟨now, draw, request⟩ := call
  unfold Request.signedFor at spoken
  split at spoken
  · rename_i message reply asked answered
    split at spoken
    · rename_i own
      cases asked
      exact ⟨own, _, answered⟩
    · cases spoken
  · cases spoken

/-- A session that begins with a key has it in its record. -/
theorem begins_cases (begins : Begins identity server call) : ∃ key device,
    BeginsWith identity key server call ∧
      (server.next call).devices.get? identity = some device ∧ device.sessionKey = key := by
  obtain ⟨asked, done⟩ := begins
  obtain ⟨now, draw, request⟩ := call
  cases request with
  | usePrefix | devices | prepare | uplink | downlink => cases asked
  | activate response =>
    obtain ⟨address, key, ran⟩ := asked
    have step : server.next ⟨now, draw, .activate response⟩ =
        { server with devices := server.devices.activate identity address key now } := by
      rw [next, handle, activate, ran]
      rfl
    refine ⟨key, ((server.devices.get? identity).getD (.unknown identity)).join address key now,
      ⟨⟨response, address, rfl, ran⟩, done⟩, ?_, rfl⟩
    rw [step]
    exact (Directory.get?_activate ..).trans (if_pos rfl)

/-- Only its last value is not followed by a higher counter. -/
private theorem toNat_add_one {counter : UInt32} (last : counter ≠ 0xFFFFFFFF) :
    (counter + 1).toNat = counter.toNat + 1 := by
  have bound := counter.toNat_lt
  have other : counter.toNat ≠ 0xFFFFFFFF := fun same => last (UInt32.toNat_inj.mp same)
  have one : (1 : UInt32).toNat = 1 := rfl
  rw [UInt32.toNat_add, one]
  omega

/-- A downlink leaves the record beyond the counter that it used, unless that was the last one. -/
theorem Signs.beyond (consistent : server.devices.Consistent)
    (signs : Signs identity key counter server call) (last : counter ≠ 0xFFFFFFFF) :
    Beyond identity key counter (server.next call) := by
  obtain ⟨device, bytes, frame, found, rfl, rfl, spoken, _⟩ := signs
  obtain ⟨stored, foundToo, _, foundNext⟩ := signs_of_sends consistent (sends_of_signedFor spoken)
  cases found.symm.trans foundToo
  intro updated foundUpdated _
  cases foundNext.symm.trans foundUpdated
  apply UInt32.lt_iff_toNat_lt.mpr
  change device.counterDown.toNat < (device.counterDown + 1).toNat
  rw [toNat_add_one last]
  exact Nat.lt_succ_self _

/-- One call leaves the record beyond a counter, unless it begins a session with the key again or
uses the last counter. -/
theorem Beyond.step (consistent : server.devices.Consistent)
    (beyond : Beyond identity key counter server)
    (other : ¬ BeginsWith identity key server call)
    (within : ¬ Signs identity key 0xFFFFFFFF server call) :
    Beyond identity key counter (server.next call) := by
  have fate := fate_call consistent identity call
  intro updated found same
  generalize record : server.devices.get? identity = old at fate
  generalize recordNext : (server.next call).devices.get? identity = new at fate
  rw [recordNext] at found
  cases fate with
  | kept => exact beyond updated (record.trans found) same
  | begun begins =>
    -- The new session may have any other key: then the record says nothing of this one.
    obtain ⟨started, device, beginsWith, foundNext, rfl⟩ := begins_cases begins
    cases (recordNext.symm.trans foundNext).symm.trans found
    exact absurd (same ▸ beginsWith) other
  | @heard device =>
    cases found
    exact beyond device record same
  | @sent device _ sends =>
    cases found
    obtain ⟨stored, foundToo, signs, foundNext⟩ := signs_of_sends consistent sends
    cases record.symm.trans foundToo
    have last : device.counterDown ≠ 0xFFFFFFFF := by
      intro last
      cases same
      exact within (last ▸ signs)
    have further := signs.beyond consistent last (counted device) foundNext rfl
    exact UInt32.lt_trans (beyond device record same) further

/-- What one call keeps, a run keeps, by induction on the calls. -/
theorem Beyond.after (consistent : server.devices.Consistent)
    (beyond : Beyond identity key counter server) {calls : List Call}
    (others : ¬ During (BeginsWith identity key) server calls)
    (within : ¬ During (Signs identity key 0xFFFFFFFF) server calls) :
    Beyond identity key counter (server.after calls) := by
  induction calls generalizing server with
  | nil => exact beyond
  | cons call rest ih =>
    obtain ⟨other, others⟩ := not_or.mp others
    obtain ⟨inside, within⟩ := not_or.mp within
    have left := (effect_call consistent call).consistent consistent
    exact ih left (beyond.step consistent other inside) others within

/-- No counter is used twice under a key that is not begun again. In every run, whatever it starts
from, each downlink to a device that succeeds is signed with one key and one counter. Of two that
are signed with the same key the later one has the higher counter, as long as no session of the
device begins with that key between them and neither the earlier one nor any between uses the last
counter of all. -/
theorem downlink_counter_ascends (reachable : server.Reachable) (identity : Identity)
    (before : List Call) :
    let here := server.after before
    (∀ call, Sends identity here call →
      ∃! signed : Key × UInt32, Signs identity signed.1 signed.2 here call) ∧
    ∀ first between last key low high,
      Signs identity key low here first →
      Signs identity key high ((here.next first).after between) last →
      ¬ During (BeginsWith identity key) (here.next first) between →
      ¬ During (Signs identity key 0xFFFFFFFF) here (first :: between) → low < high := by
  intro here
  have consistent : here.devices.Consistent := (reachable.after before).consistent
  constructor
  · intro call sends
    obtain ⟨device, found, signs, _⟩ := signs_of_sends consistent sends
    refine ⟨(device.sessionKey, device.counterDown), signs, ?_⟩
    rintro ⟨key, counter⟩ ⟨stored, _, _, foundToo, rfl, rfl, _⟩
    cases found.symm.trans foundToo
    rfl
  · rintro first between last key low high signs ⟨stored, _, _, found, same, rfl, _⟩ others within
    obtain ⟨inside, within⟩ := not_or.mp within
    have beyond : Beyond identity key low (here.next first) :=
      signs.beyond consistent fun last => inside (last ▸ signs)
    have left := (effect_call consistent first).consistent consistent
    exact beyond.after left others within stored found same

/-- Three downlinks of a session between which the lower half of the counter starts again. -/
theorem downlink_counter_ascends_next_round :
    let device := { Device.unknown default with counterDown := 0xFFFE }
    let server := { ofNetId Directory.empty 0 with devices := Directory.empty.write device }
    let send : Call := ⟨default, ⟨0, 0⟩, .downlink {
      payload := [0x60, 0, 0, 0, 0, 0, 0, 0, 0, 0, 0, 0]
      appEui := some default
      devEui := some default
      appId := ""
      devId := ""
      option := none }⟩
    Signs default device.sessionKey 0xFFFE server send ∧
      Signs default device.sessionKey 0x10000 (server.after [send, send]) send ∧
      (0xFFFE : UInt32) < 0x10000 := by
  intro device server send
  have wrote : (StoreWrite.set device []).call Directory.empty = .ok server.devices := rfl
  have reachable : server.Reachable := Reachable.written (.start 0) wrote
  have second : (server.after [send]).devices.get? default =
      some { device with counterDown := 0xFFFF } := by decide
  have third : (server.after [send, send]).devices.get? default =
      some { device with counterDown := 0x10000 } := by decide
  have signs : Signs default device.sessionKey 0xFFFE server send :=
    signs_of_found reachable.consistent rfl ⟨⟨rfl, rfl⟩, _, rfl⟩
  have signsThird : Signs default device.sessionKey 0x10000 (server.after [send, send]) send :=
    signs_of_found (reachable.after [send, send]).consistent third ⟨⟨rfl, rfl⟩, _, rfl⟩
  obtain ⟨_, ascends⟩ := downlink_counter_ascends reachable default []
  refine ⟨signs, signsThird, ascends send [send] send _ _ _ signs signsThird ?_ ?_⟩
  · rintro (⟨⟨_, _, asked, _⟩, _⟩ | never)
    · cases asked
    · exact never
  · rintro (⟨stored, _, _, found, _, last, _⟩ | ⟨stored, _, _, found, _, last, _⟩ | never)
    · obtain rfl : device = stored := Option.some.inj found
      exact absurd last (by decide)
    · obtain rfl : { device with counterDown := 0xFFFF } = stored :=
        Option.some.inj (second.symm.trans found)
      exact absurd last (by decide)
    · exact never

/-- An activation that is delivered twice has a counter used twice, and so has a counter at its end:
behind it comes zero again. -/
theorem downlink_counter_starts_again :
    let device := Device.unknown default
    let server := { ofNetId Directory.empty 0 with devices := Directory.empty.write device }
    let join : Call := ⟨default, ⟨0, 0⟩, .activate ⟨[], some ⟨some {
      appEui := some default
      devEui := some default
      address := some ⟨0x26010203⟩
      sessionKey := some default
      rx1DataRateOffset := 0
      rx2DataRate := 0
      rxDelay := 0
      channels := [] }⟩⟩⟩
    let send : Call := ⟨default, ⟨0, 0⟩, .downlink {
      payload := [0x60, 0, 0, 0, 0, 0, 0, 0, 0, 0, 0, 0]
      appEui := some default
      devEui := some default
      appId := ""
      devId := ""
      option := none }⟩
    let worn := { ofNetId Directory.empty 0 with
      devices := Directory.empty.write { device with counterDown := 0xFFFFFFFF } }
    (server.Reachable ∧ Signs default default 0 (server.after [join]) send ∧
      Signs default default 0 (server.after [join, send, join]) send) ∧
    worn.Reachable ∧ Signs default device.sessionKey 0xFFFFFFFF worn send ∧
      Signs default device.sessionKey 0 (worn.after [send]) send := by
  intro device server join send worn
  have wrote : (StoreWrite.set device []).call Directory.empty = .ok server.devices := rfl
  have wroteWorn : (StoreWrite.set { device with counterDown := 0xFFFFFFFF } []).call
      Directory.empty = .ok worn.devices := rfl
  have reachable : server.Reachable := Reachable.written (.start 0) wrote
  have reachableWorn : worn.Reachable := Reachable.written (.start 0) wroteWorn
  have joined : (server.after [join]).devices.get? default =
      some (device.join ⟨0x26010203⟩ default default) := rfl
  have joinedAgain : (server.after [join, send, join]).devices.get? default =
      some (device.join ⟨0x26010203⟩ default default) := rfl
  have wrapped : (worn.after [send]).devices.get? default = some device := by decide
  refine ⟨⟨reachable, ?_, ?_⟩, reachableWorn, ?_, ?_⟩
  · exact signs_of_found (reachable.after [join]).consistent joined ⟨⟨rfl, rfl⟩, _, rfl⟩
  · exact signs_of_found (reachable.after [join, send, join]).consistent joinedAgain
      ⟨⟨rfl, rfl⟩, _, rfl⟩
  · have found : worn.devices.get? default = some { device with counterDown := 0xFFFFFFFF } := rfl
    exact signs_of_found reachableWorn.consistent found ⟨⟨rfl, rfl⟩, _, rfl⟩
  · exact signs_of_found (reachableWorn.after [send]).consistent wrapped ⟨⟨rfl, rfl⟩, _, rfl⟩

end Server

end LoRaNetwork
