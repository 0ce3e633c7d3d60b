import LoRaNetwork.Proofs.CounterReconstruction
import LoRaNetwork.Proofs.JoinSession
import LoRaNetwork.Proofs.RequestAtomicity

/-! The uplink counter of a record. An uplink that is recorded brings its counter along, and the
record takes it as it is. So the counter goes back when the uplink is behind, be it a frame from
before or one whose upper half nobody has given, and it is left to those who send uplinks to prevent
that. They can: who looks the device up, finds the whole counter from the one that is told and sends
the uplink with it has the record follow the device through any number of rounds of the lower
half. -/
namespace LoRaNetwork

namespace Server

variable {server : Server Directory} {identity : Identity} {device : Device} {call : Call}

/-! ## What moves the counter -/

/-- The call records an uplink of a device that came with a counter. -/
def HearsWith (identity : Identity) (counter : UInt32) (server : Server Directory) (call : Call) :
    Prop :=
  Hears identity server call ∧ ∃ message frame data, call.request = .uplink message ∧
    Frame.decode message.payload = .ok frame ∧ frame.payload = .data data ∧
    uplinkCounter message data = counter

/-- The call records an uplink that is behind the record of its device. -/
def HearsLate (identity : Identity) (server : Server Directory) (call : Call) : Prop :=
  ∃ device counter, server.devices.get? identity = some device ∧
    HearsWith identity counter server call ∧ counter < device.counterUp

/-- The call begins another session of a device that was heard in its last one. -/
def Restarts (identity : Identity) (server : Server Directory) (call : Call) : Prop :=
  Begins identity server call ∧
    ∃ device, server.devices.get? identity = some device ∧ 0 < device.counterUp

/-- The call takes the uplink counter of a device back. -/
def Lowers (identity : Identity) (server : Server Directory) (call : Call) : Prop :=
  ∃ device updated, server.devices.get? identity = some device ∧
    (server.next call).devices.get? identity = some updated ∧ updated.counterUp < device.counterUp

/-- A recorded uplink leaves its counter in the record. -/
theorem hearsWith_of_hears (consistent : server.devices.Consistent)
    (hears : Hears identity server call) : ∃ device updated,
    server.devices.get? identity = some device ∧
      (server.next call).devices.get? identity = some updated ∧
      HearsWith identity updated.counterUp server call := by
  have effect := effect_call consistent call
  obtain ⟨own, reply, ran⟩ := hears
  obtain ⟨now, draw, request⟩ := call
  rw [ran] at effect
  cases request with
  | usePrefix | devices | prepare | activate | downlink => cases own
  | uplink message =>
    have heard : Hears identity server ⟨now, draw, .uplink message⟩ := ⟨own, reply, ran⟩
    generalize server.next ⟨now, draw, .uplink message⟩ = next at effect ⊢
    cases effect with
    | @uplinked _ reply sender device frame data named found read =>
      cases named.symm.trans (identify_eq_ok_iff.mpr own)
      obtain ⟨_, _, _, decoded, carries⟩ := readUplink_eq_ok_iff.mp read
      refine ⟨device, Server.heard device now message data, found, ?_, heard, message, frame, data,
        rfl, decoded, carries, rfl⟩
      rw [get?_withRecord, if_pos rfl]

/-- An uplink comes with one counter. -/
theorem HearsWith.unique {counter other : UInt32} (first : HearsWith identity counter server call)
    (second : HearsWith identity other server call) : counter = other := by
  obtain ⟨_, message, frame, data, asked, decoded, carries, rfl⟩ := first
  obtain ⟨_, messageToo, frameToo, dataToo, askedToo, decodedToo, carriesToo, rfl⟩ := second
  cases asked.symm.trans askedToo
  cases decoded.symm.trans decodedToo
  cases carries.symm.trans carriesToo
  rfl

theorem not_begins_of_hears (hears : Hears identity server call) :
    ¬ Begins identity server call := by
  obtain ⟨own, _⟩ := hears
  rintro ⟨asked, _⟩
  obtain ⟨now, draw, request⟩ := call
  cases request with
  | uplink => cases asked
  | usePrefix | devices | prepare | activate | downlink => cases own

/-- What becomes of the uplink counter of a device in one call. -/
inductive CounterFate (identity : Identity) (server : Server Directory) (call : Call) :
    UInt32 → UInt32 → Prop where
  | kept {counter : UInt32} : ¬ Begins identity server call → ¬ Hears identity server call →
      CounterFate identity server call counter counter
  | restarted {counter : UInt32} : Begins identity server call → ¬ Hears identity server call →
      CounterFate identity server call counter 0
  | heard {counter taken : UInt32} : ¬ Begins identity server call →
      HearsWith identity taken server call → CounterFate identity server call counter taken

theorem counterFate_call (consistent : server.devices.Consistent)
    (found : server.devices.get? identity = some device) (call : Call) : ∃ updated,
    (server.next call).devices.get? identity = some updated ∧
      CounterFate identity server call device.counterUp updated.counterUp := by
  by_cases hears : Hears identity server call
  · obtain ⟨_, updated, _, foundNext, heard⟩ := hearsWith_of_hears consistent hears
    exact ⟨updated, foundNext, .heard (not_begins_of_hears hears) heard⟩
  · have fate := fate_call consistent identity call
    rw [found] at fate
    generalize (server.next call).devices.get? identity = new at fate ⊢
    cases fate with
    | kept unbegun => exact ⟨device, rfl, .kept unbegun hears⟩
    | begun begins => exact ⟨_, rfl, .restarted begins hears⟩
    | heard _ heard => exact absurd heard hears
    | sent unbegun => exact ⟨counted device, rfl, .kept unbegun hears⟩

/-- The rule for the uplink counter in one call: it goes back exactly when a session begins that is
not the first use of it, or an uplink is recorded that is behind, and an uplink that is recorded
leaves its own counter. -/
structure CounterRule (identity : Identity) (server : Server Directory) (call : Call) : Prop where
  lowered : Lowers identity server call ↔
    Restarts identity server call ∨ HearsLate identity server call
  taken : ∀ counter, HearsWith identity counter server call →
    ∃ updated, (server.next call).devices.get? identity = some updated ∧
      updated.counterUp = counter

theorem counterRule_call (consistent : server.devices.Consistent) (identity : Identity)
    (call : Call) : CounterRule identity server call where
  lowered := by
    constructor
    · rintro ⟨device, updated, found, foundNext, lower⟩
      obtain ⟨same, foundSame, fate⟩ := counterFate_call consistent found call
      cases foundNext.symm.trans foundSame
      generalize updated.counterUp = counter at fate lower
      cases fate with
      | kept => exact absurd lower (UInt32.lt_irrefl _)
      | restarted begins => exact .inl ⟨begins, device, found, lower⟩
      | heard _ heard => exact .inr ⟨device, counter, found, heard, lower⟩
    · rintro (⟨begins, device, found, lower⟩ | ⟨device, counter, found, heard, lower⟩)
      · obtain ⟨updated, foundNext, fate⟩ := counterFate_call consistent found call
        refine ⟨device, updated, found, foundNext, ?_⟩
        generalize updated.counterUp = counter at fate ⊢
        cases fate with
        | kept unbegun => exact absurd begins unbegun
        | restarted => exact lower
        | heard unbegun => exact absurd begins unbegun
      · obtain ⟨stored, updated, foundToo, foundNext, heardToo⟩ :=
          hearsWith_of_hears consistent heard.1
        cases heard.unique heardToo
        exact ⟨device, updated, found, foundNext, lower⟩
  taken counter heard := by
    obtain ⟨_, updated, _, foundNext, heardToo⟩ := hearsWith_of_hears consistent heard.1
    exact ⟨updated, foundNext, heardToo.unique heard⟩

/-- A run in which nothing takes the counter back leaves it where it was or further, by induction on
the calls. -/
theorem counterUp_le_after (consistent : server.devices.Consistent)
    (found : server.devices.get? identity = some device) {calls : List Call}
    (unrestarted : ¬ During (Restarts identity) server calls)
    (timely : ¬ During (HearsLate identity) server calls) : ∃ updated,
    (server.after calls).devices.get? identity = some updated ∧
      device.counterUp ≤ updated.counterUp := by
  induction calls generalizing server device with
  | nil => exact ⟨device, found, UInt32.le_refl _⟩
  | cons call rest ih =>
    obtain ⟨still, unrestarted⟩ := not_or.mp unrestarted
    obtain ⟨intime, timely⟩ := not_or.mp timely
    obtain ⟨between, foundNext, _⟩ := counterFate_call consistent found call
    have further : device.counterUp ≤ between.counterUp := by
      apply UInt32.not_lt.mp
      intro lower
      have lowers : Lowers identity server call := ⟨device, between, found, foundNext, lower⟩
      exact ((counterRule_call consistent identity call).lowered.mp lowers).elim still intime
    have left := (effect_call consistent call).consistent consistent
    obtain ⟨updated, foundLast, beyond⟩ := ih left foundNext unrestarted timely
    exact ⟨updated, foundLast, UInt32.le_trans further beyond⟩

/-- What takes the uplink counter back. In every run, each call takes the counter of a stored device
back exactly when it begins another session of the device or records an uplink of it whose own
counter, the one that came with the message or else the one in the frame, is behind the stored one;
that counter is then the stored one. So from one of these to the next the counter never
goes back. -/
theorem uplink_counter_goes_back_with_late_uplinks (reachable : server.Reachable)
    (identity : Identity) (calls : List Call) :
    Throughout (CounterRule identity) server calls ∧
      ∀ device, server.devices.get? identity = some device →
        ¬ During (Restarts identity) server calls → ¬ During (HearsLate identity) server calls →
        ∃ updated, (server.after calls).devices.get? identity = some updated ∧
          device.counterUp ≤ updated.counterUp := by
  have consistent := reachable.consistent
  constructor
  · exact throughout_of_call (fun consistent call => counterRule_call consistent identity call)
      consistent calls
  · intro device found unrestarted timely
    exact counterUp_le_after consistent found unrestarted timely

/-- An uplink that is ahead of the record, with its whole counter. -/
theorem uplink_counter_goes_back_with_late_uplinks_ahead :
    let device := { Device.unknown default with counterUp := 0x10005 }
    let server := { ofNetId Directory.empty 0 with devices := Directory.empty.write device }
    let hear : Call := ⟨default, ⟨0, 0⟩, .uplink {
      payload := [0x40, 0, 0, 0, 0, 0, 6, 0, 0, 0, 0, 0]
      appEui := some default
      devEui := some default
      appId := ""
      devId := ""
      metadata := some ⟨some ⟨0x10006, "", ""⟩⟩
      template := none }⟩
    CounterRule default server hear ∧
      ∃ updated, (server.next hear).devices.get? default = some updated ∧
        device.counterUp ≤ updated.counterUp := by
  intro device server hear
  have wrote : (StoreWrite.set device []).call Directory.empty = .ok server.devices := rfl
  obtain ⟨⟨rule, _⟩, forward⟩ :=
    uplink_counter_goes_back_with_late_uplinks (Reachable.written (.start 0) wrote) default [hear]
  refine ⟨rule, forward device rfl ?_ ?_⟩
  · rintro (⟨⟨never, _⟩, _⟩ | never)
    · exact never
    · exact never
  · rintro (⟨stored, counter, found, ⟨_, _, _, _, asked, _, _, rfl⟩, late⟩ | never)
    · cases asked
      obtain rfl : device = stored := Option.some.inj found
      have ahead : ¬ (0x10006 : UInt32) < device.counterUp := by decide
      exact ahead late
    · exact never

/-- A device whose counter is checked and is in its second round of 16 bits: an uplink of which only
the lower half is known takes it back to the first round, and one from before takes it back to
where it was then. -/
theorem uplink_counter_goes_back :
    let device := { Device.unknown default with counterUp := 0x10005 }
    let server := { ofNetId Directory.empty 0 with devices := Directory.empty.write device }
    let frame : UplinkMessage := {
      payload := [0x40, 0, 0, 0, 0, 0, 6, 0, 0, 0, 0, 0]
      appEui := some default
      devEui := some default
      appId := ""
      devId := ""
      metadata := none
      template := none }
    let bare : Call := ⟨default, ⟨0, 0⟩, .uplink frame⟩
    let again : Call :=
      ⟨default, ⟨0, 0⟩, .uplink { frame with metadata := some ⟨some ⟨0x10004, "", ""⟩⟩ }⟩
    server.Reachable ∧ device.options.uncheckedCounter = false ∧
      (Lowers default server bare ∧ ¬ Begins default server bare) ∧
      Lowers default server again ∧ ¬ Begins default server again := by
  intro device server frame bare again
  have wrote : (StoreWrite.set device []).call Directory.empty = .ok server.devices := rfl
  have halved : (6 : UInt32) < device.counterUp := by decide
  have before : (0x10004 : UInt32) < device.counterUp := by decide
  exact ⟨Reachable.written (.start 0) wrote, rfl,
    ⟨⟨device, { device with counterUp := 6, lastSeen := some default }, rfl, rfl, halved⟩,
      And.left⟩,
    ⟨device, { device with counterUp := 0x10004, lastSeen := some default }, rfl, rfl, before⟩,
    And.left⟩

/-! ## Following the device -/

/-- One uplink on its way to the server. Its device is looked up first, with what the frame shows of
the counter, and the uplink is sent with the whole counter that this gives. Other calls are made
before each of the two. -/
structure Exchange where
  before : List Call
  /-- The counter that the device sent the frame with. -/
  counter : UInt32
  meanwhile : List Call
  now : Instant
  message : UplinkMessage
  dataRate : String
  codingRate : String

namespace Exchange

/-- Asks for the device with the lower half of its counter. -/
def question (exchange : Exchange) (address : Address) : DevicesRequest :=
  ⟨some address, exchange.counter.toUInt16.toUInt32⟩

/-- The uplink with the whole counter, found from the one that is told of the device. -/
def report (exchange : Exchange) (told : UInt32) : UplinkMessage :=
  { exchange.message with
    metadata := some ⟨some {
      counter := wholeCounter told exchange.counter.toUInt16
      dataRate := exchange.dataRate
      codingRate := exchange.codingRate }⟩ }

/-- The uplink names a device and spells a data frame, and the calls on its way neither activate the
device nor bring other uplinks of it. -/
structure Sound (identity : Identity) (exchange : Exchange) : Prop where
  appEui : exchange.message.appEui = some identity.appEui
  devEui : exchange.message.devEui = some identity.devEui
  frame : SpellData exchange.message.payload
  others : ∀ call ∈ exchange.before ++ exchange.meanwhile,
    ¬ call.request.Activates identity ∧ ¬ call.request.UplinkOf identity

end Exchange

/-- The record keeps up with a device: in each exchange the device is told of once and with the
counter before, the uplink succeeds, and the record then has the counter of the device. -/
def KeepsUp (identity : Identity) (address : Address) (server : Server Directory) (last : UInt32) :
    List Exchange → Prop
  | [] => True
  | exchange :: rest =>
    let looking := server.after exchange.before
    ∃ listed reply later updated,
      looking.Lists (exchange.question address) identity [listed] ∧ listed.counterUp = last ∧
      (looking.after exchange.meanwhile).uplink exchange.now (exchange.report listed.counterUp) =
        (.ok reply, later) ∧
      later.devices.get? identity = some updated ∧ updated.counterUp = exchange.counter ∧
      KeepsUp identity address later exchange.counter rest

/-- A counter is not behind another one and less than 2¹⁶ ahead of it. -/
def Near (last counter : UInt32) : Prop :=
  last.toNat ≤ counter.toNat ∧ counter.toNat ≤ last.toNat + 0xFFFF

/-- A device with a wide counter is not ruled out by the lower half of the counter that it sends. -/
theorem maySend_of_near {counter : UInt32} (wide : device.options.wideCounter = true)
    (near : Near device.counterUp counter) :
    device.maySend counter.toUInt16.toUInt32 = true := by
  have ahead : device.counterUp ≤ counter := UInt32.le_iff_toNat_le.mpr near.1
  unfold Device.maySend
  rw [UInt16.toUInt16_toUInt32, wholeCounter_of_near near.1 near.2]
  simp [wide, ahead]

/-- Calls that neither activate a device nor bring uplinks of it leave its record the same but for
the downlink counter. -/
theorem kept_after (consistent : server.devices.Consistent)
    (found : server.devices.get? identity = some device) {calls : List Call}
    (others : ∀ call ∈ calls,
      ¬ call.request.Activates identity ∧ ¬ call.request.UplinkOf identity) :
    ∃ updated, (server.after calls).devices.get? identity = some updated ∧
      updated.address = device.address ∧ updated.counterUp = device.counterUp ∧
      updated.options = device.options := by
  have unbegun : ¬ During (Begins identity) server calls :=
    not_during_of_forall fun call member _ begins => (others call member).1 begins.1
  have unheard : ¬ During (Hears identity) server calls :=
    not_during_of_forall fun call member _ hears => (others call member).2 hears.1
  obtain ⟨updated, remains, follows⟩ :=
    (owned_after consistent identity calls).remains device found
  refine ⟨updated, remains, ?_, ?_, follows.options⟩
  · by_contra changed
    exact unbegun (follows.address changed)
  · by_contra changed
    exact (follows.counterUp changed).elim unbegun unheard

/-- One exchange brings the record from the last counter of the device to the next. -/
theorem keepsUp_exchange (reachable : server.Reachable)
    (found : server.devices.get? identity = some device)
    (wide : device.options.wideCounter = true) {exchange : Exchange}
    (sound : exchange.Sound identity) (near : Near device.counterUp exchange.counter) :
    let looking := server.after exchange.before
    ∃ listed reply later updated,
      looking.Lists (exchange.question device.address) identity [listed] ∧
      listed.counterUp = device.counterUp ∧
      (looking.after exchange.meanwhile).uplink exchange.now (exchange.report listed.counterUp) =
        (.ok reply, later) ∧
      later.devices.get? identity = some updated ∧ updated.counterUp = exchange.counter ∧
      updated.address = device.address ∧ updated.options = device.options ∧ later.Reachable := by
  intro looking
  have lookingReachable : looking.Reachable := reachable.after exchange.before
  -- Three records: the one after the last uplink, the one that is told of and the one that the
  -- uplink finds. They agree in all that the counter is found from.
  obtain ⟨seen, foundSeen, sameAddress, sameCounter, sameOptions⟩ := kept_after
    reachable.consistent found fun call member => sound.others call (List.mem_append_left _ member)
  obtain ⟨sender, foundSender, stillAddress, stillCounter, stillOptions⟩ := kept_after
    lookingReachable.consistent foundSeen
    fun call member => sound.others call (List.mem_append_right _ member)
  have may : seen.maySend exchange.counter.toUInt16.toUInt32 = true :=
    maySend_of_near (sameOptions ▸ wide) (sameCounter ▸ near)
  have lists := lists_of_get? lookingReachable.consistent foundSeen device.address
    exchange.counter.toUInt16.toUInt32
  rw [if_pos ⟨sameAddress, may⟩] at lists
  obtain ⟨frame, data, decoded, carries⟩ := sound.frame
  have sendingReachable := lookingReachable.after exchange.meanwhile
  have read : (looking.after exchange.meanwhile).readUplink (exchange.report seen.counterUp) =
      .ok (sender, frame, data) :=
    readUplink_eq_ok_iff.mpr ⟨identity, identify_eq_ok_iff.mpr ⟨sound.appEui, sound.devEui⟩,
      Directory.get_eq_ok_iff.mpr foundSender, decoded, carries⟩
  obtain ⟨reply, _, done⟩ :=
    uplink_of_read sendingReachable.consistent exchange.now read foundSender
  have counter : wholeCounter seen.counterUp exchange.counter.toUInt16 = exchange.counter := by
    rw [sameCounter]
    exact wholeCounter_of_near near.1 near.2
  refine ⟨info seen, reply, _, heard sender exchange.now (exchange.report seen.counterUp) data,
    lists, sameCounter, done, ?_, counter, stillAddress.trans sameAddress,
    stillOptions.trans sameOptions, ?_⟩
  · rw [get?_withRecord, if_pos rfl]
  · have called := sendingReachable.called
      ⟨exchange.now, ⟨0, 0⟩, .uplink (exchange.report seen.counterUp)⟩
    rw [next, handle, done] at called
    exact called

/-- The record of a device follows it through any number of rounds of the lower half of its counter.
In every reachable state let a device with a wide counter send frames whose counters below 2³² grow
by less than 2¹⁶ each time, and let an exchange be made for each frame, with downlinks to the device,
requests of other devices and anything else on the way that neither activates the device nor brings
another uplink of it. Then the device is told of each time, and after each exchange the record has
the counter that the device had. -/
theorem record_follows_device (reachable : server.Reachable)
    (found : server.devices.get? identity = some device)
    (wide : device.options.wideCounter = true) (exchanges : List Exchange)
    (sound : ∀ exchange ∈ exchanges, exchange.Sound identity)
    (near : (device.counterUp :: exchanges.map (·.counter)).IsChain Near) :
    KeepsUp identity device.address server device.counterUp exchanges := by
  induction exchanges generalizing server device with
  | nil => trivial
  | cons exchange rest ih =>
    rw [List.map_cons, List.isChain_cons_cons] at near
    obtain ⟨listed, reply, later, updated, lists, told, done, foundLater, counter, address, options,
      reached⟩ := keepsUp_exchange reachable found wide (sound exchange List.mem_cons_self) near.1
    refine ⟨listed, reply, later, updated, lists, told, done, foundLater, counter, ?_⟩
    rw [← address, ← counter]
    refine ih reached foundLater (options ▸ wide)
      (fun exchange member => sound exchange (List.mem_cons_of_mem _ member)) ?_
    rw [counter]
    exact near.2

/-- Frames of a device whose lower half starts again twice, with a downlink before each call. -/
theorem record_follows_device_two_rounds :
    let device := { Device.unknown default with
      address := ⟨0x26010203⟩
      counterUp := 0x1FFFE
      options := ⟨true, false, ""⟩ }
    let server := { ofNetId Directory.empty 0 with devices := Directory.empty.write device }
    let send : Call := ⟨default, ⟨0, 0⟩, .downlink {
      payload := [0x60, 0, 0, 0, 0, 0, 0, 0, 0, 0, 0, 0]
      appEui := some default
      devEui := some default
      appId := ""
      devId := ""
      option := none }⟩
    let exchange (counter : UInt32) : Exchange := {
      before := [send]
      counter := counter
      meanwhile := [send]
      now := default
      message := {
        payload := [0x40, 0x03, 0x02, 0x01, 0x26, 0, 3, 0, 0, 0, 0, 0]
        appEui := some default
        devEui := some default
        appId := ""
        devId := ""
        metadata := none
        template := none }
      dataRate := "SF7BW125"
      codingRate := "4/5" }
    KeepsUp default device.address server 0x1FFFE
      [exchange 0x20003, exchange 0x2FFFF, exchange 0x30001] := by
  intro device server send exchange
  have wrote : (StoreWrite.set device []).call Directory.empty = .ok server.devices := rfl
  have sound (counter : UInt32) : (exchange counter).Sound default := by
    refine ⟨rfl, rfl, ⟨_, _, rfl, rfl⟩, ?_⟩
    intro call member
    obtain rfl | rfl := List.mem_pair.mp member
    · exact ⟨id, id⟩
    · exact ⟨id, id⟩
  have found : server.devices.get? default = some device := rfl
  refine record_follows_device (Reachable.written (.start 0) wrote) found rfl _ ?_ ?_
  · simp [sound]
  · simp [Near, device, exchange]

end Server

end LoRaNetwork
