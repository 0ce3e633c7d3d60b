import LoRaNetwork.Proofs.ServerRun

/-! The answer that an uplink prepares and the downlink that is made of it. The frame is built twice,
once from the uplink and the record and once from the bytes of the first, with the address and the
counter of the record written over its own. The two agree: the counter is the one that is there
already, so signing puts the address and the code in their places and leaves every other byte. -/
namespace LoRaNetwork

namespace DownlinkMessage

/-- How the downlink is to be sent, if all that leads there is present. -/
def transmission (message : DownlinkMessage) : Option Transmission :=
  (message.option.bind (·.protocol)).bind (·.lorawan)

/-- The counter is set where there is one to be set. -/
theorem transmission_withCounter (message : DownlinkMessage) (counter : UInt32) :
    (message.withCounter counter).transmission =
      message.transmission.map fun sending => { sending with counter := counter } := by
  unfold withCounter transmission
  cases message.option with
  | none => rfl
  | some option =>
    obtain ⟨identifier, gateway, protocol⟩ := option
    cases protocol with
    | none => rfl
    | some protocol => rfl

end DownlinkMessage

/-- The bytes of a frame with an address in place of the four behind the first byte and a code in
place of the last four. -/
def readdress (address : Address) (mic : Octets 4) (bytes : List UInt8) : List UInt8 :=
  bytes.take 1 ++ littleEndian 4 address.word ++ (bytes.drop 5).take (bytes.length - 9) ++ mic.toList

/-- The address of a header can be written over: nothing else in it depends on the address. -/
theorem readdress_header (header : FrameHeader) (address : Address) (first : UInt8)
    (old new : Octets 4) : readdress address new (first :: (header.encode ++ old.toList)) =
      first :: (({ header with address := address } : FrameHeader).encode ++ new.toList) := by
  obtain ⟨before, control, counter, options⟩ := header
  obtain ⟨rest, same⟩ : ∃ rest, rest = [control.encode options.bytes.length] ++
      littleEndian 2 counter ++ options.bytes := ⟨_, rfl⟩
  have layout (address : Address) : FrameHeader.encode ⟨address, control, counter, options⟩ =
      littleEndian 4 address.word ++ rest := by
    simp only [FrameHeader.encode, same, List.append_assoc]
  have four : (littleEndian 4 before.word).length = 4 := length_littleEndian 4 _
  rw [layout, layout, readdress]
  have behind : (first :: (littleEndian 4 before.word ++ rest ++ old.toList)).drop 5 =
      rest ++ old.toList := by
    rw [List.drop_succ_cons, List.append_assoc, List.drop_left' four]
  have length : (first :: (littleEndian 4 before.word ++ rest ++ old.toList)).length - 9 =
      rest.length := by
    simp only [List.length_cons, List.length_append, four, old.length_toList]
    omega
  rw [behind, length, List.take_left]
  simp

namespace Frame

/-- A downlink that carries no commands, port or data and does not ask to be acknowledged itself. -/
structure BareDown (frame : Frame) (acknowledges : Prop) : Prop where
  type : frame.type = .unconfirmedDataDown
  bare : ∃ data, frame.payload = .data data ∧ data.header.options.bytes = [] ∧
    data.port = none ∧ data.content = [] ∧
    (data.header.control.acknowledge = true ↔ acknowledges)

end Frame

namespace Server

variable {server later : Server Directory} {device : Device} {uplink : Frame} {data : DataPayload}

/-- A downlink made of an answer is the answer with the address of the record and the code of its
key. The counter that the record has is the one that the answer was given. -/
theorem signDownlink_answer (device : Device) (uplink : Frame) (data : DataPayload)
    (message : DownlinkMessage) {bytes : List UInt8}
    (wrote : (answerFrame device uplink data).encode = .ok bytes) : ∃ frame,
    signDownlink device (answerFrame device uplink data).received
        (DataPayload.ofHeader (answerHeader device uplink data)).received message =
      .ok { message with payload := readdress device.address frame.mic bytes } ∧
    Frame.SignedWith device.sessionKey device.address device.counterDown frame
      (readdress device.address frame.mic bytes) ∧
    frame.BareDown (uplink.type = .confirmedDataUp) := by
  obtain ⟨mic, signs, correct⟩ := Frame.sign_headerDown
    { answerHeader device uplink data with address := device.address } (.zero 4) device.sessionKey
  rw [answerFrame_eq, Frame.encode_headerDown] at wrote
  cases wrote
  have placed := readdress_header (answerHeader device uplink data) device.address
    MessageType.unconfirmedDataDown.header (.zero 4) mic
  rw [← placed] at signs correct
  refine ⟨_, ?_, correct, rfl, _, rfl, rfl, rfl, rfl, beq_iff_eq⟩
  unfold signDownlink
  have same : addressed device (answerFrame device uplink data).received
      (DataPayload.ofHeader (answerHeader device uplink data)).received = .headerDown
        { answerHeader device uplink data with address := device.address } (.zero 4) := rfl
  rw [same, signs]
  rfl

/-- What an uplink is answered with, when it brings a template. -/
theorem answerUplink_eq_ok_iff {message reply : UplinkMessage} {offered : DownlinkMessage}
    (template : message.template = some offered) :
    answerUplink device uplink data message = .ok reply ↔ ∃ bytes,
      (answerFrame device uplink data).encode = .ok bytes ∧
      reply = { message with template := some (fill offered device message bytes) } := by
  unfold answerUplink
  rw [template]
  dsimp only
  cases (answerFrame device uplink data).encode with
  | error cause => simp
  | ok bytes => simp [eq_comm]

/-- What an uplink that succeeds has done: the device that it names is stored, its frame was read, the
message is answered from the two, and the record is the one after the uplink. -/
theorem recorded_of_uplink (consistent : server.devices.Consistent) {now : Instant}
    {message reply : UplinkMessage} (ran : server.uplink now message = (.ok reply, later)) :
    ∃ identity device frame data,
      identify .uplink message.appEui message.devEui = .ok identity ∧
      server.devices.get? identity = some device ∧
      Frame.decode message.payload = .ok frame ∧ frame.payload = .data data ∧
      answerUplink (heard device now message data) frame data message = .ok reply ∧
      later = server.withRecord identity device (heard device now message data) := by
  obtain ⟨device, frame, data, read⟩ := read_of_uplink (congrArg Prod.fst ran)
  obtain ⟨identity, named, stored, decoded, carries⟩ := readUplink_eq_ok_iff.mp read
  have found := Directory.get_eq_ok_iff.mp stored
  obtain ⟨answer, answered, done⟩ := uplink_of_read consistent now read found
  cases done.symm.trans ran
  exact ⟨identity, device, frame, data, named, found, decoded, carries, answered, rfl⟩

/-- Only downlinks that name the application of their device are sent. -/
theorem application_of_downlink {identity : Identity} {message sent : DownlinkMessage}
    (named : identify .downlink message.appEui message.devEui = .ok identity)
    (found : server.devices.get? identity = some device)
    (ran : (server.downlink message).1 = .ok sent) :
    device.appId = message.appId ∧ device.devId = message.devId := by
  obtain ⟨other, frame, data, read⟩ := read_of_downlink ran
  obtain ⟨receiver, namedToo, stored, own, _⟩ := readDownlink_eq_ok_iff.mp read
  cases named.symm.trans namedToo
  cases found.symm.trans (Directory.get_eq_ok_iff.mp stored)
  exact own

/-- The downlink that an answer becomes when it names the application of its device. -/
theorem downlink_of_answer (consistent : server.devices.Consistent) {identity : Identity}
    (message : DownlinkMessage)
    (named : identify .downlink message.appEui message.devEui = .ok identity)
    (found : server.devices.get? identity = some device)
    (own : device.appId = message.appId ∧ device.devId = message.devId)
    (wrote : (answerFrame device uplink data).encode = .ok message.payload) : ∃ frame,
    (server.downlink message).1 =
      .ok { message with payload := readdress device.address frame.mic message.payload } ∧
    Frame.SignedWith device.sessionKey device.address device.counterDown frame
      (readdress device.address frame.mic message.payload) ∧
    frame.BareDown (uplink.type = .confirmedDataUp) := by
  have read : server.readDownlink message = .ok (device, (answerFrame device uplink data).received,
      (DataPayload.ofHeader (answerHeader device uplink data)).received) :=
    readDownlink_eq_ok_iff.mpr ⟨identity, named, Directory.get_eq_ok_iff.mpr found, own,
      Frame.decode_of_encode wrote, rfl⟩
  obtain ⟨frame, signs, correct, bare⟩ := signDownlink_answer device uplink data message wrote
  obtain ⟨bytes, _, signsToo, _, done⟩ := downlink_of_read consistent read found
  refine ⟨frame, ?_, correct, bare⟩
  rw [done, ← signsToo, signs]

/-- The answer to an uplink and the downlink made of it agree. In every reachable state, when an
uplink with a template succeeds, the template comes back with the counter of the next downlink
wherever it has settings to hold one. Passed on as a downlink at once, it succeeds exactly when the
uplink named the application of its device. What is sent then is the template, in whose frame only
the address and the code have been replaced: the address by that of the record, and the code by the
one that its key gives with the whole counter. The frame shows the lower half of that counter, is
bare, and acknowledges the uplink exactly when it asked for that. -/
theorem answer_becomes_downlink (reachable : server.Reachable) {now : Instant}
    {message reply : UplinkMessage} {offered : DownlinkMessage}
    (template : message.template = some offered)
    (ran : server.uplink now message = (.ok reply, later)) :
    ∃ identity device uplink filled,
      identify .uplink message.appEui message.devEui = .ok identity ∧
      server.devices.get? identity = some device ∧
      Frame.decode message.payload = .ok uplink ∧
      reply.template = some filled ∧
      filled.transmission = offered.transmission.map
        (fun sending => { sending with counter := device.counterDown }) ∧
      ((∃ sent, (later.downlink filled).1 = .ok sent) ↔
        device.appId = message.appId ∧ device.devId = message.devId) ∧
      ∀ sent, (later.downlink filled).1 = .ok sent → ∃ frame,
        sent = { filled with payload := readdress device.address frame.mic filled.payload } ∧
        Frame.SignedWith device.sessionKey device.address device.counterDown frame sent.payload ∧
        frame.BareDown (uplink.type = .confirmedDataUp) := by
  have consistent := reachable.consistent
  obtain ⟨identity, device, uplink, data, named, found, decoded, _, answered, rfl⟩ :=
    recorded_of_uplink consistent ran
  obtain ⟨bytes, wrote, rfl⟩ := (answerUplink_eq_ok_iff template).mp answered
  -- The record has moved on meanwhile, but in nothing that a downlink looks at.
  have moved : (server.withRecord identity device (heard device now message data)).devices.get?
      identity = some (heard device now message data) := by
    rw [get?_withRecord, if_pos rfl]
  have consistentLater : (server.withRecord identity device
      (heard device now message data)).devices.Consistent := consistent.replace found rfl
  have receiver : identify .downlink message.appEui message.devEui = .ok identity :=
    identify_eq_ok_iff.mpr (identify_eq_ok_iff.mp named)
  refine ⟨identity, device, uplink, _, named, found, decoded, rfl,
    offered.transmission_withCounter device.counterDown, ⟨?_, ?_⟩, ?_⟩
  · rintro ⟨sent, sends⟩
    exact application_of_downlink receiver moved sends
  · intro own
    obtain ⟨frame, sends, _⟩ := downlink_of_answer consistentLater
      (fill offered device message bytes) receiver moved own wrote
    exact ⟨_, sends⟩
  · intro sent sends
    have own := application_of_downlink receiver moved sends
    obtain ⟨frame, sendsToo, correct, bare⟩ := downlink_of_answer consistentLater
      (fill offered device message bytes) receiver moved own wrote
    cases sends.symm.trans sendsToo
    exact ⟨frame, rfl, correct, bare⟩

/-- The answer to a confirmed uplink from an old address, at a counter whose lower half is at its
end. -/
theorem answer_becomes_downlink_old_address :
    let device := { Device.unknown default with address := ⟨0x26010203⟩, counterDown := 0x1FFFF }
    let server := { ofNetId Directory.empty 0 with devices := Directory.empty.write device }
    let offered : DownlinkMessage := {
      payload := []
      appEui := none
      devEui := none
      appId := "app"
      devId := ""
      option := some ⟨"", "gateway", some ⟨some ⟨0, "SF7BW125", "4/5"⟩⟩⟩ }
    let message : UplinkMessage := {
      payload := [0x80, 0x11, 0x22, 0x33, 0x26, 0, 1, 0, 0, 0, 0, 0]
      appEui := some default
      devEui := some default
      appId := ""
      devId := ""
      metadata := none
      template := some offered }
    let filled : DownlinkMessage := {
      payload := [0x60, 0x11, 0x22, 0x33, 0x26, 0x20, 0xFF, 0xFF, 0, 0, 0, 0]
      appEui := some default
      devEui := some default
      appId := ""
      devId := ""
      option := some ⟨"", "gateway", some ⟨some ⟨0x1FFFF, "SF7BW125", "4/5"⟩⟩⟩ }
    (server.uplink default message).1 = .ok { message with template := some filled } ∧
      ∃ sent frame, ((server.uplink default message).2.downlink filled).1 = .ok sent ∧
        sent.payload = [0x60, 0x03, 0x02, 0x01, 0x26, 0x20, 0xFF, 0xFF] ++ frame.mic.toList ∧
        Frame.SignedWith device.sessionKey device.address 0x1FFFF frame sent.payload := by
  intro device server offered message filled
  have wrote : (StoreWrite.set device []).call Directory.empty = .ok server.devices := rfl
  have template : message.template = some offered := rfl
  have answered : (server.uplink default message).1 =
      .ok { message with template := some filled } := by decide
  obtain ⟨identity, stored, uplink, _, named, found, _, held, _, sends, agrees⟩ :=
    answer_becomes_downlink (Reachable.written (.start 0) wrote) template (Prod.ext answered rfl)
  cases named
  cases held
  obtain rfl : device = stored := Option.some.inj found
  obtain ⟨sent, ran⟩ := sends.mpr ⟨rfl, rfl⟩
  obtain ⟨frame, rfl, correct, _⟩ := agrees sent ran
  have front : filled.payload.take 1 ++ littleEndian 4 device.address.word ++
      (filled.payload.drop 5).take (filled.payload.length - 9) =
        [0x60, 0x03, 0x02, 0x01, 0x26, 0x20, 0xFF, 0xFF] := by decide
  exact ⟨answered, _, frame, ran, congrArg (· ++ frame.mic.toList) front, correct⟩

end Server

end LoRaNetwork
