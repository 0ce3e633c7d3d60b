import LoRaNetwork.Proofs.ServerRun

/-! Devices do not interfere. Records stand side by side in one directory, share addresses and with
them lists of the index, but a request reaches the directory only through the identity that it
names. So two servers with the same prefixes and the same record of one device are alike for that device:
requests that name it are answered alike and leave them alike, and requests that name another, or
only look devices up, cannot tell them apart later. -/
namespace LoRaNetwork

namespace Request

/-- The identifiers by which a request says whose record it is about. -/
def identifiers : Request → Option Eui × Option Eui
  | .usePrefix _ _ | .devices _ => (none, none)
  | .prepare request => (request.appEui, request.devEui)
  | .activate response =>
    let settings := response.metadata.bind (·.lorawan)
    (settings.bind (·.appEui), settings.bind (·.devEui))
  | .uplink message => (message.appEui, message.devEui)
  | .downlink message => (message.appEui, message.devEui)

/-- The device that a request names, which takes both identifiers. -/
def named? (request : Request) : Option Identity :=
  match request.identifiers with
  | (some appEui, some devEui) => some ⟨appEui, devEui⟩
  | _ => none

/-- The request does not just look devices up and names no other device. -/
def concerns (identity : Identity) : Request → Bool
  | .devices _ => false
  | request => request.named?.all (· = identity)

variable {request : Request} {identity other : Identity} {appEui devEui : Option Eui}

theorem named?_eq_some_iff : request.named? = some identity ↔
    request.identifiers = (some identity.appEui, some identity.devEui) := by
  obtain ⟨app, dev⟩ := identity
  rw [named?]
  split
  · simp_all
  · rename_i incomplete
    constructor
    · intro never
      cases never
    · intro both
      exact absurd both (incomplete app dev)

theorem named?_of_identify {subject : Subject} (same : request.identifiers = (appEui, devEui))
    (ran : Server.identify subject appEui devEui = .ok identity) :
    request.named? = some identity := by
  obtain ⟨app, dev⟩ := Server.identify_eq_ok_iff.mp ran
  rw [named?_eq_some_iff, same, app, dev]

/-- A request that names a device concerns that device alone. -/
theorem concerns_iff_of_named (names : request.named? = some other) :
    request.concerns identity = true ↔ other = identity := by
  cases request with
  | devices => cases names
  | usePrefix | prepare | activate | uplink | downlink =>
    rw [concerns, names]
    · simp
    · nofun

/-- The settings of an activation that names a session have the identifiers of its device. -/
theorem named?_of_session {response : ActivationResponse} {address : Address} {key : Key}
    (ran : Server.session response = .ok (identity, address, key)) :
    (activate response).named? = some identity := by
  obtain ⟨payload, metadata⟩ := response
  rw [Server.session] at ran
  split at ran
  · cases ran
  · rename_i metadata present
    split at ran
    · cases ran
    · rename_i settings held
      split at ran
      · rename_i app dev _ _
        cases ran
        cases present
        apply named?_eq_some_iff.mpr
        simp [identifiers, held, app, dev]
      · cases ran

end Request

namespace Server

/-- The answers that those calls get in a run which concern a device. -/
def answersFor (server : Server Directory) (identity : Identity) (calls : List Call) :
    List (Except Error Reply) :=
  ((calls.zip (server.answers calls)).filter (·.1.request.concerns identity)).map Prod.snd

/-- Two servers are alike for a device: they have the same prefixes and the same record of it. -/
structure Alike (identity : Identity) (server other : Server Directory) : Prop where
  registry : server.registry = other.registry
  record : server.devices.get? identity = other.devices.get? identity

variable {server other : Server Directory} {identity : Identity}

theorem answersFor_cons (call : Call) (rest : List Call) :
    server.answersFor identity (call :: rest) =
      if call.request.concerns identity = true then
        server.answer call :: (server.next call).answersFor identity rest
      else (server.next call).answersFor identity rest := by
  rw [answersFor, answers, List.zip_cons_cons, List.filter_cons]
  split <;> rfl

/-- What a request does that concerns another device cannot be seen at this one. -/
theorem alike_next_of_foreign (consistent : server.devices.Consistent) {call : Call}
    (foreign : call.request.concerns identity = false) :
    Alike identity (server.next call) server := by
  have effect := effect_call consistent call
  have elsewhere {named : Identity} (names : call.request.named? = some named) :
      named ≠ identity := fun same =>
    Bool.eq_false_iff.mp foreign ((Request.concerns_iff_of_named names).mpr same)
  obtain ⟨now, draw, request⟩ := call
  generalize server.answer ⟨now, draw, request⟩ = answer at effect
  generalize server.next ⟨now, draw, request⟩ = next at effect ⊢
  dsimp only at effect foreign elsewhere
  -- The three requests that write do so at the device that they name, and only there.
  cases effect with
  | refused | listed | prepared => exact ⟨rfl, rfl⟩
  | registered => cases foreign
  | activated ran =>
    have apart := elsewhere (Request.named?_of_session ran)
    exact ⟨rfl, (Directory.get?_activate ..).trans (if_neg apart)⟩
  | uplinked named =>
    have apart := elsewhere (Request.named?_of_identify rfl named)
    exact ⟨rfl, (get?_withRecord ..).trans (if_neg apart)⟩
  | downlinked named =>
    have apart := elsewhere (Request.named?_of_identify rfl named)
    exact ⟨rfl, (get?_withRecord ..).trans (if_neg apart)⟩

/-- The record of the device that is named is found alike, and so is that there is none. -/
theorem Alike.identify_get (alike : Alike identity server other) {α : Type} {subject : Subject}
    {appEui devEui : Option Eui}
    (own : ∀ named, identify subject appEui devEui = .ok named → named = identity)
    (next : Identity → Device → Except Error α) :
    (do
      let named ← identify subject appEui devEui
      let device ← DeviceStore.get server.devices named
      next named device) =
    (do
      let named ← identify subject appEui devEui
      let device ← DeviceStore.get other.devices named
      next named device) := by
  cases names : identify subject appEui devEui with
  | error cause => rfl
  | ok named =>
    obtain rfl := own named names
    have same : DeviceStore.get server.devices named = DeviceStore.get other.devices named := by
      change server.devices.get named = other.devices.get named
      rw [Directory.get, Directory.get, alike.record]
    change (DeviceStore.get server.devices named >>= next named) = _
    rw [same]
    rfl

section Own

variable (alike : Alike identity server other)

include alike

theorem Alike.prepare {draw : Draw} {request : ActivationRequest}
    (own : ∀ named, identify .activation request.appEui request.devEui = .ok named →
      named = identity) : server.prepare draw request = other.prepare draw request := by
  rw [Server.prepare, Server.prepare, alike.registry]
  exact alike.identify_get own _

theorem Alike.activate (now : Instant) {response : ActivationResponse}
    (own : ∀ named address key, session response = .ok (named, address, key) → named = identity) :
    (server.activate now response).1 = (other.activate now response).1 ∧
      Alike identity (server.activate now response).2 (other.activate now response).2 := by
  rw [Server.activate, Server.activate]
  cases ran : session response with
  | error cause => exact ⟨rfl, alike⟩
  | ok started =>
    obtain ⟨named, address, key⟩ := started
    obtain rfl := own named address key ran
    refine ⟨rfl, alike.registry, ?_⟩
    change (server.devices.activate named address key now).get? named =
      (other.devices.activate named address key now).get? named
    rw [Directory.get?_activate, Directory.get?_activate, alike.record]

/-- Servers that are alike stay so when the record gets the same new value in both. -/
theorem Alike.withRecord (old new : Device) : Alike identity (server.withRecord identity old new)
    (other.withRecord identity old new) where
  registry := alike.registry
  record := by rw [get?_withRecord, get?_withRecord, if_pos rfl, if_pos rfl]

theorem Alike.uplink (consistent : server.devices.Consistent)
    (consistentOther : other.devices.Consistent) (now : Instant) {message : UplinkMessage}
    (own : ∀ named, identify .uplink message.appEui message.devEui = .ok named →
      named = identity) :
    (server.uplink now message).1 = (other.uplink now message).1 ∧
      Alike identity (server.uplink now message).2 (other.uplink now message).2 := by
  have same : server.readUplink message = other.readUplink message := alike.identify_get own _
  cases read : server.readUplink message with
  | error cause =>
    rw [Server.uplink, Server.uplink, ← same, read]
    exact ⟨rfl, alike⟩
  | ok parts =>
    obtain ⟨device, frame, data⟩ := parts
    obtain ⟨named, names, stored, _⟩ := readUplink_eq_ok_iff.mp read
    obtain rfl := own named names
    have found := Directory.get_eq_ok_iff.mp stored
    -- The reply and the new record depend on nothing but what both servers have read.
    obtain ⟨reply, answered, done⟩ := uplink_of_read consistent now read found
    obtain ⟨replyOther, answeredOther, doneOther⟩ :=
      uplink_of_read consistentOther now (same.symm.trans read) (alike.record.symm.trans found)
    rw [done, doneOther, Except.ok.inj (answered.symm.trans answeredOther)]
    exact ⟨rfl, alike.withRecord ..⟩

theorem Alike.downlink (consistent : server.devices.Consistent)
    (consistentOther : other.devices.Consistent) {message : DownlinkMessage}
    (own : ∀ named, identify .downlink message.appEui message.devEui = .ok named →
      named = identity) :
    (server.downlink message).1 = (other.downlink message).1 ∧
      Alike identity (server.downlink message).2 (other.downlink message).2 := by
  have same : server.readDownlink message = other.readDownlink message := alike.identify_get own _
  cases read : server.readDownlink message with
  | error cause =>
    rw [Server.downlink, Server.downlink, ← same, read]
    exact ⟨rfl, alike⟩
  | ok parts =>
    obtain ⟨device, frame, data⟩ := parts
    obtain ⟨named, names, stored, _⟩ := readDownlink_eq_ok_iff.mp read
    obtain rfl := own named names
    have found := Directory.get_eq_ok_iff.mp stored
    obtain ⟨bytes, _, signs, _, done⟩ := downlink_of_read consistent read found
    obtain ⟨bytesOther, _, signsOther, _, doneOther⟩ :=
      downlink_of_read consistentOther (same.symm.trans read) (alike.record.symm.trans found)
    rw [done, doneOther, Except.ok.inj (signs.symm.trans signsOther)]
    exact ⟨rfl, alike.withRecord ..⟩

/-- A request that names the device, or none, is answered alike and leaves the servers alike. -/
theorem Alike.call (consistent : server.devices.Consistent)
    (consistentOther : other.devices.Consistent) {call : Call}
    (own : call.request.concerns identity = true) :
    server.answer call = other.answer call ∧
      Alike identity (server.next call) (other.next call) := by
  obtain ⟨now, draw, request⟩ := call
  dsimp only [answer, next] at own ⊢
  have named {subject : Subject} {appEui devEui : Option Eui}
      (same : request.identifiers = (appEui, devEui)) (named : Identity)
      (ran : identify subject appEui devEui = .ok named) : named = identity :=
    (Request.concerns_iff_of_named (Request.named?_of_identify same ran)).mp own
  cases request with
  | usePrefix range usages =>
    rw [handle, handle, usePrefix, usePrefix, alike.registry]
    cases other.registry.register range usages with
    | error cause => exact ⟨rfl, alike⟩
    | ok registry => exact ⟨rfl, rfl, alike.record⟩
  | devices => cases own
  | prepare request =>
    rw [handle, handle, alike.prepare (named rfl)]
    exact ⟨rfl, alike⟩
  | activate response =>
    obtain ⟨answers, alike⟩ := alike.activate now fun started address key ran =>
      (Request.concerns_iff_of_named (Request.named?_of_session ran)).mp own
    rw [handle, handle]
    exact ⟨congrArg (Except.map Reply.activated) answers, alike⟩
  | uplink message =>
    obtain ⟨answers, alike⟩ := alike.uplink consistent consistentOther now (named rfl)
    rw [handle, handle]
    exact ⟨congrArg (Except.map Reply.uplink) answers, alike⟩
  | downlink message =>
    obtain ⟨answers, alike⟩ := alike.downlink consistent consistentOther (named rfl)
    rw [handle, handle]
    exact ⟨congrArg (Except.map Reply.downlink) answers, alike⟩

end Own

/-- Two runs, one with all calls and one with those alone that concern the device, by induction on
the calls: a call that both make keeps the servers alike, and so does one that only the first
makes. -/
theorem Alike.run (alike : Alike identity server other) (consistent : server.devices.Consistent)
    (consistentOther : other.devices.Consistent) (calls : List Call) :
    other.answers (calls.filter (·.request.concerns identity)) =
        server.answersFor identity calls ∧
      Alike identity (server.after calls)
        (other.after (calls.filter (·.request.concerns identity))) := by
  induction calls generalizing server other with
  | nil => exact ⟨rfl, alike⟩
  | cons call rest ih =>
    have left := (effect_call consistent call).consistent consistent
    rw [answersFor_cons, List.filter_cons]
    cases own : call.request.concerns identity with
    | false =>
      have unseen := alike_next_of_foreign consistent own
      exact ih ⟨unseen.registry.trans alike.registry, unseen.record.trans alike.record⟩ left
        consistentOther
    | true =>
      have leftOther := (effect_call consistentOther call).consistent consistentOther
      obtain ⟨answered, still⟩ := alike.call consistent consistentOther own
      obtain ⟨answers, after⟩ := ih still left leftOther
      refine ⟨?_, after⟩
      rw [if_pos rfl, if_pos rfl, Server.answers, answers, answered]

/-- Devices do not interfere. In every reachable state and for every device, take any run away from
which all lookups and all requests that name another device have been removed. Each request that is
left gets the answer that it gets in the whole run, and the record of the device ends as it does
there, whoever else has its address. -/
theorem devices_do_not_interfere (reachable : server.Reachable) (identity : Identity)
    (calls : List Call) :
    let own := calls.filter (·.request.concerns identity)
    server.answers own = server.answersFor identity calls ∧
      (server.after own).devices.get? identity = (server.after calls).devices.get? identity := by
  have consistent := reachable.consistent
  have itself : Alike identity server server := ⟨rfl, rfl⟩
  obtain ⟨answers, alike⟩ := itself.run consistent consistent calls
  exact ⟨answers, alike.record.symm⟩

/-- Of two devices at one address the other sends and joins elsewhere between two downlinks. -/
theorem devices_do_not_interfere_shared_address :
    let neighbour : Identity := ⟨default, ⟨⟨[0, 0, 0, 0, 0, 0, 0, 1], rfl⟩⟩⟩
    let device := { Device.unknown default with address := ⟨0x26010203⟩, counterDown := 7 }
    let beside := { Device.unknown neighbour with address := ⟨0x26010203⟩ }
    let server := { ofNetId Directory.empty 0 with
      devices := (Directory.empty.write device).write beside }
    let hear : Call := ⟨default, ⟨0, 0⟩, .uplink {
      payload := [0x40, 0x03, 0x02, 0x01, 0x26, 0, 5, 0, 0, 0, 0, 0]
      appEui := some neighbour.appEui
      devEui := some neighbour.devEui
      appId := ""
      devId := ""
      metadata := none
      template := none }⟩
    let join : Call := ⟨default, ⟨0, 0⟩, .activate ⟨[], some ⟨some {
      appEui := some neighbour.appEui
      devEui := some neighbour.devEui
      address := some ⟨0x26040506⟩
      sessionKey := some default
      rx1DataRateOffset := 0
      rx2DataRate := 0
      rxDelay := 0
      channels := [] }⟩⟩⟩
    let look : Call := ⟨default, ⟨0, 0⟩, .devices ⟨some ⟨0x26010203⟩, 5⟩⟩
    let send : Call := ⟨default, ⟨0, 0⟩, .downlink {
      payload := [0x60, 0, 0, 0, 0, 0, 0, 0, 0, 0, 0, 0]
      appEui := some default
      devEui := some default
      appId := ""
      devId := ""
      option := none }⟩
    let calls := [hear, send, join, look, send]
    server.answers [send, send] = server.answersFor default calls ∧
      (server.after calls).devices.get? default = some { device with counterDown := 9 } := by
  intro neighbour device beside server hear join look send calls
  have wrote : (StoreWrite.set device []).call Directory.empty =
      .ok (Directory.empty.write device) := rfl
  have wroteBeside : (StoreWrite.set beside []).call (Directory.empty.write device) =
      .ok server.devices := rfl
  have reachable : server.Reachable := ((Reachable.start 0).written wrote).written wroteBeside
  obtain ⟨answers, record⟩ := devices_do_not_interfere reachable default calls
  have counted : (server.after [send, send]).devices.get? default =
      some { device with counterDown := 9 } := by decide
  exact ⟨answers, record.symm.trans counted⟩

end Server

end LoRaNetwork
