import LoRaNetwork.Proofs.ServerRun

/-! Requests are all or nothing. Whatever a request asks of its message and of the records is checked
before the one write that it makes, and nothing that comes after the write can fail: a frame that
was read can be signed and written again with another address and counter, and the answer to an
uplink is a header alone. So a request that fails has changed nothing, and behind the checks the
only failure left is the store's own, which is passed on as it is. -/
namespace LoRaNetwork

/-- The bytes spell a data frame. -/
def SpellData (bytes : List UInt8) : Prop :=
  ∃ frame data, Frame.decode bytes = .ok frame ∧ frame.payload = .data data

/-- The activation has settings, and they say whose session begins, where and with which key. -/
def ActivationResponse.NamesSession (response : ActivationResponse) : Prop :=
  ∃ metadata settings, response.metadata = some metadata ∧ metadata.lorawan = some settings ∧
    settings.appEui ≠ none ∧ settings.devEui ≠ none ∧ settings.address ≠ none ∧
    settings.sessionKey ≠ none

namespace Server

variable {σ : Type} [DeviceStore σ] {store : Server σ} {server : Server Directory}

/-- Two identifiers that are both there name a stored device. -/
def Finds (store : Server σ) (appEui devEui : Option Eui) (device : Device) : Prop :=
  ∃ identity : Identity, appEui = some identity.appEui ∧ devEui = some identity.devEui ∧
    DeviceStore.get store.devices identity = .ok device

/-- What an uplink is checked for. -/
def PassesUplink (store : Server σ) (message : UplinkMessage) : Prop :=
  (∃ device, store.Finds message.appEui message.devEui device) ∧ SpellData message.payload

/-- What a downlink is checked for: it also has to name the application of the device. -/
def PassesDownlink (store : Server σ) (message : DownlinkMessage) : Prop :=
  (∃ device, store.Finds message.appEui message.devEui device ∧
    device.appId = message.appId ∧ device.devId = message.devId) ∧ SpellData message.payload

theorem passesUplink_iff {message : UplinkMessage} : store.PassesUplink message ↔
    ∃ device frame data, store.readUplink message = .ok (device, frame, data) := by
  constructor
  · rintro ⟨⟨device, identity, app, dev, found⟩, frame, data, read⟩
    exact ⟨device, frame, data,
      readUplink_eq_ok_iff.mpr ⟨identity, identify_eq_ok_iff.mpr ⟨app, dev⟩, found, read⟩⟩
  · rintro ⟨device, frame, data, ran⟩
    obtain ⟨identity, named, found, read⟩ := readUplink_eq_ok_iff.mp ran
    obtain ⟨app, dev⟩ := identify_eq_ok_iff.mp named
    exact ⟨⟨device, identity, app, dev, found⟩, frame, data, read⟩

theorem passesDownlink_iff {message : DownlinkMessage} : store.PassesDownlink message ↔
    ∃ device frame data, store.readDownlink message = .ok (device, frame, data) := by
  constructor
  · rintro ⟨⟨device, ⟨identity, app, dev, found⟩, own⟩, frame, data, read⟩
    exact ⟨device, frame, data,
      readDownlink_eq_ok_iff.mpr ⟨identity, identify_eq_ok_iff.mpr ⟨app, dev⟩, found, own, read⟩⟩
  · rintro ⟨device, frame, data, ran⟩
    obtain ⟨identity, named, found, own, read⟩ := readDownlink_eq_ok_iff.mp ran
    obtain ⟨app, dev⟩ := identify_eq_ok_iff.mp named
    exact ⟨⟨device, ⟨identity, app, dev, found⟩, own⟩, frame, data, read⟩

theorem namesSession_iff {response : ActivationResponse} : response.NamesSession ↔
    ∃ identity address key, session response = .ok (identity, address, key) := by
  obtain ⟨payload, metadata⟩ := response
  simp only [ActivationResponse.NamesSession, session]
  cases metadata with
  | none => simp
  | some metadata =>
    obtain ⟨settings⟩ := metadata
    cases settings with
    | none => simp
    | some settings =>
      obtain ⟨appEui, devEui, address, key⟩ := settings
      cases appEui <;> cases devEui <;> cases address <;> cases key <;> simp

/-- Once an activation names a session, only the store can fail it. -/
theorem activate_eq_committed (now : Instant) {response : ActivationResponse} {identity : Identity}
    {address : Address} {key : Key} (ran : session response = .ok (identity, address, key)) :
    store.activate now response = store.committed
      (DeviceStore.activate store.devices identity address key now) response := by
  rw [activate, ran]
  rfl

theorem readData_ne_frame (subject : Subject) (bytes : List UInt8) (cause : FrameError) :
    readData subject bytes ≠ .error (.frame cause) := by
  rw [readData]
  split
  · simp
  · split <;> simp

theorem identify_ne_frame (subject : Subject) (appEui devEui : Option Eui) (cause : FrameError) :
    identify subject appEui devEui ≠ .error (.frame cause) := by
  cases appEui <;> cases devEui <;> simp [identify]

theorem get_ne_frame (directory : Directory) (identity : Identity) (cause : FrameError) :
    DeviceStore.get directory identity ≠ .error (.frame cause) := by
  change directory.get identity ≠ _
  rw [Directory.get]
  split <;> simp

/-- A frame that cannot be read is the fault of the message, not of the server. -/
theorem readUplink_ne_frame (message : UplinkMessage) (cause : FrameError) :
    server.readUplink message ≠ .error (.frame cause) := by
  refine bind_ne_error (identify_ne_frame _ _ _ _) fun identity => ?_
  refine bind_ne_error (get_ne_frame _ _ _) fun device => ?_
  exact bind_ne_error (readData_ne_frame _ _ _) fun _ => nofun

theorem readDownlink_ne_frame (message : DownlinkMessage) (cause : FrameError) :
    server.readDownlink message ≠ .error (.frame cause) := by
  refine bind_ne_error (identify_ne_frame _ _ _ _) fun identity => ?_
  refine bind_ne_error (get_ne_frame _ _ _) fun device => ?_
  split
  · exact bind_ne_error (readData_ne_frame _ _ _) fun _ => nofun
  · exact nofun

/-- An answer that is an error leaves the server as it was. -/
theorem Effect.eq_of_error {now : Instant} {request : Request} {cause : Error}
    {next : Server Directory} (effect : Effect server now request (.error cause) next) :
    next = server := by
  cases effect
  rfl

/-- Over a directory in order, an uplink is answered when it passes its checks, and otherwise
refused for what the checks found. -/
theorem uplink_outcome (consistent : server.devices.Consistent) (now : Instant)
    (message : UplinkMessage) :
    (server.PassesUplink message ∧ ∃ reply, (server.uplink now message).1 = .ok reply) ∨
      (¬ server.PassesUplink message ∧ ∃ cause, server.uplink now message = (.error cause, server) ∧
        ∀ reason, cause ≠ .frame reason) := by
  rw [passesUplink_iff]
  cases ran : server.readUplink message with
  | error cause =>
    refine .inr ⟨by simp, cause, by rw [uplink, ran], ?_⟩
    rintro reason rfl
    exact readUplink_ne_frame message reason ran
  | ok read =>
    obtain ⟨device, frame, data⟩ := read
    obtain ⟨identity, _, stored, _⟩ := readUplink_eq_ok_iff.mp ran
    obtain ⟨reply, _, done⟩ := uplink_of_read consistent now ran (Directory.get_eq_ok_iff.mp stored)
    exact .inl ⟨⟨device, frame, data, rfl⟩, reply, by rw [done]⟩

/-- A downlink that passes its checks takes its counter and is signed with it, and any other is
refused for what the checks found. -/
theorem downlink_outcome (consistent : server.devices.Consistent) (message : DownlinkMessage) :
    (server.PassesDownlink message ∧ ∃ identity device bytes frame,
        server.devices.get? identity = some device ∧
        Frame.SignedWith device.sessionKey device.address device.counterDown frame bytes ∧
        server.downlink message = (.ok { message with payload := bytes },
          server.withRecord identity device (counted device))) ∨
      (¬ server.PassesDownlink message ∧ ∃ cause, server.downlink message = (.error cause, server) ∧
        ∀ reason, cause ≠ .frame reason) := by
  rw [passesDownlink_iff]
  cases ran : server.readDownlink message with
  | error cause =>
    refine .inr ⟨by simp, cause, by rw [downlink, ran], ?_⟩
    rintro reason rfl
    exact readDownlink_ne_frame message reason ran
  | ok read =>
    obtain ⟨device, frame, data⟩ := read
    obtain ⟨identity, _, stored, _⟩ := readDownlink_eq_ok_iff.mp ran
    have found := Directory.get_eq_ok_iff.mp stored
    obtain ⟨bytes, signed, _, correct, done⟩ := downlink_of_read consistent ran found
    exact .inl ⟨⟨device, frame, data, rfl⟩, identity, device, bytes, signed, found, correct, done⟩

/-- An activation that names a session begins it, and any other is refused. -/
theorem activate_outcome (server : Server Directory) (now : Instant)
    (response : ActivationResponse) :
    (response.NamesSession ∧ ∃ reply, (server.activate now response).1 = .ok reply) ∨
      (¬ response.NamesSession ∧ ∃ cause, server.activate now response = (.error cause, server)) := by
  rw [namesSession_iff]
  cases ran : session response with
  | error cause => exact .inr ⟨by simp, cause, by rw [activate, ran]⟩
  | ok named =>
    obtain ⟨identity, address, key⟩ := named
    exact .inl ⟨⟨identity, address, key, rfl⟩, response, by rw [activate_eq_committed now ran]; rfl⟩

/-- Requests that pass their checks are answered with the error that the store has for the one write
that each of them makes, and the server stays as it was. -/
structure PassesOn (store : Server σ) (refusal : StoreWrite → Error) : Prop where
  uplink : ∀ now message, store.PassesUplink message →
    ∃ device data, store.Finds message.appEui message.devEui device ∧ store.uplink now message =
      (.error (refusal (.set (heard device now message data) [.counterUp, .lastSeen])), store)
  downlink : ∀ message, store.PassesDownlink message →
    ∃ device, store.Finds message.appEui message.devEui device ∧
      store.downlink message = (.error (refusal (.set (counted device) [.counterDown])), store)
  activate : ∀ now response, response.NamesSession →
    ∃ identity address key, session response = .ok (identity, address, key) ∧
      store.activate now response = (.error (refusal (.activate identity address key now)), store)

/-- All that a request still needs once its checks are passed is its write. -/
theorem passesOn_of_refused {refusal : StoreWrite → Error}
    (refused : ∀ write, StoreWrite.call store.devices write = .error (refusal write)) :
    store.PassesOn refusal where
  uplink now message passes := by
    obtain ⟨device, frame, data, ran⟩ := passesUplink_iff.mp passes
    obtain ⟨identity, named, found, _⟩ := readUplink_eq_ok_iff.mp ran
    obtain ⟨app, dev⟩ := identify_eq_ok_iff.mp named
    obtain ⟨reply, _, done⟩ := uplink_eq_committed now ran
    have write := refused (.set (heard device now message data) [.counterUp, .lastSeen])
    refine ⟨device, data, ⟨identity, app, dev, found⟩, ?_⟩
    rw [done, ← StoreWrite.call, write, committed]
  downlink message passes := by
    obtain ⟨device, frame, data, ran⟩ := passesDownlink_iff.mp passes
    obtain ⟨identity, named, found, _⟩ := readDownlink_eq_ok_iff.mp ran
    obtain ⟨app, dev⟩ := identify_eq_ok_iff.mp named
    obtain ⟨bytes, _, _, _, done⟩ := downlink_eq_committed ran
    have write := refused (.set (counted device) [.counterDown])
    refine ⟨device, ⟨identity, app, dev, found⟩, ?_⟩
    rw [done, ← StoreWrite.call, write, committed]
  activate now response names := by
    obtain ⟨identity, address, key, ran⟩ := namesSession_iff.mp names
    have write := refused (.activate identity address key now)
    refine ⟨identity, address, key, ran, ?_⟩
    rw [activate_eq_committed now ran, ← StoreWrite.call, write, committed]

/-- Requests are all or nothing. In every reachable state an uplink succeeds exactly when it names a
stored device and spells a data frame, a downlink exactly when it also names the application of the
device, and an activation exactly when it names a whole session. A request that is answered with
an error, of whatever kind it is, leaves the server as it was. No uplink or downlink fails over
its frame: a downlink that changes anything is answered with a frame that is signed with the counter
it took. And over any store that refuses every write, a request that passes these checks is answered
with what the store says of its write, and nothing changes. -/
theorem requests_all_or_nothing (reachable : server.Reachable) :
    (∀ now message,
      (∃ reply, (server.uplink now message).1 = .ok reply) ↔ server.PassesUplink message) ∧
    (∀ message,
      (∃ reply, (server.downlink message).1 = .ok reply) ↔ server.PassesDownlink message) ∧
    (∀ now response,
      (∃ reply, (server.activate now response).1 = .ok reply) ↔ response.NamesSession) ∧
    (∀ call cause, server.answer call = .error cause → server.next call = server) ∧
    (∀ now message cause, (server.uplink now message).1 ≠ .error (.frame cause)) ∧
    (∀ message cause, (server.downlink message).1 ≠ .error (.frame cause)) ∧
    (∀ message, (server.downlink message).2 = server ∨ ∃ identity device bytes frame,
      server.devices.get? identity = some device ∧
      Frame.SignedWith device.sessionKey device.address device.counterDown frame bytes ∧
      server.downlink message = (.ok { message with payload := bytes },
        server.withRecord identity device (counted device))) ∧
    ∀ (σ : Type) [DeviceStore σ] (store : Server σ) (refusal : StoreWrite → Error),
      (∀ write, StoreWrite.call store.devices write = .error (refusal write)) →
        store.PassesOn refusal := by
  have consistent := reachable.consistent
  refine ⟨fun now message => ?_, fun message => ?_, fun now response => ?_, fun call cause failed => ?_,
    fun now message reason failed => ?_, fun message reason failed => ?_, fun message => ?_,
    fun _ _ _ _ refused => passesOn_of_refused refused⟩
  · rcases uplink_outcome consistent now message with ⟨passes, done⟩ | ⟨fails, cause, done, _⟩
    · simp [passes, done]
    · simp [fails, done]
  · rcases downlink_outcome consistent message with
      ⟨passes, _, _, _, _, _, _, done⟩ | ⟨fails, cause, done, _⟩
    · simp [passes, done]
    · simp [fails, done]
  · rcases activate_outcome server now response with ⟨names, done⟩ | ⟨fails, cause, done⟩
    · simp [names, done]
    · simp [fails, done]
  · exact (failed ▸ effect_call consistent call).eq_of_error
  · rcases uplink_outcome consistent now message with ⟨_, reply, done⟩ | ⟨_, cause, done, other⟩
    · cases done.symm.trans failed
    · rw [done] at failed
      exact other reason (Except.error.inj failed)
  · rcases downlink_outcome consistent message with
      ⟨_, _, _, _, _, _, _, done⟩ | ⟨_, cause, done, other⟩
    · rw [done] at failed
      cases failed
    · rw [done] at failed
      exact other reason (Except.error.inj failed)
  · rcases downlink_outcome consistent message with
      ⟨_, identity, device, bytes, frame, found⟩ | ⟨_, cause, done, _⟩
    · exact .inr ⟨identity, device, bytes, frame, found⟩
    · exact .inl (by rw [done])

/-- A downlink that is signed over a directory and refused over the same directory behind a guard
that lets only reads through. -/
theorem requests_all_or_nothing_read_only :
    let device := Device.unknown default
    let server := { ofNetId Directory.empty 0 with devices := Directory.empty.write device }
    let guarded : Server GuardedDirectory := ⟨server.registry, .readOnly, server.devices⟩
    let message : DownlinkMessage := {
      payload := [0x60, 0, 0, 0, 0, 0x01, 0, 0, 0x02, 0xFF, 0xAA, 0, 0, 0, 0]
      appEui := some default
      devEui := some default
      appId := ""
      devId := ""
      option := none }
    (∃ reply, (server.downlink message).1 = .ok reply) ∧
      guarded.downlink message = (.error (.store "read only"), guarded) := by
  intro device server guarded message
  have wrote : (StoreWrite.set device []).call Directory.empty = .ok server.devices := rfl
  obtain ⟨_, succeeds, _, _, _, _, _, passesOn⟩ :=
    requests_all_or_nothing (Reachable.written (.start 0) wrote)
  have spells : SpellData message.payload := ⟨_, _, rfl, rfl⟩
  have passes : server.PassesDownlink message :=
    ⟨⟨device, ⟨default, rfl, rfl, rfl⟩, rfl, rfl⟩, spells⟩
  have refused (write : StoreWrite) : write.call guarded.devices = .error (.store "read only") := by
    cases write <;> rfl
  obtain ⟨_, _, same⟩ := (passesOn GuardedDirectory guarded (fun _ => .store "read only")
    refused).downlink message ⟨⟨device, ⟨default, rfl, rfl, rfl⟩, rfl, rfl⟩, spells⟩
  exact ⟨(succeeds message).mpr passes, same⟩

end Server

end LoRaNetwork
