import LoRaNetwork.Proofs.DownlinkSession

/-! Who may change what. A record has fields that only an activation of its device changes, fields
that its uplinks change too and one that its downlinks change too; all else about a device is never
changed by a request, and no request removes a record or touches that of another device. One call is
described by what becomes of a record in it, from which the rule for each field can be read; the rules
are kept when calls follow each other, so they hold of whole runs. -/
namespace LoRaNetwork

namespace Request

/-- The request is an uplink of a device. -/
def UplinkOf (identity : Identity) : Request → Prop
  | .uplink message =>
    message.appEui = some identity.appEui ∧ message.devEui = some identity.devEui
  | _ => False

/-- The request is a downlink to a device. -/
def DownlinkTo (identity : Identity) : Request → Prop
  | .downlink message =>
    message.appEui = some identity.appEui ∧ message.devEui = some identity.devEui
  | _ => False

end Request

namespace Server

def Succeeds (server : Server Directory) (call : Call) : Prop :=
  ∃ reply, server.answer call = .ok reply

/-- The call begins a session of a device. -/
def Begins (identity : Identity) (server : Server Directory) (call : Call) : Prop :=
  call.request.Activates identity ∧ server.Succeeds call

/-- The call records an uplink of a device. -/
def Hears (identity : Identity) (server : Server Directory) (call : Call) : Prop :=
  call.request.UplinkOf identity ∧ server.Succeeds call

/-- The call signs a downlink to a device. -/
def Sends (identity : Identity) (server : Server Directory) (call : Call) : Prop :=
  call.request.DownlinkTo identity ∧ server.Succeeds call

/-- What becomes of the record of a device in one call. -/
inductive Fate (identity : Identity) (server : Server Directory) (call : Call) :
    Option Device → Option Device → Prop where
  | kept {record : Option Device} :
      ¬ Begins identity server call → ¬ Hears identity server call → ¬ Sends identity server call →
      Fate identity server call record record
  | begun {record : Option Device} {address : Address} {key : Key} :
      Begins identity server call → ¬ Sends identity server call →
      Fate identity server call record
        (some ((record.getD (.unknown identity)).join address key call.now))
  | heard {device : Device} {message : UplinkMessage} {data : DataPayload} :
      ¬ Begins identity server call → Hears identity server call → ¬ Sends identity server call →
      Fate identity server call (some device) (some (Server.heard device call.now message data))
  | sent {device : Device} :
      ¬ Begins identity server call → Sends identity server call →
      Fate identity server call (some device) (some (counted device))

/-- What a record may have become, by what has happened to its device meanwhile. -/
structure Follows (begun heard sent : Prop) (old new : Device) : Prop where
  identity : new.identity = old.identity
  appId : new.appId = old.appId
  devId : new.devId = old.devId
  options : new.options = old.options
  address : new.address ≠ old.address → begun
  sessionKey : new.sessionKey ≠ old.sessionKey → begun
  counterDown : new.counterDown ≠ old.counterDown → begun ∨ sent
  counterUp : new.counterUp ≠ old.counterUp → begun ∨ heard
  lastSeen : new.lastSeen ≠ old.lastSeen → begun ∨ heard

/-- The rules for a record that may be missing: a record stays, and only the beginning of a session
makes one, which belongs to no application and has no options. -/
structure Owned (begun heard sent : Prop) (old new : Option Device) : Prop where
  remains : ∀ device, old = some device →
    ∃ updated, new = some updated ∧ Follows begun heard sent device updated
  appears : ∀ updated, old = none → new = some updated →
    begun ∧ updated.appId = "" ∧ updated.devId = "" ∧ updated.options = ⟨false, false, ""⟩

/-- The rules for one call. Beside those for any change: a session begins with its downlink counter
at zero, a downlink moves it by one, and looking up devices or preparing an activation changes
nothing at all. -/
structure Obeys (identity : Identity) (server : Server Directory) (call : Call) : Prop where
  owned : Owned (Begins identity server call) (Hears identity server call)
    (Sends identity server call) (server.devices.get? identity)
    ((server.next call).devices.get? identity)
  restarted : Begins identity server call →
    ∃ updated, (server.next call).devices.get? identity = some updated ∧ updated.counterDown = 0
  advanced : Sends identity server call → ∃ device updated,
    server.devices.get? identity = some device ∧
      (server.next call).devices.get? identity = some updated ∧
      updated.counterDown.toNat = (device.counterDown.toNat + 1) % 0x100000000
  looks : ∀ request, call.request = .devices request → server.next call = server
  prepares : ∀ request, call.request = .prepare request → server.next call = server

/-- Every call of a run does something. -/
def Throughout (law : Server Directory → Call → Prop) (server : Server Directory) :
    List Call → Prop
  | [] => True
  | call :: rest => law server call ∧ Throughout law (server.next call) rest

/-- Some call of a run does something. -/
def During (event : Server Directory → Call → Prop) (server : Server Directory) :
    List Call → Prop
  | [] => False
  | call :: rest => event server call ∨ During event (server.next call) rest

variable {server : Server Directory} {identity : Identity} {call : Call}

/-- A record changes when its device is activated, heard or sent to, and then in these ways. -/
theorem fate_call (consistent : server.devices.Consistent) (identity : Identity) (call : Call) :
    Fate identity server call (server.devices.get? identity)
      ((server.next call).devices.get? identity) := by
  have effect := effect_call consistent call
  obtain ⟨now, draw, request⟩ := call
  generalize server.next ⟨now, draw, request⟩ = next at effect ⊢
  generalize answered : server.answer ⟨now, draw, request⟩ = answer at effect
  dsimp only at effect
  -- In each case a request of another kind is none of these events, by the first half of the event.
  cases effect with
  | refused cause =>
    have fails : ¬ server.Succeeds ⟨now, draw, request⟩ := by
      rintro ⟨reply, done⟩
      cases answered.symm.trans done
    exact .kept (fun begun => fails begun.2) (fun heard => fails heard.2) fun sent => fails sent.2
  | registered | listed | prepared => exact .kept And.left And.left And.left
  | @activated response started address key ran =>
    rw [Directory.get?_activate]
    split
    · rename_i own
      subst own
      exact .begun ⟨⟨address, key, ran⟩, _, answered⟩ And.left
    · rename_i other
      refine .kept ?_ And.left And.left
      rintro ⟨⟨_, _, own⟩, _⟩
      cases ran.symm.trans own
      exact other rfl
  | @uplinked message reply sender device frame data named found =>
    rw [get?_withRecord]
    split
    · rename_i own
      subst own
      rw [found]
      exact .heard And.left ⟨identify_eq_ok_iff.mp named, _, answered⟩ And.left
    · rename_i other
      refine .kept And.left ?_ And.left
      rintro ⟨own, _⟩
      exact other (Except.ok.inj (named.symm.trans (identify_eq_ok_iff.mpr own)))
  | @downlinked message receiver device frame signed data bytes named found =>
    rw [get?_withRecord]
    split
    · rename_i own
      subst own
      rw [found]
      exact .sent And.left ⟨identify_eq_ok_iff.mp named, _, answered⟩
    · rename_i other
      refine .kept And.left And.left ?_
      rintro ⟨own, _⟩
      exact other (Except.ok.inj (named.symm.trans (identify_eq_ok_iff.mpr own)))

section Rules

variable {begun heard sent begunThen heardThen sentThen : Prop}

theorem Follows.refl (device : Device) : Follows begun heard sent device device where
  identity := rfl
  appId := rfl
  devId := rfl
  options := rfl
  address changed := absurd rfl changed
  sessionKey changed := absurd rfl changed
  counterDown changed := absurd rfl changed
  counterUp changed := absurd rfl changed
  lastSeen changed := absurd rfl changed

/-- What is another in the end has changed in one of two steps, for the reason of that step. -/
private theorem changed_once {α : Type} {old middle new : α} {reason reasonThen : Prop}
    (step : middle ≠ old → reason) (stepThen : new ≠ middle → reasonThen) (changed : new ≠ old) :
    reason ∨ reasonThen := by
  rcases changed.ne_or_ne middle with last | once
  · exact .inr (stepThen last)
  · exact .inl (step once.symm)

theorem Follows.trans {old middle new : Device} (first : Follows begun heard sent old middle)
    (second : Follows begunThen heardThen sentThen middle new) :
    Follows (begun ∨ begunThen) (heard ∨ heardThen) (sent ∨ sentThen) old new where
  identity := second.identity.trans first.identity
  appId := second.appId.trans first.appId
  devId := second.devId.trans first.devId
  options := second.options.trans first.options
  address := changed_once first.address second.address
  sessionKey := changed_once first.sessionKey second.sessionKey
  counterDown changed :=
    or_or_or_comm.mp (changed_once first.counterDown second.counterDown changed)
  counterUp changed := or_or_or_comm.mp (changed_once first.counterUp second.counterUp changed)
  lastSeen changed := or_or_or_comm.mp (changed_once first.lastSeen second.lastSeen changed)

theorem Owned.refl (record : Option Device) : Owned begun heard sent record record where
  remains device found := ⟨device, found, .refl device⟩
  appears updated missing found := by
    rw [missing] at found
    cases found

/-- The rules are kept when changes follow each other: what has appeared on the way remains. -/
theorem Owned.trans {old middle new : Option Device} (first : Owned begun heard sent old middle)
    (second : Owned begunThen heardThen sentThen middle new) :
    Owned (begun ∨ begunThen) (heard ∨ heardThen) (sent ∨ sentThen) old new where
  remains device found := by
    obtain ⟨between, foundThen, follows⟩ := first.remains device found
    obtain ⟨updated, foundLast, followsThen⟩ := second.remains between foundThen
    exact ⟨updated, foundLast, follows.trans followsThen⟩
  appears updated missing found := by
    cases between : middle with
    | none =>
      obtain ⟨event, bare⟩ := second.appears updated between found
      exact ⟨.inr event, bare⟩
    | some device =>
      obtain ⟨event, appId, devId, options⟩ := first.appears device missing between
      obtain ⟨last, same, follows⟩ := second.remains device between
      rw [found] at same
      cases same
      exact ⟨.inl event, follows.appId.trans appId, follows.devId.trans devId,
        follows.options.trans options⟩

end Rules

variable {old new : Option Device}

theorem Fate.owned (fate : Fate identity server call old new) :
    Owned (Begins identity server call) (Hears identity server call) (Sends identity server call)
      old new := by
  cases fate with
  | kept => exact .refl _
  | begun event =>
    constructor
    · rintro device rfl
      exact ⟨_, rfl, rfl, rfl, rfl, rfl, fun _ => event, fun _ => event, fun _ => .inl event,
        fun _ => .inl event, fun _ => .inl event⟩
    · rintro updated rfl same
      cases same
      exact ⟨event, rfl, rfl, rfl⟩
  | heard _ event =>
    constructor
    · rintro device same
      cases same
      exact ⟨_, rfl, rfl, rfl, rfl, rfl, absurd rfl, absurd rfl, absurd rfl,
        fun _ => .inr event, fun _ => .inr event⟩
    · intro updated missing
      cases missing
  | sent _ event =>
    constructor
    · rintro device same
      cases same
      exact ⟨_, rfl, rfl, rfl, rfl, rfl, absurd rfl, absurd rfl, fun _ => .inr event,
        absurd rfl, absurd rfl⟩
    · intro updated missing
      cases missing

theorem Fate.restarted (fate : Fate identity server call old new)
    (event : Begins identity server call) :
    ∃ updated, new = some updated ∧ updated.counterDown = 0 := by
  cases fate with
  | kept other => exact absurd event other
  | begun => exact ⟨_, rfl, rfl⟩
  | heard other => exact absurd event other
  | sent other => exact absurd event other

theorem Fate.advanced (fate : Fate identity server call old new)
    (event : Sends identity server call) : ∃ device updated, old = some device ∧
      new = some updated ∧
      updated.counterDown.toNat = (device.counterDown.toNat + 1) % 0x100000000 := by
  cases fate with
  | kept _ _ other => exact absurd event other
  | begun _ other => exact absurd event other
  | heard _ _ other => exact absurd event other
  | sent => exact ⟨_, _, rfl, rfl, UInt32.toNat_add ..⟩

theorem obeys_call (consistent : server.devices.Consistent) (identity : Identity) (call : Call) :
    Obeys identity server call where
  owned := (fate_call consistent identity call).owned
  restarted := (fate_call consistent identity call).restarted
  advanced := (fate_call consistent identity call).advanced
  looks request asked := by rw [next, asked, handle]
  prepares request asked := by rw [next, asked, handle]

/-- What one call does, all calls of a run do, as every call leaves the directory in order. -/
theorem throughout_of_call {law : Server Directory → Call → Prop}
    (every : ∀ {server : Server Directory}, server.devices.Consistent → ∀ call, law server call)
    (consistent : server.devices.Consistent) (calls : List Call) : Throughout law server calls := by
  induction calls generalizing server with
  | nil => trivial
  | cons call rest ih =>
    have left := (effect_call consistent call).consistent consistent
    exact ⟨every consistent call, ih left⟩

theorem throughout_obeys (consistent : server.devices.Consistent) (identity : Identity)
    (calls : List Call) : Throughout (Obeys identity) server calls :=
  throughout_of_call (fun consistent call => obeys_call consistent identity call) consistent calls

/-- What none of the requests of a run can do does not happen in it. -/
theorem not_during_of_forall {event : Server Directory → Call → Prop} {calls : List Call}
    (never : ∀ call ∈ calls, ∀ server, ¬ event server call) : ¬ During event server calls := by
  induction calls generalizing server with
  | nil => exact id
  | cons call rest ih =>
    rintro (now | later)
    · exact never call List.mem_cons_self server now
    · exact ih (fun call member => never call (List.mem_cons_of_mem _ member)) later

/-- From its beginning to its end a run changes a record only for what has happened in it. -/
theorem owned_after (consistent : server.devices.Consistent) (identity : Identity)
    (calls : List Call) : Owned (During (Begins identity) server calls)
      (During (Hears identity) server calls) (During (Sends identity) server calls)
      (server.devices.get? identity) ((server.after calls).devices.get? identity) := by
  induction calls generalizing server with
  | nil => exact .refl _
  | cons call rest ih =>
    have left := (effect_call consistent call).consistent consistent
    exact (obeys_call consistent identity call).owned.trans (ih left)

/-- Every field of a record has its owners. In every reachable state and for every device, whatever
is requested next, each call on the way obeys the rules, and so does the run as a whole: no record is
removed; one appears only when a session of an unknown device begins, without application and with
the standard options; the application, the name in it and the options never change; the address and
the key change only when a session of the device begins, the downlink counter only then and with a
downlink to it that succeeds, which moves it by one modulo 2³², and the uplink counter and the time
only then and with an uplink of the device that succeeds. -/
theorem fields_change_by_owners (reachable : server.Reachable) (identity : Identity)
    (calls : List Call) :
    Throughout (Obeys identity) server calls ∧
      Owned (During (Begins identity) server calls) (During (Hears identity) server calls)
        (During (Sends identity) server calls) (server.devices.get? identity)
        ((server.after calls).devices.get? identity) :=
  ⟨throughout_obeys reachable.consistent identity calls,
    owned_after reachable.consistent identity calls⟩

/-- A device that nobody knew joins at the address of another one, which is at its last counter and
is sent to next. -/
theorem fields_change_by_owners_shared_address :
    let device := { Device.unknown default with appId := "app", counterDown := 0xFFFFFFFF }
    let server := { ofNetId Directory.empty 0 with devices := Directory.empty.write device }
    let newcomer : Identity := ⟨default, ⟨⟨[0, 0, 0, 0, 0, 0, 0, 1], rfl⟩⟩⟩
    let join : Call := ⟨default, ⟨0, 0⟩, .activate ⟨[], some ⟨some {
      appEui := some newcomer.appEui
      devEui := some newcomer.devEui
      address := some device.address
      sessionKey := some device.sessionKey
      rx1DataRateOffset := 0
      rx2DataRate := 0
      rxDelay := 0
      channels := [] }⟩⟩⟩
    let send : Call := ⟨default, ⟨0, 0⟩, .downlink {
      payload := [0x60, 0, 0, 0, 0, 0, 0, 0, 0, 0, 0, 0]
      appEui := some default
      devEui := some default
      appId := "app"
      devId := ""
      option := none }⟩
    let calls := [join, send]
    (∃ updated, (server.after calls).devices.get? newcomer = some updated ∧ updated.appId = "") ∧
      ∃ updated, (server.after calls).devices.get? default = some updated ∧
        updated.counterDown = 0 ∧ updated.address = device.address ∧ updated.appId = "app" := by
  intro device server newcomer join send calls
  have wrote : (StoreWrite.set device []).call Directory.empty = .ok server.devices := rfl
  have reachable := Reachable.written (.start 0) wrote
  constructor
  · obtain ⟨_, owned⟩ := fields_change_by_owners reachable newcomer calls
    obtain ⟨_, noApplication, _⟩ := owned.appears _ rfl rfl
    exact ⟨_, rfl, noApplication⟩
  · obtain ⟨_, owned⟩ := fields_change_by_owners reachable default calls
    obtain ⟨updated, found, follows⟩ := owned.remains device rfl
    have unbegun : ¬ During (Begins default) server calls := by
      rintro (⟨⟨address, key, ran⟩, _⟩ | ⟨other, _⟩ | never)
      · have other : newcomer ≠ default := by decide
        exact other (congrArg Prod.fst (Except.ok.inj ran))
      · exact other
      · exact never
    have address : updated.address = device.address := by
      by_contra changed
      exact unbegun (follows.address changed)
    have moved : (server.after calls).devices.get? default =
      some { device with counterDown := 0 } := by decide
    have restarted : updated = { device with counterDown := 0 } :=
      Option.some.inj (found.symm.trans moved)
    exact ⟨updated, found, by rw [restarted], address, follows.appId⟩

end Server

end LoRaNetwork
