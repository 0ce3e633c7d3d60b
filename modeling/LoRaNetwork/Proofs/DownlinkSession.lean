import LoRaNetwork.Proofs.ServerRun

/-! The downlinks of a session. However a session's downlinks are mixed with uplinks, lookups,
preparations, refused requests and requests for other devices, they are signed with consecutive
counters, and the record holds the counter that comes next. The invariant is what the record says of
the session; one call either leaves it alone or signs a downlink with its counter and moves the
counter by one, modulo 2³². -/
namespace LoRaNetwork

namespace Request

/-- The request begins a session of a device. -/
def Activates (identity : Identity) : Request → Prop
  | .activate response => ∃ address key, Server.session response = .ok (identity, address, key)
  | _ => False

/-- The signed frame in the answer to a downlink for a device. -/
def signedFor (identity : Identity) : Request → Except Error Reply → Option (List UInt8)
  | .downlink message, .ok (.downlink reply) =>
    if message.appEui = some identity.appEui ∧ message.devEui = some identity.devEui then
      some reply.payload
    else none
  | _, _ => none

end Request

namespace Server

/-- The record of a device has an address and a key, and a counter for the next downlink. -/
def InSession (server : Server Directory) (identity : Identity) (address : Address) (key : Key)
    (counter : UInt32) : Prop :=
  ∃ device, server.devices.get? identity = some device ∧ device.address = address ∧
    device.sessionKey = key ∧ device.counterDown = counter

variable {server : Server Directory} {identity : Identity} {address : Address} {key : Key}
  {counter : UInt32}

/-- A device with a new record is in the session of that record, and all others stay in theirs. -/
theorem InSession.withRecord (inSession : server.InSession identity address key counter)
    {other : Identity} {old new : Device}
    (same : other = identity →
      new.address = address ∧ new.sessionKey = key ∧ new.counterDown = counter) :
    (server.withRecord other old new).InSession identity address key counter := by
  obtain ⟨device, found, session⟩ := inSession
  by_cases own : other = identity
  · refine ⟨new, ?_, same own⟩
    rw [Server.withRecord, Directory.get?_put, if_pos own]
  · refine ⟨device, ?_, session⟩
    rw [Server.withRecord, Directory.get?_put, if_neg own, found]

/-- One call either signs nothing for the device and leaves its session where it was, or signs a
downlink with the counter and moves on to the next. -/
theorem InSession.call (consistent : server.devices.Consistent)
    (inSession : server.InSession identity address key counter) {call : Call}
    (other : ¬ call.request.Activates identity) :
    (call.request.signedFor identity (server.answer call) = none ∧
        (server.next call).InSession identity address key counter) ∨
      ∃ bytes frame, call.request.signedFor identity (server.answer call) = some bytes ∧
        Frame.SignedWith key address counter frame bytes ∧
        (server.next call).InSession identity address key (counter + 1) := by
  have effect := effect_call consistent call
  obtain ⟨now, draw, request⟩ := call
  generalize server.answer ⟨now, draw, request⟩ = answer at effect ⊢
  generalize server.next ⟨now, draw, request⟩ = next at effect ⊢
  dsimp only at effect other ⊢
  cases effect with
  | refused cause => exact .inl ⟨by cases request <;> rfl, inSession⟩
  | registered | listed | prepared => exact .inl ⟨rfl, inSession⟩
  | @activated response started place secret ran =>
    obtain ⟨device, found, session⟩ := inSession
    refine .inl ⟨rfl, device, ?_, session⟩
    -- Even at the same address the records of two devices are apart.
    have elsewhere : started ≠ identity := by
      rintro rfl
      exact other ⟨place, secret, ran⟩
    exact (Directory.get?_put ..).trans ((if_neg elsewhere).trans found)
  | @uplinked message reply sender device frame data named found =>
    refine .inl ⟨rfl, inSession.withRecord ?_⟩
    rintro rfl
    -- The uplink writes its parts into the record as it stands, which keeps the session's.
    obtain ⟨stored, same, session⟩ := inSession
    cases found.symm.trans same
    exact session
  | @downlinked message receiver device frame signed data bytes named found ran signs correct =>
    by_cases own : receiver = identity
    · subst own
      obtain ⟨stored, same, rfl, rfl, rfl⟩ := inSession
      cases found.symm.trans same
      refine .inr ⟨bytes, signed, if_pos (identify_eq_ok_iff.mp named), correct,
        counted device, ?_, rfl, rfl, rfl⟩
      exact (Directory.get?_put ..).trans (if_pos rfl)
    · refine .inl ⟨if_neg ?_, inSession.withRecord fun same => absurd same own⟩
      intro both
      exact own (Except.ok.inj (named.symm.trans (identify_eq_ok_iff.mpr both)))

end Server

end LoRaNetwork
