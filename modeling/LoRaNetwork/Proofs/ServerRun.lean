import LoRaNetwork.Proofs.RequestEffect

/-! Runs of a server: calls that are handled one after the other, each at its instant and with its
draw. A server over a directory is reachable from one without devices by such calls and by writes to
the directory from outside. What holds of every reachable server is that its directory is in order,
which is all that its requests rely on. -/
namespace LoRaNetwork

/-- A request with what reaches it from outside: the clock and chance. -/
structure Call where
  now : Instant
  draw : Draw
  request : Request

namespace Server

variable {σ : Type} [DeviceStore σ]

/-- The answer to a call. -/
def answer (server : Server σ) (call : Call) : Except Error Reply :=
  (server.handle call.now call.draw call.request).1

/-- The server after a call. -/
def next (server : Server σ) (call : Call) : Server σ :=
  (server.handle call.now call.draw call.request).2

/-- The answers to calls. -/
def answers (server : Server σ) : List Call → List (Except Error Reply)
  | [] => []
  | call :: rest => server.answer call :: (server.next call).answers rest

/-- The server after calls. -/
def after (server : Server σ) (calls : List Call) : Server σ :=
  calls.foldl next server

/-- The servers over a directory that come about. -/
inductive Reachable : Server Directory → Prop where
  | start (netId : UInt32) : Reachable (ofNetId .empty netId)
  | called {server : Server Directory} (call : Call) :
      Reachable server → Reachable (server.next call)
  | written {server : Server Directory} {write : StoreWrite} {devices : Directory} :
      Reachable server → write.call server.devices = .ok devices →
      Reachable { server with devices := devices }

variable {server : Server Directory}

theorem effect_call (consistent : server.devices.Consistent) (call : Call) :
    Effect server call.now call.request (server.answer call) (server.next call) :=
  handle_effect consistent call.now call.draw call.request

theorem Reachable.consistent (reachable : server.Reachable) : server.devices.Consistent := by
  induction reachable with
  | start netId => exact Directory.consistent_empty
  | called call _ consistent => exact (effect_call consistent call).consistent consistent
  | written _ wrote consistent => exact consistent.call wrote

theorem Reachable.after (reachable : server.Reachable) (calls : List Call) :
    (server.after calls).Reachable := by
  induction calls generalizing server with
  | nil => exact reachable
  | cons call rest ih => exact ih (reachable.called call)

/-- Writes from outside, one after the other. -/
theorem Reachable.callAll (reachable : server.Reachable) (writes : List StoreWrite) :
    Reachable { server with devices := StoreWrite.callAll server.devices writes } := by
  induction writes generalizing server with
  | nil => exact reachable
  | cons write rest ih =>
    rw [StoreWrite.callAll]
    cases wrote : write.call server.devices with
    | error cause => exact ih reachable
    | ok devices => exact ih (reachable.written wrote)

theorem Reachable.usePrefixes {entries : List PrefixConfig} {configured : Server Directory}
    (reachable : server.Reachable) (ran : server.usePrefixes entries = .ok configured) :
    configured.Reachable := by
  induction entries generalizing server with
  | nil =>
    cases ran
    exact reachable
  | cons entry rest ih =>
    obtain ⟨between, registered, ran⟩ := bind_eq_ok_iff.mp ran
    refine ih ?_ ran
    have same : server.next ⟨default, ⟨0, 0⟩, .usePrefix entry.range entry.usages⟩ = between := by
      rw [next, handle, registered]
    exact same ▸ reachable.called _

/-- A server made from a configuration over any directory is reachable. -/
theorem reachable_ofConfig {writes : List StoreWrite} {config : Config}
    (ran : ofConfig (StoreWrite.callAll Directory.empty writes) config = .ok server) :
    server.Reachable :=
  ((Reachable.start config.netId).callAll writes).usePrefixes ran

end Server

end LoRaNetwork
