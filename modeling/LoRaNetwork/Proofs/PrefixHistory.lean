import LoRaNetwork.Server
import LoRaNetwork.Proofs.Outcome
import Mathlib.Data.Finset.Card
import Mathlib.Data.List.Induction

/-! The registry of prefixes over its whole history. A prefix is there once it has been accepted, with
the usages of the last call that was, and refused calls leave no trace. Looking for prefixes compares
numbers of matches, and as no prefix keeps a usage twice, the numbers agree only if every required
usage has its own match, however often it is required. A configuration is such a history in which no
call may be refused. -/
namespace LoRaNetwork

namespace PrefixRegistry

/-- A prefix that a network takes: it reaches over the seven bits that name a network, and these
are the last byte of the network's number. -/
def Admits (netId : NetId) (range : AddressPrefix) : Prop :=
  7 ≤ range.length.toNat ∧ range.address.word.toNat >>> 25 = netId.networkId.toNat

instance (netId : NetId) (range : AddressPrefix) : Decidable (Admits netId range) :=
  inferInstanceAs (Decidable (_ ∧ _))

/-- The registry after a call, which a refusal leaves as it was. -/
def attempt (registry : PrefixRegistry) (call : PrefixConfig) : PrefixRegistry :=
  match registry.register call.range call.usages with
  | .ok next => next
  | .error _ => registry

/-- The registry after calls made one after the other. -/
def registerAll (registry : PrefixRegistry) (calls : List PrefixConfig) : PrefixRegistry :=
  calls.foldl attempt registry

/-- The last call that was accepted for a prefix was for these usages. -/
def LastAccepted (netId : NetId) (calls : List PrefixConfig) (range : AddressPrefix)
    (usages : List String) : Prop :=
  ∃ before after, calls = before ++ ⟨range, usages⟩ :: after ∧ Admits netId range ∧
    ∀ later ∈ after, Admits netId later.range → later.range ≠ range

/-- The last call that was accepted for a prefix was for all the usages that are required. -/
def Serves (netId : NetId) (calls : List PrefixConfig) (required : List String)
    (range : AddressPrefix) : Prop :=
  ∃ usages, LastAccepted netId calls range usages ∧ ∀ usage ∈ required, usage ∈ usages

variable {registry : PrefixRegistry} {netId : NetId} {calls : List PrefixConfig}
  {range : AddressPrefix} {usages required : List String}

/-- In numbers, the first seven bits of an address are what is left without the other 25. -/
theorem toNat_networkId (address : Address) :
    address.networkId.toNat = address.word.toNat >>> 25 := by
  have seven : address.word.toNat >>> 25 < 256 := by
    have bound := address.word.toNat_lt
    rw [Nat.shiftRight_eq_div_pow]
    omega
  rw [Address.networkId, UInt32.toNat_toUInt8, UInt32.toNat_shiftRight]
  exact Nat.mod_eq_of_lt seven

/-- Whether a prefix belongs to a network is seen from what both are compared by. -/
theorem admits_iff : Admits netId range ↔
    7 ≤ range.length.toNat ∧ range.address.networkId = netId.networkId := by
  rw [Admits, ← toNat_networkId, UInt8.toNat_inj]

theorem not_lt_minLength (long : 7 ≤ range.length.toNat) : ¬ range.length < minLength :=
  UInt8.not_lt.mpr (UInt8.le_iff_toNat_le.mpr long)

theorem register_of_admits (admits : Admits registry.netId range) (usages : List String) :
    registry.register range usages =
      .ok { registry with usages := registry.usages.insert range (.ofList usages) } := by
  obtain ⟨long, own⟩ := admits_iff.mp admits
  rw [register, if_neg (not_lt_minLength long), if_neg (not_not_intro own)]

/-- A prefix that is long enough can only be refused as one of another network. -/
theorem register_of_foreign (long : 7 ≤ range.length.toNat)
    (refuses : ¬ Admits registry.netId range) (usages : List String) :
    registry.register range usages = .error (.invalidArgument .addressPrefix .foreignNetwork) := by
  have foreign : range.address.networkId ≠ registry.netId.networkId :=
    fun own => refuses (admits_iff.mpr ⟨long, own⟩)
  rw [register, if_neg (not_lt_minLength long), if_pos foreign]

theorem register_of_not_admits (refuses : ¬ Admits registry.netId range) (usages : List String) :
    ∃ cause, registry.register range usages = .error cause := by
  by_cases short : range.length < minLength
  · exact ⟨_, if_pos short⟩
  · have long := UInt8.le_iff_toNat_le.mp (UInt8.not_lt.mp short)
    exact ⟨_, register_of_foreign long refuses usages⟩

theorem exists_register_iff : (∃ next, registry.register range usages = .ok next) ↔
    Admits registry.netId range := by
  constructor
  · rintro ⟨next, ran⟩
    by_contra refuses
    obtain ⟨cause, failed⟩ := register_of_not_admits refuses usages
    rw [failed] at ran
    cases ran
  · intro admits
    exact ⟨_, register_of_admits admits usages⟩

theorem register_eq_attempt {call : PrefixConfig} (admits : Admits registry.netId call.range) :
    registry.register call.range call.usages = .ok (registry.attempt call) := by
  rw [attempt, register_of_admits admits]

/-- What one call does to what the registry holds. -/
theorem attempt_eq (registry : PrefixRegistry) (call : PrefixConfig) : registry.attempt call =
    if Admits registry.netId call.range then
      { registry with usages := registry.usages.insert call.range (.ofList call.usages) }
    else registry := by
  rw [attempt]
  split_ifs with admits
  · rw [register_of_admits admits]
  · obtain ⟨cause, failed⟩ := register_of_not_admits admits call.usages
    rw [failed]

theorem registerAll_concat (registry : PrefixRegistry) (calls : List PrefixConfig)
    (call : PrefixConfig) :
    registry.registerAll (calls ++ [call]) = (registry.registerAll calls).attempt call := by
  rw [registerAll, List.foldl_append]
  rfl

@[simp]
theorem netId_attempt (registry : PrefixRegistry) (call : PrefixConfig) :
    (registry.attempt call).netId = registry.netId := by
  rw [attempt_eq]
  split_ifs <;> rfl

@[simp]
theorem netId_registerAll (registry : PrefixRegistry) (calls : List PrefixConfig) :
    (registry.registerAll calls).netId = registry.netId := by
  induction calls generalizing registry with
  | nil => rfl
  | cons call rest ih => exact (ih (registry.attempt call)).trans (netId_attempt registry call)

/-- One more call is the last for its own prefix, if it is accepted, and changes nothing for the
others. -/
theorem lastAccepted_concat {call : PrefixConfig} :
    LastAccepted netId (calls ++ [call]) range usages ↔
      if Admits netId call.range ∧ call.range = range then usages = call.usages
      else LastAccepted netId calls range usages := by
  constructor
  · rintro ⟨before, after, same, admits, last⟩
    rcases List.eq_nil_or_concat after with rfl | ⟨after, final, rfl⟩
    · obtain ⟨_, rfl⟩ := List.append_inj' same rfl |>.imp_right List.singleton_inj.mp
      rw [if_pos ⟨admits, rfl⟩]
    · rw [List.concat_eq_append, ← List.cons_append, ← List.append_assoc] at same
      obtain ⟨rfl, final⟩ := List.append_inj' same rfl |>.imp_right List.singleton_inj.mp
      subst final
      have other := last call (by simp)
      rw [if_neg (fun both => other both.1 both.2)]
      exact ⟨before, after, rfl, admits, fun later member => last later (by simp [member])⟩
  · split_ifs with own
    · rintro rfl
      obtain ⟨admits, rfl⟩ := own
      exact ⟨calls, [], rfl, admits, fun _ member => absurd member List.not_mem_nil⟩
    · rintro ⟨before, after, rfl, admits, last⟩
      refine ⟨before, after ++ [call], by simp, admits, fun later member accepted => ?_⟩
      rcases List.mem_append.mp member with earlier | final
      · exact last later earlier accepted
      · rw [List.mem_singleton.mp final] at accepted ⊢
        exact fun same => own ⟨accepted, same⟩

theorem not_lastAccepted_nil : ¬ LastAccepted netId [] range usages := by
  rintro ⟨before, after, same, _⟩
  simp at same

/-- What the registry holds of a prefix is what the last accepted call for it said, by induction on
the history from its end. -/
theorem get?_registerAll {served : UsageSet} :
    ((empty netId).registerAll calls).usages.get? range = some served ↔
      ∃ usages, LastAccepted netId calls range usages ∧ served = .ofList usages := by
  induction calls using List.reverseRecOn generalizing served with
  | nil =>
    constructor
    · intro found
      cases found
    · rintro ⟨usages, accepted, _⟩
      exact absurd accepted not_lastAccepted_nil
  | append_singleton calls call ih =>
    simp only [registerAll_concat, attempt_eq, netId_registerAll, lastAccepted_concat]
    by_cases admits : Admits netId call.range
    · rcases eq_or_ne call.range range with rfl | other
      · simp [empty, admits, eq_comm]
      · simpa [empty, admits, other] using ih
    · simpa [empty, admits] using ih

/-- A prefix has a last accepted call when it has an accepted one. -/
theorem exists_lastAccepted_iff : (∃ usages, LastAccepted netId calls range usages) ↔
    ∃ call ∈ calls, Admits netId call.range ∧ call.range = range := by
  induction calls using List.reverseRecOn with
  | nil => simp [not_lastAccepted_nil]
  | append_singleton calls call ih =>
    simp only [lastAccepted_concat, List.mem_append, List.mem_singleton, or_and_right, exists_or,
      exists_eq_left, ← ih]
    by_cases own : Admits netId call.range ∧ call.range = range
    · obtain ⟨admits, rfl⟩ := own
      simp [admits]
    · simp [own]

/-- A prefix is found when all that is required is among what it serves. -/
theorem mem_prefixesFor : range ∈ registry.prefixesFor required ↔
    ∃ served, registry.usages.get? range = some served ∧
      ∀ usage ∈ required, usage ∈ served.toList := by
  simp only [prefixesFor, List.mem_map, List.mem_filter, UsageSet.covers_iff, Prod.exists,
    Table.mem_entries_iff]
  constructor
  · rintro ⟨_, served, found, rfl⟩
    exact ⟨served, found⟩
  · rintro ⟨served, found⟩
    exact ⟨range, served, found, rfl⟩

theorem Serves.admits (serves : Serves netId calls required range) : Admits netId range := by
  obtain ⟨usages, ⟨before, after, _, admits, _⟩, _⟩ := serves
  exact admits

/-- Over a history of calls, the prefixes found are those that serve what is required. -/
theorem mem_prefixesFor_registerAll :
    range ∈ ((empty netId).registerAll calls).prefixesFor required ↔
      Serves netId calls required range := by
  rw [mem_prefixesFor]
  constructor
  · rintro ⟨served, found, covers⟩
    obtain ⟨usages, accepted, rfl⟩ := get?_registerAll.mp found
    have named : ∀ usage ∈ required, usage ∈ usages := by
      intro usage member
      exact UsageSet.mem_ofList.mp (covers usage member)
    exact ⟨usages, accepted, named⟩
  · rintro ⟨usages, accepted, named⟩
    have held := get?_registerAll.mpr ⟨usages, accepted, rfl⟩
    refine ⟨_, held, ?_⟩
    intro usage member
    exact UsageSet.mem_ofList.mpr (named usage member)

theorem nodup_prefixesFor (registry : PrefixRegistry) (required : List String) :
    (registry.prefixesFor required).Nodup :=
  (List.filter_sublist.map Prod.fst).nodup registry.usages.nodup

/-- The registry holds each prefix that has an accepted call, and holds it once. -/
theorem size_registerAll (netId : NetId) (calls : List PrefixConfig) :
    ((empty netId).registerAll calls).size =
      ((calls.filter fun call => Admits netId call.range).map (·.range)).toFinset.card := by
  have held : ((empty netId).registerAll calls).usages.keys.toFinset =
      ((calls.filter fun call => Admits netId call.range).map (·.range)).toFinset := by
    ext range
    have last : _ ↔ ∃ call ∈ calls, Admits netId call.range ∧ call.range = range :=
      exists_lastAccepted_iff
    simp only [List.mem_toFinset, Table.mem_keys_iff, get?_registerAll, List.mem_map,
      List.mem_filter, decide_eq_true_eq, and_assoc] at last ⊢
    rw [← last]
    constructor
    · rintro ⟨_, usages, accepted, _⟩
      exact ⟨usages, accepted⟩
    · rintro ⟨usages, accepted⟩
      exact ⟨_, usages, accepted, rfl⟩
  have distinct := List.toFinset_card_of_nodup ((empty netId).registerAll calls).usages.nodup
  rw [← held]
  exact (List.length_map _).symm.trans distinct.symm

end PrefixRegistry

namespace Server

open PrefixRegistry

variable {σ : Type} {server configured : Server σ} {range : AddressPrefix} {usages : List String}

/-- A server takes the prefixes that its network admits. -/
theorem usePrefix_eq_ok_iff : server.usePrefix range usages = .ok configured ↔
    Admits server.registry.netId range ∧
      configured = { server with registry := server.registry.attempt ⟨range, usages⟩ } := by
  rw [usePrefix]
  by_cases admits : Admits server.registry.netId range
  · have call : Admits server.registry.netId (PrefixConfig.mk range usages).range := admits
    have taken := register_eq_attempt call
    simp [taken, Except.map, admits, eq_comm]
  · obtain ⟨cause, failed⟩ := register_of_not_admits admits usages
    simp [failed, Except.map, admits]

/-- Prefixes are made available as the registry takes them, all or none. -/
theorem usePrefixes_eq_ok_iff {entries : List PrefixConfig} :
    server.usePrefixes entries = .ok configured ↔
      (∀ entry ∈ entries, Admits server.registry.netId entry.range) ∧
        configured = { server with registry := server.registry.registerAll entries } := by
  induction entries generalizing server with
  | nil => simp [usePrefixes, registerAll, eq_comm]
  | cons entry rest ih =>
    simp only [usePrefixes, bind_eq_ok_iff, usePrefix_eq_ok_iff, ih, List.forall_mem_cons]
    constructor
    · rintro ⟨_, ⟨admits, rfl⟩, others, rfl⟩
      exact ⟨⟨admits, by simpa using others⟩, rfl⟩
    · rintro ⟨⟨admits, others⟩, rfl⟩
      exact ⟨_, ⟨admits, rfl⟩, by simpa using others, rfl⟩

/-- The first call that is refused says why. -/
theorem usePrefixes_of_refused {before after : List PrefixConfig} {entry : PrefixConfig}
    {cause : Error} (accepted : ∀ earlier ∈ before, Admits server.registry.netId earlier.range)
    (failed : (server.registry.registerAll before).register entry.range entry.usages =
      .error cause) : server.usePrefixes (before ++ entry :: after) = .error cause := by
  induction before generalizing server with
  | nil =>
    have failed : server.registry.register entry.range entry.usages = .error cause := failed
    rw [List.nil_append, usePrefixes, usePrefix, failed]
    rfl
  | cons first rest ih =>
    obtain ⟨admits, others⟩ := List.forall_mem_cons.mp accepted
    rw [List.cons_append, usePrefixes, usePrefix, register_eq_attempt admits]
    exact ih (by simpa using others) failed

end Server

namespace PrefixRegistry

/-- Looking for prefixes is exact over every history. Whatever calls were made, accepted or not,
the prefixes that are found are, each once, those whose last accepted call names every required
usage, however often and in whatever order the usages are named on either side. A call is accepted
exactly when its prefix has at least seven bits and the first seven are the last byte of the
network's number; a refused one changes nothing; and the size counts the prefixes that were ever
accepted. A server made from a configuration has the registry of its entries as calls, unless one is
refused, and then the first such says why there is no server. -/
theorem prefixesFor_follows_history (netId : NetId) (calls : List PrefixConfig) :
    let registry := (empty netId).registerAll calls
    (∀ required, (registry.prefixesFor required).Nodup ∧
      ∀ range, range ∈ registry.prefixesFor required ↔
        ∃ usages, LastAccepted netId calls range usages ∧ ∀ usage ∈ required, usage ∈ usages) ∧
    (∀ range usages, (∃ next, registry.register range usages = .ok next) ↔ Admits netId range) ∧
    (∀ range usages cause, registry.register range usages = .error cause →
      (empty netId).registerAll (calls ++ [⟨range, usages⟩]) = registry) ∧
    registry.size =
      ((calls.filter fun call => Admits netId call.range).map (·.range)).toFinset.card ∧
    ∀ (σ : Type) (devices : σ) (word : UInt32), netId = .ofWord word →
      (∀ server, Server.ofConfig devices ⟨word, calls⟩ = .ok server ↔
        (∀ call ∈ calls, Admits netId call.range) ∧ server = ⟨registry, devices⟩) ∧
      ∀ before call after cause, calls = before ++ call :: after →
        (∀ earlier ∈ before, Admits netId earlier.range) →
        ((empty netId).registerAll before).register call.range call.usages = .error cause →
          Server.ofConfig devices ⟨word, calls⟩ = .error cause := by
  intro registry
  have own : registry.netId = netId := netId_registerAll _ _
  refine ⟨fun required => ⟨nodup_prefixesFor registry required, fun range => ?_⟩,
    fun range usages => ?_, fun range usages cause failed => ?_, size_registerAll netId calls, ?_⟩
  · exact mem_prefixesFor_registerAll
  · rw [exists_register_iff, own]
  · rw [registerAll_concat, attempt]
    change (match registry.register range usages with | .ok next => next | .error _ => registry) = _
    rw [failed]
  · rintro σ devices word rfl
    refine ⟨fun server => Server.usePrefixes_eq_ok_iff, ?_⟩
    rintro before call after cause rfl accepted failed
    exact Server.usePrefixes_of_refused accepted failed

/-- A prefix that loses a usage when it is registered again, and a prefix of another network. -/
theorem prefixesFor_follows_history_replaced :
    let own : AddressPrefix := ⟨⟨0x26000000⟩, 7⟩
    let foreign : AddressPrefix := ⟨⟨0x28000000⟩, 7⟩
    let calls : List PrefixConfig :=
      [⟨own, ["otaa", "abp"]⟩, ⟨own, ["local", "abp", "local"]⟩, ⟨foreign, ["otaa"]⟩]
    let registry := (empty (.ofWord 0x13)).registerAll calls
    own ∈ registry.prefixesFor ["local", "abp", "local", "local"] ∧
      own ∉ registry.prefixesFor ["otaa", "abp"] ∧ registry.size = 1 ∧
      Server.ofConfig () ⟨0x13, calls⟩ =
        .error (.invalidArgument .addressPrefix .foreignNetwork) := by
  intro own foreign calls registry
  have last (usages : List String) : LastAccepted (.ofWord 0x13) calls own usages ↔
      usages = ["local", "abp", "local"] := by
    change LastAccepted _ ([_, _] ++ [_]) own usages ↔ _
    rw [lastAccepted_concat, if_neg (by decide)]
    change LastAccepted _ ([_] ++ [_]) own usages ↔ _
    rw [lastAccepted_concat, if_pos (by decide)]
  obtain ⟨found, _, _, size, configured⟩ := prefixesFor_follows_history (.ofWord 0x13) calls
  refine ⟨?_, ?_, size.trans (by decide), ?_⟩
  · exact ((found _).2 own).mpr ⟨_, (last _).mpr rfl, by decide⟩
  · intro member
    obtain ⟨usages, accepted, covers⟩ := ((found _).2 own).mp member
    rw [(last usages).mp accepted] at covers
    exact absurd covers (by decide)
  · refine (configured Unit () 0x13 rfl).2 [_, _] ⟨foreign, ["otaa"]⟩ [] _ rfl (by decide) ?_
    rw [register, netId_registerAll, if_neg (by decide), if_pos (by decide)]

end PrefixRegistry

end LoRaNetwork
