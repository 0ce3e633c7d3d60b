import LoRaNetwork.Proofs.PrefixHistory
import LoRaNetwork.Proofs.PrefixText

/-! Prefixes as ranges of addresses. As a range lies within another only if it has the bits of the
other and reaches at least as far, two prefixes that cover the same addresses differ at most in
what lies beyond their length or beyond 32. In normal form nothing does, and then the prefix is its
range. A configuration has its prefixes from text, so each range gets one entry in the registry,
however often and in whatever spelling it is listed. -/
namespace LoRaNetwork

namespace AddressPrefix

variable {range other : AddressPrefix}

/-- Two prefixes stand for the same addresses. -/
def CoverAlike (range other : AddressPrefix) : Prop :=
  ∀ address : Address, address.hasPrefix range = address.hasPrefix other

/-- A range that lies within another reaches at least as far, if the other stops at 32. -/
theorem length_le_of_within (normal : other.IsNormal)
    (within : ∀ address : Address, address.hasPrefix range = true → address.hasPrefix other = true) :
    other.length.toNat ≤ range.length.toNat := by
  by_contra longer
  have longer := Nat.not_le.mp longer
  have inside := Nat.lt_of_lt_of_le longer normal.length_le
  exact Nat.lt_irrefl _ (within_iff.mp within _ inside longer).1

/-- In normal form a prefix is determined by the addresses under it. -/
theorem eq_of_coverAlike (normal : range.IsNormal) (otherNormal : other.IsNormal)
    (alike : CoverAlike range other) : range = other := by
  have within (address : Address) (under : address.hasPrefix range = true) :
      address.hasPrefix other = true := (alike address).symm.trans under
  have contains (address : Address) (under : address.hasPrefix other = true) :
      address.hasPrefix range = true := (alike address).trans under
  have sameLength : range.length.toNat = other.length.toNat :=
    Nat.le_antisymm (length_le_of_within normal contains) (length_le_of_within otherNormal within)
  have sameAddress : range.address = other.address := by
    apply Address.eq_of_bit
    intro place inside
    by_cases reached : place < other.length.toNat
    · exact (within_iff.mp within place inside reached).2
    · have beyond := Nat.not_lt.mp reached
      rw [normal.bit_beyond place inside (by omega), otherNormal.bit_beyond place inside beyond]
  obtain ⟨address, length⟩ := range
  obtain ⟨otherAddress, otherLength⟩ := other
  exact (AddressPrefix.mk.injEq ..).mpr ⟨sameAddress, UInt8.toNat_inj.mp sameLength⟩

theorem eq_iff_coverAlike (made : range.Made) (otherMade : other.Made) :
    range = other ↔ CoverAlike range other := by
  constructor
  · rintro rfl address
    rfl
  · exact eq_of_coverAlike made.isNormal otherMade.isNormal

end AddressPrefix

namespace Config

open Toml AddressPrefix

/-- What is read from a list was read from one of its items. -/
theorem exists_of_mem_mapM {α β : Type} {read : α → Option β} {items : List α} {values : List β}
    (ran : items.mapM read = some values) {value : β} (member : value ∈ values) :
    ∃ item ∈ items, read item = some value := by
  induction items generalizing values with
  | nil =>
    cases ran
    cases member
  | cons item rest ih =>
    simp only [List.mapM_cons, Option.bind_eq_bind, Option.bind_eq_some_iff] at ran
    obtain ⟨first, readFirst, others, readOthers, same⟩ := ran
    cases same
    rcases List.mem_cons.mp member with rfl | later
    · exact ⟨item, List.mem_cons_self, readFirst⟩
    · obtain ⟨found, among, readFound⟩ := ih readOthers later
      exact ⟨found, List.mem_cons_of_mem _ among, readFound⟩

theorem made_of_readRange {value : Value} {range : AddressPrefix}
    (read : readRange value = some range) : range.Made := by
  obtain ⟨text, _, parsed⟩ := Option.bind_eq_some_iff.mp read
  exact .read (toOption_eq_some_iff.mp parsed)

/-- Both forms of an entry read its prefix and its usages in the same way. -/
theorem made_of_parts {first : Option Value} {listed : Option (List String)} {entry : PrefixConfig}
    (read : (do
      let range ← first.bind readRange
      let usages ← listed
      some (⟨range, usages⟩ : PrefixConfig)) = some entry) : entry.range.Made := by
  obtain ⟨range, readFirst, rest⟩ := Option.bind_eq_some_iff.mp read
  obtain ⟨usages, _, same⟩ := Option.bind_eq_some_iff.mp rest
  obtain ⟨_, _, made⟩ := Option.bind_eq_some_iff.mp readFirst
  cases same
  exact made_of_readRange made

theorem made_of_readPrefix {value : Value} {entry : PrefixConfig}
    (read : readPrefix value = some entry) : entry.range.Made := by
  unfold readPrefix at read
  split at read
  · exact made_of_parts read
  · obtain ⟨items, _, parts⟩ := Option.bind_eq_some_iff.mp read
    exact made_of_parts parts

/-- The prefixes of a configuration were read from text. -/
theorem made_of_parse {text : String} {config : Config} (parsed : parse text = .ok config)
    {entry : PrefixConfig} (member : entry ∈ config.prefixes) : entry.range.Made := by
  unfold parse at parsed
  split at parsed
  · cases parsed
  · rename_i entries _
    split at parsed
    · cases parsed
    · rename_i read
      cases parsed
      obtain ⟨netId, _, rest⟩ := Option.bind_eq_some_iff.mp read
      obtain ⟨prefixes, listed, same⟩ := Option.bind_eq_some_iff.mp rest
      cases same
      unfold readOptional at listed
      split at listed
      · cases listed
        cases member
      · obtain ⟨items, _, ran⟩ := Option.bind_eq_some_iff.mp listed
        obtain ⟨_, _, readEntry⟩ := exists_of_mem_mapM ran member
        exact made_of_readPrefix readEntry

end Config

namespace PrefixRegistry

open AddressPrefix

/-- What is registered was asked to be. -/
theorem mem_of_mem_keys {netId : NetId} {calls : List PrefixConfig} {range : AddressPrefix}
    (held : range ∈ ((empty netId).registerAll calls).usages.keys) :
    ∃ call ∈ calls, call.range = range := by
  obtain ⟨_, found⟩ := (Table.mem_keys_iff _ _).mp held
  obtain ⟨usages, accepted, _⟩ := get?_registerAll.mp found
  obtain ⟨call, member, _, same⟩ := exists_lastAccepted_iff.mp ⟨usages, accepted⟩
  exact ⟨call, member, same⟩

/-- No two entries of a registry are for one range if its prefixes were made. -/
theorem pairwise_keys {netId : NetId} {calls : List PrefixConfig}
    (made : ∀ call ∈ calls, call.range.Made) :
    ((empty netId).registerAll calls).usages.keys.Pairwise fun range other =>
      ¬ CoverAlike range other := by
  have madeKey {range : AddressPrefix}
      (held : range ∈ ((empty netId).registerAll calls).usages.keys) : range.Made := by
    obtain ⟨call, member, rfl⟩ := mem_of_mem_keys held
    exact made call member
  refine List.Pairwise.imp_of_mem ?_ ((empty netId).registerAll calls).usages.nodup
  intro range other held otherHeld distinct alike
  exact distinct ((eq_iff_coverAlike (madeKey held) (madeKey otherHeld)).mpr alike)

end PrefixRegistry

namespace AddressPrefix

/-- Prefixes are equal exactly when they stand for the same addresses, whether they were made from
any address and any number of bits or read from text. So no two entries of a registry are for the
same range when its prefixes were made in these ways, and they were when it was filled from the text
of a configuration. -/
theorem made_prefixes_are_ranges :
    (∀ range other : AddressPrefix, range.Made → other.Made →
      (range = other ↔ ∀ address : Address, address.hasPrefix range = address.hasPrefix other)) ∧
    (∀ (netId : NetId) (calls : List PrefixConfig), (∀ call ∈ calls, call.range.Made) →
      ((PrefixRegistry.empty netId).registerAll calls).usages.keys.Pairwise fun range other =>
        ¬ CoverAlike range other) ∧
    ∀ (σ : Type) (devices : σ) (text : String) (config : Config) (server : Server σ),
      Config.parse text = .ok config → Server.ofConfig devices config = .ok server →
        server.registry.usages.keys.Pairwise fun range other => ¬ CoverAlike range other := by
  refine ⟨fun range other made otherMade => eq_iff_coverAlike made otherMade,
    fun netId calls made => PrefixRegistry.pairwise_keys made, ?_⟩
  intro σ devices text config server parsed configured
  obtain ⟨_, rfl⟩ := Server.usePrefixes_eq_ok_iff.mp configured
  exact PrefixRegistry.pairwise_keys fun call member => Config.made_of_parse parsed member

/-- A configuration that lists a range in two spellings, and then a part of it. -/
theorem made_prefixes_are_ranges_listed_twice :
    let own : AddressPrefix := ⟨⟨0x26000000⟩, 7⟩
    let part : AddressPrefix := ⟨⟨0x26000000⟩, 8⟩
    let text := "net_id = 19\nprefixes = [[\"26000000/7\"], [\"27fFFFFF/+07\"], [\"26000000/8\"]]"
    ofAddress ⟨0x27FFFFFF⟩ 7 = own ∧ ¬ CoverAlike own part ∧
      ∃ config server, Config.parse text = .ok config ∧
        Server.ofConfig () config = .ok server ∧ server.registry.usages.keys = [own, part] ∧
        server.registry.usages.keys.Pairwise fun range other => ¬ CoverAlike range other := by
  intro own part text
  obtain ⟨equal, _, filled⟩ := made_prefixes_are_ranges
  have spelled : ofAddress ⟨0x27FFFFFF⟩ 7 = own := by decide
  have made : own.Made := spelled ▸ .ofAddress _ _
  have partMade : part.Made := .ofAddress ⟨0x26000000⟩ 8
  let config : Config := ⟨19, [⟨own, []⟩, ⟨own, []⟩, ⟨part, []⟩]⟩
  let server : Server Unit := ⟨(PrefixRegistry.empty (.ofWord 19)).registerAll config.prefixes, ()⟩
  have parsed : Config.parse text = .ok config := toOption_eq_some_iff.mp (by decide +kernel)
  have configured : Server.ofConfig () config = .ok server :=
    Server.usePrefixes_eq_ok_iff.mpr ⟨by decide, rfl⟩
  refine ⟨spelled, mt (equal own part made partMade).mpr (by decide), config, server, parsed,
    configured, by decide, ?_⟩
  exact filled Unit () text config server parsed configured

end AddressPrefix

end LoRaNetwork
