import LoRaNetwork.Proofs.AddressRange
import LoRaNetwork.Proofs.PrefixHistory

/-! What can be allocated. Chance decides about two things, the address to start from and the prefix
to put it under, and between them they reach every address of every prefix that serves what is
required, and no other address. An address that starts out under its prefix is returned as it is,
which is why none is missed; and as only prefixes of the network are ever held, none is foreign. -/
namespace LoRaNetwork

namespace PrefixRegistry

variable {registry : PrefixRegistry} {netId : NetId} {calls : List PrefixConfig}
  {required : List String} {range : AddressPrefix} {draw : Draw} {address : Address}

/-- The prefix is drawn from those that serve what is required, and the address is put under it. -/
theorem allocate_eq_ok_iff : registry.allocate required draw = .ok address ↔
    ∃ range, (registry.prefixesFor required)[
        draw.choice % (registry.prefixesFor required).length]? = some range ∧
      address = (Address.mk draw.word).withPrefix range := by
  unfold allocate
  dsimp only
  cases (registry.prefixesFor required)[
    draw.choice % (registry.prefixesFor required).length]? with
  | none => simp
  | some range => simp [eq_comm]

theorem allocate_of_none (none : registry.prefixesFor required = []) (draw : Draw) :
    registry.allocate required draw = .error (.notFound (.addressPrefix required)) := by
  unfold allocate
  simp [none]

/-- As long as some prefix serves what is required, every draw finds one. -/
theorem exists_allocate_of_mem (member : range ∈ registry.prefixesFor required) (draw : Draw) :
    ∃ address, registry.allocate required draw = .ok address := by
  have inside : draw.choice % (registry.prefixesFor required).length <
      (registry.prefixesFor required).length :=
    Nat.mod_lt _ (List.length_pos_of_mem member)
  exact ⟨_, allocate_eq_ok_iff.mpr ⟨_, List.getElem?_eq_getElem inside, rfl⟩⟩

/-- What is allocated is under a prefix that serves what is required. -/
theorem exists_mem_of_allocate (ran : registry.allocate required draw = .ok address) :
    ∃ range ∈ registry.prefixesFor required, address.hasPrefix range = true := by
  obtain ⟨range, chosen, rfl⟩ := allocate_eq_ok_iff.mp ran
  exact ⟨range, List.mem_of_getElem? chosen, Address.hasPrefix_withPrefix _ range⟩

/-- Every address under such a prefix can be allocated: a draw may start from the address itself and
choose the prefix. -/
theorem exists_draw_of_hasPrefix (member : range ∈ registry.prefixesFor required)
    (under : address.hasPrefix range = true) :
    ∃ draw, registry.allocate required draw = .ok address := by
  obtain ⟨place, inside, chosen⟩ := List.getElem_of_mem member
  refine ⟨⟨address.word, place⟩, allocate_eq_ok_iff.mpr ⟨range, ?_, ?_⟩⟩
  · rw [Nat.mod_eq_of_lt inside, List.getElem?_eq_getElem inside, chosen]
  · exact (Address.withPrefix_of_hasPrefix under).symm

/-- A prefix that a network takes has only addresses of the network. -/
theorem Admits.networkId_eq (admits : Admits netId range)
    (under : address.hasPrefix range = true) : address.networkId = netId.networkId := by
  obtain ⟨long, own⟩ := admits_iff.mp admits
  exact (Address.networkId_of_hasPrefix long under).trans own

/-- Allocation gives what the registered prefixes allow, and all of it. Whatever calls were made and
whatever is required: if no prefix serves all of it, then every draw fails for that reason, and
otherwise every draw gives an address. The addresses that some draw gives are exactly those under
a prefix that serves all that is required, and every one of them belongs to the network. -/
theorem allocation_reaches_served_ranges (netId : NetId) (calls : List PrefixConfig)
    (required : List String) :
    let registry := (empty netId).registerAll calls
    (∀ draw, registry.allocate required draw = .error (.notFound (.addressPrefix required)) ↔
      ∀ range, ¬ Serves netId calls required range) ∧
    (∀ draw, (∃ address, registry.allocate required draw = .ok address) ↔
      ∃ range, Serves netId calls required range) ∧
    (∀ address, (∃ draw, registry.allocate required draw = .ok address) ↔
      ∃ range, Serves netId calls required range ∧ address.hasPrefix range = true) ∧
    ∀ draw address, registry.allocate required draw = .ok address →
      address.networkId = netId.networkId := by
  intro registry
  have served {range : AddressPrefix} : range ∈ registry.prefixesFor required ↔
      Serves netId calls required range := mem_prefixesFor_registerAll
  refine ⟨fun draw => ?_, fun draw => ?_, fun address => ?_, fun draw address ran => ?_⟩
  · constructor
    · intro failed range serves
      obtain ⟨address, ran⟩ := exists_allocate_of_mem (served.mpr serves) draw
      rw [ran] at failed
      cases failed
    · intro nobody
      apply allocate_of_none
      apply List.eq_nil_iff_forall_not_mem.mpr
      intro range member
      exact nobody range (served.mp member)
  · constructor
    · rintro ⟨address, ran⟩
      obtain ⟨range, member, _⟩ := exists_mem_of_allocate ran
      exact ⟨range, served.mp member⟩
    · rintro ⟨range, serves⟩
      exact exists_allocate_of_mem (served.mpr serves) draw
  · constructor
    · rintro ⟨draw, ran⟩
      obtain ⟨range, member, under⟩ := exists_mem_of_allocate ran
      exact ⟨range, served.mp member, under⟩
    · rintro ⟨range, serves, under⟩
      exact exists_draw_of_hasPrefix (served.mpr serves) under
  · obtain ⟨range, member, under⟩ := exists_mem_of_allocate ran
    exact (served.mp member).admits.networkId_eq under

/-- A prefix with bits set beyond its sixteen, and one that is longer than an address. -/
theorem allocation_reaches_served_ranges_raw :
    let wide : AddressPrefix := ⟨⟨0x27FFFFFF⟩, 16⟩
    let single : AddressPrefix := ⟨⟨0x26ABCD12⟩, 200⟩
    let calls : List PrefixConfig := [⟨wide, ["tenant", "otaa"]⟩, ⟨single, ["otaa"]⟩]
    let registry := (empty (.ofWord 0x13)).registerAll calls
    (∃ draw, registry.allocate ["otaa"] draw = .ok ⟨0x27FF0000⟩) ∧
      (∃ draw, registry.allocate ["otaa", "otaa"] draw = .ok ⟨0x26ABCD12⟩) ∧
      (¬ ∃ draw, registry.allocate ["tenant"] draw = .ok ⟨0x26ABCD12⟩) ∧
      ∀ draw, registry.allocate ["local"] draw = .error (.notFound (.addressPrefix ["local"])) := by
  intro wide single calls registry
  have reaches := allocation_reaches_served_ranges (.ofWord 0x13) calls
  have wideServes : Serves (.ofWord 0x13) calls ["otaa"] wide :=
    ⟨_, ⟨[], [_], rfl, by decide, by decide⟩, by decide⟩
  have singleServes : Serves (.ofWord 0x13) calls ["otaa", "otaa"] single :=
    ⟨_, ⟨[_], [], rfl, by decide, by decide⟩, by decide⟩
  have named {required : List String} {range : AddressPrefix}
      (serves : Serves (.ofWord 0x13) calls required range) :
      (range = wide ∧ ∀ usage ∈ required, usage ∈ ["tenant", "otaa"]) ∨
        (range = single ∧ ∀ usage ∈ required, usage ∈ ["otaa"]) := by
    obtain ⟨usages, ⟨before, after, same, _⟩, covers⟩ := serves
    have member : (⟨range, usages⟩ : PrefixConfig) ∈ calls := by simp [same]
    simp only [calls, List.mem_cons, PrefixConfig.mk.injEq, List.not_mem_nil, or_false] at member
    rcases member with ⟨rfl, rfl⟩ | ⟨rfl, rfl⟩
    · exact .inl ⟨rfl, covers⟩
    · exact .inr ⟨rfl, covers⟩
  refine ⟨((reaches _).2.2.1 _).mpr ⟨wide, wideServes, by decide⟩,
    ((reaches _).2.2.1 _).mpr ⟨single, singleServes, by decide⟩, ?_, ?_⟩
  · intro reached
    obtain ⟨range, serves, under⟩ := ((reaches _).2.2.1 _).mp reached
    rcases named serves with ⟨rfl, _⟩ | ⟨_, covers⟩
    · exact absurd under (by decide)
    · exact absurd covers (by decide)
  · intro draw
    apply ((reaches _).1 draw).mpr
    intro range serves
    rcases named serves with ⟨_, covers⟩ | ⟨_, covers⟩
    · exact absurd covers (by decide)
    · exact absurd covers (by decide)

end PrefixRegistry

end LoRaNetwork
