import LoRaNetwork.Proofs.AddressAllocation

/-! Which networks can have prefixes. An address has room for the seven lowest bits of a network's
number, and these stand in front of every address that is ever allocated. A prefix is compared with
the whole last byte of the number, though. Where this byte is below 128 the two are the same, and a
network takes every prefix of its own that is long enough; where it is not, no prefix compares
equal, and the network never has an address to allocate. -/
namespace LoRaNetwork

/-- The address has the seven lowest bits of a network's number in front. -/
def Address.OfNetwork (address : Address) (number : UInt32) : Prop :=
  address.networkId.toNat = number.toNat % 128

instance (address : Address) (number : UInt32) : Decidable (address.OfNetwork number) :=
  inferInstanceAs (Decidable (_ = _))

/-- Of the number of a network, the last byte is what prefixes are compared with. -/
theorem NetId.toNat_networkId_ofWord (number : UInt32) :
    (NetId.ofWord number).networkId.toNat = number.toNat % 256 := by
  have last : (NetId.ofWord number).networkId = number.toUInt8 := rfl
  rw [last, UInt32.toNat_toUInt8]

theorem Address.toNat_networkId_lt (address : Address) : address.networkId.toNat < 128 := by
  have bound := address.word.toNat_lt
  rw [PrefixRegistry.toNat_networkId, Nat.shiftRight_eq_div_pow]
  omega

/-- The normal form of a prefix that reaches over the first seven bits keeps them. -/
theorem AddressPrefix.networkId_ofAddress (address : Address) {length : UInt8}
    (long : 7 ≤ length.toNat) :
    (ofAddress address length).address.networkId = address.networkId := by
  apply Address.networkId_eq_of_bit
  intro place leading
  rw [bit_ofAddress _ _ (by omega), decide_eq_true (Nat.lt_of_lt_of_le leading long), Bool.and_true]

namespace PrefixRegistry

variable {number : UInt32} {range : AddressPrefix} {address : Address} {length : UInt8}

/-- A network whose number ends in a byte above 127 takes no prefix. -/
theorem not_admits_of_wide (wide : 128 ≤ number.toNat % 256) (range : AddressPrefix) :
    ¬ Admits (.ofWord number) range := by
  intro admits
  have narrow := range.address.toNat_networkId_lt
  rw [(admits_iff.mp admits).2, NetId.toNat_networkId_ofWord] at narrow
  omega

/-- A network takes a prefix of its own exactly when its number ends in a byte of seven bits. -/
theorem admits_own_iff (own : address.OfNetwork number) (long : 7 ≤ length.toNat) :
    Admits (.ofWord number) (.ofAddress address length) ↔ number.toNat % 256 < 128 := by
  constructor
  · intro admits
    by_contra wide
    exact not_admits_of_wide (Nat.not_lt.mp wide) _ admits
  · intro narrow
    have reach : 7 ≤ (AddressPrefix.ofAddress address length).length.toNat := by
      rw [AddressPrefix.toNat_length_ofAddress]
      omega
    refine admits_iff.mpr ⟨reach, UInt8.toNat_inj.mp ?_⟩
    rw [AddressPrefix.networkId_ofAddress address long, own, NetId.toNat_networkId_ofWord]
    omega

/-- A prefix of a network has only addresses with the bits of the network in front. -/
theorem Admits.ofNetwork (admits : Admits (.ofWord number) range)
    (under : address.hasPrefix range = true) : address.OfNetwork number := by
  have same := congrArg UInt8.toNat (admits.networkId_eq under)
  have narrow := address.toNat_networkId_lt
  rw [NetId.toNat_networkId_ofWord] at same
  rw [Address.OfNetwork]
  omega

/-- After a prefix is made available every draw for any of its usages finds an address. Other prefixes
may serve them too, but whichever is drawn, the address is of the network. -/
theorem exists_allocate_of_registered (calls : List PrefixConfig)
    (admits : Admits (.ofWord number) range) {usages required : List String}
    (offered : ∀ usage ∈ required, usage ∈ usages) (draw : Draw) : ∃ given,
    ((empty (.ofWord number)).registerAll (calls ++ [⟨range, usages⟩])).allocate required draw =
        .ok given ∧ given.OfNetwork number := by
  have accepted : LastAccepted (.ofWord number) (calls ++ [⟨range, usages⟩]) range usages :=
    lastAccepted_concat.mpr (by rw [if_pos ⟨admits, rfl⟩])
  have member := mem_prefixesFor_registerAll.mpr ⟨usages, accepted, offered⟩
  obtain ⟨given, ran⟩ := exists_allocate_of_mem member draw
  obtain ⟨source, serving, under⟩ := exists_mem_of_allocate ran
  have sourceAdmits := (mem_prefixesFor_registerAll.mp serving).admits
  exact ⟨given, ran, sourceAdmits.ofNetwork under⟩

end PrefixRegistry

namespace Server

open PrefixRegistry

variable {σ : Type}

/-- The networks that can have prefixes of their own. Whatever prefixes were made available before,
a server takes the prefix of an address of its network, of any length from seven on, exactly when
the number of the network ends in a byte below 128. From then on every draw for any of its usages
gives an address of the network. With a byte of 128 or more the server refuses every prefix that is
long enough as one of another network, and nothing can be allocated. -/
theorem own_prefixes_taken_iff_narrow (devices : σ) (number : UInt32) (calls : List PrefixConfig) :
    let server : Server σ := ⟨(empty (.ofWord number)).registerAll calls, devices⟩
    (∀ (address : Address) (length : UInt8) (usages : List String), address.OfNetwork number →
      7 ≤ length.toNat →
      ((∃ next, server.usePrefix (.ofAddress address length) usages = .ok next) ↔
        number.toNat % 256 < 128) ∧
      ∀ next, server.usePrefix (.ofAddress address length) usages = .ok next →
        ∀ required, (∀ usage ∈ required, usage ∈ usages) → ∀ draw, ∃ given,
          next.registry.allocate required draw = .ok given ∧ given.OfNetwork number) ∧
    (128 ≤ number.toNat % 256 →
      (∀ (range : AddressPrefix) (usages : List String), 7 ≤ range.length.toNat →
        server.usePrefix range usages =
          .error (.invalidArgument .addressPrefix .foreignNetwork)) ∧
      ∀ required draw, server.registry.allocate required draw =
        .error (.notFound (.addressPrefix required))) := by
  intro server
  have network : server.registry.netId = .ofWord number := netId_registerAll _ _
  refine ⟨fun address length usages own long => ⟨?_, fun next taken => ?_⟩, fun wide => ⟨?_, ?_⟩⟩
  · rw [← admits_own_iff own long, ← network]
    constructor
    · rintro ⟨next, taken⟩
      exact (usePrefix_eq_ok_iff.mp taken).1
    · intro admits
      exact ⟨_, usePrefix_eq_ok_iff.mpr ⟨admits, rfl⟩⟩
  · obtain ⟨admits, rfl⟩ := usePrefix_eq_ok_iff.mp taken
    rw [network] at admits
    intro required offered draw
    change ∃ given, (server.registry.attempt _).allocate required draw = .ok given ∧ _
    rw [← registerAll_concat]
    exact exists_allocate_of_registered calls admits offered draw
  · intro range usages long
    have refuses : ¬ Admits server.registry.netId range := network ▸ not_admits_of_wide wide range
    rw [usePrefix, register_of_foreign long refuses]
    rfl
  · intro required draw
    apply allocate_of_none
    apply List.eq_nil_iff_forall_not_mem.mpr
    intro range member
    exact not_admits_of_wide wide range (mem_prefixesFor_registerAll.mp member).admits

/-- A number of 32 bits that ends in 0x13, on a server that already has another prefix of its
network, and a number whose last byte has the same seven lowest bits and an eighth. -/
theorem own_prefixes_taken_iff_narrow_same_bits :
    let own : Address := ⟨0x27ABCDEF⟩
    let earlier : PrefixConfig := ⟨.ofAddress ⟨0x26000000⟩ 8, ["otaa"]⟩
    let server : Server Unit := ⟨(empty (.ofWord 0xFFFFFF13)).registerAll [earlier], ()⟩
    let wide : Server Unit := ⟨(empty (.ofWord 0x93)).registerAll [earlier], ()⟩
    own.OfNetwork 0xFFFFFF13 ∧ own.OfNetwork 0x93 ∧
      (∃ next, server.usePrefix (.ofAddress own 16) ["otaa", "tenant"] = .ok next ∧
        ∀ draw, ∃ given, next.registry.allocate ["tenant"] draw = .ok given ∧
          given.OfNetwork 0xFFFFFF13) ∧
      wide.usePrefix (.ofAddress own 16) ["otaa", "tenant"] =
        .error (.invalidArgument .addressPrefix .foreignNetwork) := by
  intro own earlier server wide
  have belongs : own.OfNetwork 0xFFFFFF13 := by decide
  have alike : own.OfNetwork 0x93 := by decide
  obtain ⟨narrow, _⟩ := own_prefixes_taken_iff_narrow () 0xFFFFFF13 [earlier]
  obtain ⟨_, refused⟩ := own_prefixes_taken_iff_narrow () 0x93 [earlier]
  obtain ⟨taken, allocated⟩ := narrow own 16 ["otaa", "tenant"] belongs (by decide)
  obtain ⟨next, accepted⟩ := taken.mpr (by decide)
  refine ⟨belongs, alike, ⟨next, accepted, ?_⟩, (refused (by decide)).1 _ _ (by decide)⟩
  exact allocated next accepted ["tenant"] (by decide)

/-- The network 0x93 cannot have the prefix of all addresses with its seven lowest bits in front. -/
theorem own_prefix_refused :
    ¬ ∀ (number : UInt32) (address : Address) (length : UInt8) (usages : List String),
      address.OfNetwork number → 7 ≤ length.toNat → length.toNat ≤ 32 →
        ∃ next, (ofNetId () number).usePrefix (.ofAddress address length) usages = .ok next := by
  intro taken
  have own : (⟨0x26000000⟩ : Address).OfNetwork 0x93 := by decide
  obtain ⟨next, ran⟩ := taken 0x93 ⟨0x26000000⟩ 7 ["otaa"] own (by decide) (by decide)
  have refused : (ofNetId () 0x93).usePrefix (.ofAddress ⟨0x26000000⟩ 7) ["otaa"] =
      .error (.invalidArgument .addressPrefix .foreignNetwork) := rfl
  rw [refused] at ran
  cases ran

end Server

end LoRaNetwork
