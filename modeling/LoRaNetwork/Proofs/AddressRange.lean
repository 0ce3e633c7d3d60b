import LoRaNetwork.Address.Prefix

/-! Addresses and prefixes bit by bit. The mask of a prefix is described once, by its bits, and what
masking does to a word follows for each bit alone: an address under a prefix has its bits as far as
the prefix reaches, and putting an address under a prefix changes these bits and no others. A length
above 32 reaches over all bits, and so does 32. A prefix in normal form has no other bits than those
over which it reaches, so it is what its own address and length make; and making a normal form of a
prefix changes nothing that it does to addresses. A range lies within another exactly when it has
the bits of the other and reaches at least as far. -/
namespace LoRaNetwork

/-- A word has no bits beyond its 32. -/
private theorem testBit_beyond (word : UInt32) {place : Nat} (beyond : 32 ≤ place) :
    word.toNat.testBit place = false :=
  Nat.testBit_lt_two_pow
    (Nat.lt_of_lt_of_le word.toNat_lt (Nat.pow_le_pow_right (by decide) beyond))

/-- The mask of a prefix has the bits over which the prefix reaches, counted from the front. -/
theorem testBit_leadingBits (length : UInt8) {place : Nat} (inside : place < 32) :
    (leadingBits length).toNat.testBit (31 - place) = decide (place < length.toNat) := by
  have allBits : (0xFFFFFFFF : UInt32).toNat = 2 ^ 32 - 1 := rfl
  unfold leadingBits
  split
  · rename_i none
    subst none
    have zero : (0 : UInt32).toNat = 0 := rfl
    rw [zero, Nat.zero_testBit]
    simp
  · split
    · rename_i all
      have all := UInt8.le_iff_toNat_le.mp all
      have reached : place < length.toNat := Nat.lt_of_lt_of_le inside all
      rw [allBits, Nat.testBit_two_pow_sub_one]
      simp only [reached, decide_true, decide_eq_true_eq]
      omega
    · rename_i some notAll
      have positive : length.toNat ≠ 0 := fun zero => some (UInt8.toNat_inj.mp zero)
      have short : length.toNat < 32 := UInt8.lt_iff_toNat_lt.mp (UInt8.not_le.mp notAll)
      have shift : (32 - length.toUInt32).toNat = 32 - length.toNat := by
        have fits : length.toUInt32 ≤ 32 := by
          rw [UInt32.le_iff_toNat_le, UInt8.toNat_toUInt32]
          exact Nat.le_of_lt short
        rw [UInt32.toNat_sub_of_le _ _ fits, UInt8.toNat_toUInt32]
        rfl
      have inWord : (32 - length.toNat) % 32 = 32 - length.toNat := Nat.mod_eq_of_lt (by omega)
      rw [UInt32.toNat_shiftLeft, allBits, shift, inWord, Nat.testBit_mod_two_pow,
        Nat.testBit_shiftLeft, Nat.testBit_two_pow_sub_one, ← Bool.decide_and, ← Bool.decide_and,
        decide_eq_decide]
      omega

namespace Address

/-- A bit of an address, counted from the front. -/
def bit (address : Address) (place : Nat) : Bool :=
  address.word.toNat.testBit (31 - place)

theorem bit_zero (place : Nat) : (Address.mk 0).bit place = false := by
  simp [bit]

theorem bit_full {place : Nat} (inside : place < 32) :
    (Address.mk 0xFFFFFFFF).bit place = true := by
  have full : (0xFFFFFFFF : UInt32).toNat = 2 ^ 32 - 1 := rfl
  rw [bit, full, Nat.testBit_two_pow_sub_one]
  exact decide_eq_true (by omega)

/-- An address is its 32 bits. -/
theorem eq_of_bit {address other : Address}
    (same : ∀ place < 32, address.bit place = other.bit place) : address = other := by
  obtain ⟨word⟩ := address
  obtain ⟨otherWord⟩ := other
  congr 1
  apply UInt32.toNat_inj.mp
  apply Nat.eq_of_testBit_eq
  intro place
  by_cases inside : place < 32
  · have here : 31 - (31 - place) = place := by omega
    have bits := same (31 - place) (by omega)
    rwa [bit, bit, here] at bits
  · rw [testBit_beyond _ (Nat.not_lt.mp inside), testBit_beyond _ (Nat.not_lt.mp inside)]

/-- A masked word keeps the bits over which the prefix reaches. -/
private theorem testBit_and_leadingBits (word : UInt32) (length : UInt8) {place : Nat}
    (inside : place < 32) : (word &&& leadingBits length).toNat.testBit (31 - place) =
      (word.toNat.testBit (31 - place) && decide (place < length.toNat)) := by
  rw [UInt32.toNat_and, Nat.testBit_and, testBit_leadingBits length inside]

private theorem testBit_and_not_leadingBits (word : UInt32) (length : UInt8) {place : Nat}
    (inside : place < 32) : (word &&& ~~~leadingBits length).toNat.testBit (31 - place) =
      (word.toNat.testBit (31 - place) && !decide (place < length.toNat)) := by
  have complement : (~~~leadingBits length).toNat =
      2 ^ 32 - ((leadingBits length).toNat + 1) := by
    have size : UInt32.size = 2 ^ 32 := rfl
    rw [UInt32.toNat_not, Nat.sub_sub, Nat.add_comm, size]
  have within : 31 - place < 32 := by omega
  rw [UInt32.toNat_and, Nat.testBit_and, complement,
    Nat.testBit_two_pow_sub_succ (leadingBits length).toNat_lt, testBit_leadingBits length inside]
  simp only [within, decide_true, Bool.true_and]

/-- Putting an address under a prefix gives it the bits of the prefix as far as it reaches and
leaves all others. -/
theorem bit_withPrefix (address : Address) (range : AddressPrefix) {place : Nat}
    (inside : place < 32) : (address.withPrefix range).bit place =
      if place < range.length.toNat then range.address.bit place else address.bit place := by
  rw [bit, withPrefix, UInt32.toNat_or, Nat.testBit_or, testBit_and_not_leadingBits _ _ inside,
    testBit_and_leadingBits _ _ inside]
  by_cases reached : place < range.length.toNat
  · simp [reached, bit]
  · simp [reached, bit]

/-- An address is under a prefix when it has its bits as far as it reaches. -/
theorem hasPrefix_iff {address : Address} {range : AddressPrefix} :
    address.hasPrefix range = true ↔
      ∀ place < 32, place < range.length.toNat → address.bit place = range.address.bit place := by
  rw [hasPrefix, beq_iff_eq]
  constructor
  · intro same place inside reached
    have bits := congrArg (fun word => word.toNat.testBit (31 - place)) same
    rw [testBit_and_leadingBits _ _ inside, testBit_and_leadingBits _ _ inside] at bits
    simpa [reached, bit] using bits
  · intro same
    have masked : Address.mk (address.word &&& leadingBits range.length) =
        ⟨range.address.word &&& leadingBits range.length⟩ := by
      apply eq_of_bit
      intro place inside
      rw [bit, bit, testBit_and_leadingBits _ _ inside, testBit_and_leadingBits _ _ inside]
      by_cases reached : place < range.length.toNat
      · have bits := same place inside reached
        rw [bit, bit] at bits
        rw [bits]
      · simp [reached]
    exact congrArg Address.word masked

/-- Whatever address one starts from, it ends up under the prefix. -/
theorem hasPrefix_withPrefix (address : Address) (range : AddressPrefix) :
    (address.withPrefix range).hasPrefix range = true := by
  apply hasPrefix_iff.mpr
  intro place inside reached
  rw [bit_withPrefix _ _ inside, if_pos reached]

/-- An address that is under a prefix already stays as it is. -/
theorem withPrefix_of_hasPrefix {address : Address} {range : AddressPrefix}
    (under : address.hasPrefix range = true) : address.withPrefix range = address := by
  apply eq_of_bit
  intro place inside
  rw [bit_withPrefix _ _ inside]
  split
  · rename_i reached
    exact (hasPrefix_iff.mp under place inside reached).symm
  · rfl

theorem hasPrefix_iff_withPrefix_eq {address : Address} {range : AddressPrefix} :
    address.hasPrefix range = true ↔ address.withPrefix range = address := by
  constructor
  · exact withPrefix_of_hasPrefix
  · intro kept
    have under := hasPrefix_withPrefix address range
    rwa [kept] at under

/-- The first seven bits of an address name its network. -/
theorem networkId_eq_of_bit {address other : Address}
    (same : ∀ place < 7, address.bit place = other.bit place) :
    address.networkId = other.networkId := by
  have leading : address.word >>> 25 = other.word >>> 25 := by
    have amount : (25 : UInt32).toNat % 32 = 25 := rfl
    apply UInt32.toNat_inj.mp
    rw [UInt32.toNat_shiftRight, UInt32.toNat_shiftRight, amount]
    apply Nat.eq_of_testBit_eq
    intro place
    rw [Nat.testBit_shiftRight, Nat.testBit_shiftRight]
    by_cases inside : place < 7
    · have here : 31 - (6 - place) = 25 + place := by omega
      have bits := same (6 - place) (by omega)
      rwa [bit, bit, here] at bits
    · rw [testBit_beyond _ (by omega), testBit_beyond _ (by omega)]
  rw [networkId, networkId, leading]

/-- A prefix that reaches over the bits that name a network keeps all its addresses in that
network. -/
theorem networkId_of_hasPrefix {address : Address} {range : AddressPrefix}
    (long : 7 ≤ range.length.toNat) (under : address.hasPrefix range = true) :
    address.networkId = range.address.networkId := by
  apply networkId_eq_of_bit
  intro place leading
  exact hasPrefix_iff.mp under place (by omega) (by omega)

end Address

namespace AddressPrefix

/-- In normal form a prefix has at most 32 bits, and its address has none beyond them. -/
structure IsNormal (range : AddressPrefix) : Prop where
  length_le : range.length.toNat ≤ 32
  bit_beyond : ∀ place < 32, range.length.toNat ≤ place → range.address.bit place = false

@[simp]
theorem toNat_length_ofAddress (address : Address) (length : UInt8) :
    (ofAddress address length).length.toNat = min length.toNat 32 := by
  change (if length ≤ 32 then length else 32).toNat = _
  have cap : (32 : UInt8).toNat = 32 := rfl
  split
  · rename_i within
    exact (Nat.min_eq_left (UInt8.le_iff_toNat_le.mp within)).symm
  · rename_i beyond
    have beyond := UInt8.lt_iff_toNat_lt.mp (UInt8.not_le.mp beyond)
    omega

/-- The prefix of an address has its bits as far as it reaches, and no others. -/
theorem bit_ofAddress (address : Address) (length : UInt8) {place : Nat} (inside : place < 32) :
    (ofAddress address length).address.bit place =
      (address.bit place && decide (place < length.toNat)) := by
  have reach : place < (min length 32).toNat ↔ place < length.toNat := by
    have capped : (min length 32).toNat = min length.toNat 32 := toNat_length_ofAddress address length
    omega
  rw [Address.bit, ofAddress, Address.testBit_and_leadingBits _ _ inside, decide_eq_decide.mpr reach,
    Address.bit]

theorem isNormal_ofAddress (address : Address) (length : UInt8) :
    (ofAddress address length).IsNormal := by
  constructor
  · rw [toNat_length_ofAddress]
    exact Nat.min_le_right _ _
  · intro place inside beyond
    rw [toNat_length_ofAddress] at beyond
    have notReached : ¬ place < length.toNat := by omega
    rw [bit_ofAddress _ _ inside, decide_eq_false notReached, Bool.and_false]

/-- A prefix in normal form is made of its own address and length. -/
theorem ofAddress_of_isNormal {range : AddressPrefix} (normal : range.IsNormal) :
    ofAddress range.address range.length = range := by
  have length : (ofAddress range.address range.length).length = range.length := by
    apply UInt8.toNat_inj.mp
    rw [toNat_length_ofAddress, Nat.min_eq_left normal.length_le]
  have address : (ofAddress range.address range.length).address = range.address := by
    apply Address.eq_of_bit
    intro place inside
    rw [bit_ofAddress _ _ inside]
    by_cases reached : place < range.length.toNat
    · rw [decide_eq_true reached, Bool.and_true]
    · rw [decide_eq_false reached, Bool.and_false,
        normal.bit_beyond place inside (Nat.not_lt.mp reached)]
  obtain ⟨word, count⟩ := range
  exact (AddressPrefix.mk.injEq ..).mpr ⟨address, length⟩

variable {range other : AddressPrefix}

/-- A range lies within another exactly when it has the bits of the other and reaches at least as
far. -/
theorem within_iff :
    (∀ address : Address, address.hasPrefix range = true → address.hasPrefix other = true) ↔
      ∀ place < 32, place < other.length.toNat →
        place < range.length.toNat ∧ range.address.bit place = other.address.bit place := by
  constructor
  · intro within place inside reached
    have shared (address : Address) :
        (address.withPrefix range).bit place = other.address.bit place :=
      Address.hasPrefix_iff.mp (within _ (Address.hasPrefix_withPrefix address range)) place inside
        reached
    -- These two addresses of the range differ in every bit over which it does not reach.
    have lowest := shared ⟨0⟩
    have highest := shared ⟨0xFFFFFFFF⟩
    rw [Address.bit_withPrefix _ _ inside] at lowest highest
    split at lowest
    · rename_i covered
      exact ⟨covered, lowest⟩
    · rename_i beyond
      rw [if_neg beyond, Address.bit_full inside, ← lowest, Address.bit_zero] at highest
      cases highest
  · intro shared address under
    apply Address.hasPrefix_iff.mpr
    intro place inside reached
    obtain ⟨covered, same⟩ := shared place inside reached
    rw [Address.hasPrefix_iff.mp under place inside covered, same]

/-- A range that reaches at least as far as another lies within it exactly when its own address
does. -/
theorem within_iff_hasPrefix
    (longer : min range.length.toNat 32 ≤ min other.length.toNat 32) :
    (∀ address : Address, address.hasPrefix other = true → address.hasPrefix range = true) ↔
      other.address.hasPrefix range = true := by
  rw [within_iff, Address.hasPrefix_iff]
  constructor
  · intro shared place inside reached
    exact (shared place inside reached).2
  · intro same place inside reached
    exact ⟨by omega, same place inside reached⟩

end AddressPrefix

namespace Address

open AddressPrefix

/-- The normal form of a prefix puts addresses under the same range. -/
theorem withPrefix_ofAddress (address : Address) (range : AddressPrefix) :
    address.withPrefix (ofAddress range.address range.length) = address.withPrefix range := by
  apply eq_of_bit
  intro place inside
  have reach : place < min range.length.toNat 32 ↔ place < range.length.toNat := by omega
  rw [bit_withPrefix _ _ inside, bit_withPrefix _ _ inside, toNat_length_ofAddress,
    bit_ofAddress _ _ inside]
  by_cases reached : place < range.length.toNat
  · rw [if_pos (reach.mpr reached), if_pos reached, decide_eq_true reached, Bool.and_true]
  · rw [if_neg (mt reach.mp reached), if_neg reached]

theorem hasPrefix_ofAddress (address : Address) (range : AddressPrefix) :
    address.hasPrefix (ofAddress range.address range.length) = address.hasPrefix range := by
  rw [Bool.eq_iff_iff, hasPrefix_iff_withPrefix_eq, withPrefix_ofAddress,
    hasPrefix_iff_withPrefix_eq]

/-- What a prefix of any length, with any bits set beyond it, does to addresses. An address that is
put under it gets its leading bits, as many as its length says and at most 32, and keeps the others;
the addresses under it are those that this leaves as they are, and what it gives is one of them. The
normal form of the prefix does the same. And a prefix that reaches at least as far has all its
addresses under the first one exactly when its own address is under it. -/
theorem overlay_takes_leading_bits (address : Address) (range : AddressPrefix) :
    (∀ place < 32, (address.withPrefix range).bit place =
      if place < min range.length.toNat 32 then range.address.bit place else address.bit place) ∧
    (address.hasPrefix range = true ↔ address.withPrefix range = address) ∧
    (address.withPrefix range).hasPrefix range = true ∧
    address.withPrefix (ofAddress range.address range.length) = address.withPrefix range ∧
    address.hasPrefix (ofAddress range.address range.length) = address.hasPrefix range ∧
    ∀ other : AddressPrefix, min range.length.toNat 32 ≤ min other.length.toNat 32 →
      ((∀ address : Address, address.hasPrefix other = true → address.hasPrefix range = true) ↔
        other.address.hasPrefix range = true) := by
  refine ⟨fun place inside => ?_, hasPrefix_iff_withPrefix_eq, hasPrefix_withPrefix address range,
    withPrefix_ofAddress address range, hasPrefix_ofAddress address range,
    fun other longer => within_iff_hasPrefix longer⟩
  have reach : place < min range.length.toNat 32 ↔ place < range.length.toNat := by omega
  rw [bit_withPrefix _ _ inside]
  exact ite_congr (propext reach.symm) (fun _ => rfl) (fun _ => rfl)

/-- A prefix with all bits set beyond its seven, and two that are longer than an address, one of
them under the first. -/
theorem overlay_takes_leading_bits_raw :
    let short : AddressPrefix := ⟨⟨0x27FFFFFF⟩, 7⟩
    let under : AddressPrefix := ⟨⟨0x2601AB00⟩, 200⟩
    let beside : AddressPrefix := ⟨⟨0x2801AB00⟩, 33⟩
    (⟨0xFF12ABCD⟩ : Address).withPrefix short = ⟨0x2712ABCD⟩ ∧
      (⟨0x2712ABCD⟩ : Address).hasPrefix short = true ∧
      (∀ address : Address, address.hasPrefix under = true → address.hasPrefix short = true) ∧
      ¬ ∀ address : Address, address.hasPrefix beside = true → address.hasPrefix short = true := by
  intro short under beside
  obtain ⟨_, _, reached, _, _, within⟩ := overlay_takes_leading_bits ⟨0xFF12ABCD⟩ short
  have overlaid : (⟨0xFF12ABCD⟩ : Address).withPrefix short = ⟨0x2712ABCD⟩ := by decide
  refine ⟨overlaid, overlaid ▸ reached, ?_, ?_⟩
  · exact (within under (by decide)).mpr (by decide)
  · exact mt (within beside (by decide)).mp (by decide)

end Address

end LoRaNetwork
