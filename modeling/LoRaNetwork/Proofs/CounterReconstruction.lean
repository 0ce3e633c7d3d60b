import LoRaNetwork.Counter
import Mathlib.Data.List.Chain

/-! The whole counter found again. In numbers, the counter that goes with an observed lower half is
the first one from the last counter on that has this lower half, and the word holds it modulo 2³². So
as long as fewer than 2¹⁶ frames were lost in between, the counter found is the counter sent, also
when its lower half has started again meanwhile. This is true of a whole sequence of frames as well:
as each counter is found again, the next one is found from the right one. -/
namespace LoRaNetwork

/-- The mask takes the upper half of a word. -/
private theorem toNat_and_upperHalf (word : UInt32) :
    (word &&& 0xFFFF0000).toNat = (word.toNat / 65536) <<< 16 := by
  have mask : (0xFFFF0000 : UInt32).toNat = (2 ^ 16 - 1) <<< 16 := rfl
  have upper : word.toNat / 65536 = word.toNat >>> 16 := (Nat.shiftRight_eq_div_pow _ 16).symm
  rw [UInt32.toNat_and, mask, upper]
  apply Nat.eq_of_testBit_eq
  intro place
  rw [Nat.testBit_and, Nat.testBit_shiftLeft, Nat.testBit_shiftLeft, Nat.testBit_two_pow_sub_one,
    Nat.testBit_shiftRight]
  by_cases low : place < 16
  · simp [Nat.not_le.mpr low]
  · have same : 16 + (place - 16) = place := by omega
    by_cases inside : place < 32
    · have below : place - 16 < 16 := by omega
      simp [same, below, Nat.not_lt.mp low]
    · have above : word.toNat.testBit place = false :=
        Nat.testBit_lt_two_pow (Nat.lt_of_lt_of_le word.toNat_lt
          (Nat.pow_le_pow_right (by decide) (Nat.not_lt.mp inside)))
      simp [same, above]

/-- The upper half of one counter with the lower half of another. -/
private theorem toNat_upperHalf_or (last : UInt32) (low : UInt16) :
    ((last &&& 0xFFFF0000) ||| low.toUInt32).toNat = last.toNat / 65536 * 65536 + low.toNat := by
  rw [UInt32.toNat_or, toNat_and_upperHalf, UInt16.toNat_toUInt32,
    ← Nat.shiftLeft_add_eq_or_of_lt (i := 16) low.toNat_lt, Nat.shiftLeft_eq]

/-- How far the first counter with a lower half is from the last counter. -/
def stepsTo (last : UInt32) (low : UInt16) : Nat :=
  (low.toNat + 65536 - last.toNat % 65536) % 65536

theorem toNat_wholeCounter (last : UInt32) (low : UInt16) :
    (wholeCounter last low).toNat = (last.toNat + stepsTo last low) % UInt32.size := by
  have candidate := toNat_upperHalf_or last low
  have lastBound := last.toNat_lt
  have lowBound := low.toNat_lt
  have carry : (0x10000 : UInt32).toNat = 65536 := rfl
  have size : UInt32.size = 4294967296 := rfl
  rw [wholeCounter, stepsTo, size]
  split
  · rename_i behind
    have behind := UInt32.lt_iff_toNat_lt.mp behind
    rw [UInt32.toNat_add, candidate, carry]
    omega
  · rename_i ahead
    have ahead := UInt32.le_iff_toNat_le.mp (UInt32.not_lt.mp ahead)
    omega

/-- The counter found is behind the last one only where the words end: the last one is in the highest
2¹⁶ of them and no counter above it has the lower half. -/
theorem le_wholeCounter_iff {last : UInt32} {low : UInt16} : last ≤ wholeCounter last low ↔
    last.toNat < 0xFFFF0000 ∨ last.toNat % 0x10000 ≤ low.toNat := by
  have lastBound := last.toNat_lt
  have lowBound := low.toNat_lt
  have size : UInt32.size = 4294967296 := rfl
  rw [UInt32.le_iff_toNat_le, toNat_wholeCounter, stepsTo, size]
  omega

theorem wholeCounter_lt_iff {last : UInt32} {low : UInt16} : wholeCounter last low < last ↔
    0xFFFF0000 ≤ last.toNat ∧ low.toNat < last.toNat % 0x10000 := by
  rw [← UInt32.not_le, le_wholeCounter_iff, not_or, Nat.not_lt, Nat.not_le]

/-- A counter is fewer than 2¹⁶ steps after the last one, counted modulo 2³². -/
def StepsOn (last counter : UInt32) : Prop :=
  counter - last ≤ 0xFFFF

/-- A counter is found again from its lower half exactly when it is fewer than 2¹⁶ steps after the
last one: these are as many counters as there are lower halves, and no two of them share one. -/
theorem wholeCounter_eq_iff {last counter : UInt32} :
    wholeCounter last counter.toUInt16 = counter ↔ StepsOn last counter := by
  have lastBound := last.toNat_lt
  have counterBound := counter.toNat_lt
  have size : UInt32.size = 4294967296 := rfl
  have most : (0xFFFF : UInt32).toNat = 65535 := rfl
  rw [StepsOn, ← UInt32.toNat_inj, toNat_wholeCounter, stepsTo, UInt32.toNat_toUInt16, size,
    UInt32.le_iff_toNat_le, UInt32.toNat_sub, most]
  omega

/-- A counter that is less than 2¹⁶ ahead of the last one is found again from its lower half. -/
theorem wholeCounter_of_near {last counter : UInt32} (behind : last.toNat ≤ counter.toNat)
    (near : counter.toNat ≤ last.toNat + 0xFFFF) :
    wholeCounter last counter.toUInt16 = counter := by
  apply wholeCounter_eq_iff.mpr
  have ahead : (counter - last).toNat = counter.toNat - last.toNat :=
    UInt32.toNat_sub_of_le _ _ (UInt32.le_iff_toNat_le.mpr behind)
  rw [StepsOn, UInt32.le_iff_toNat_le, ahead]
  exact Nat.sub_le_iff_le_add'.mpr near

/-- Finding one counter after the other from the lower halves gives the counters that were sent
exactly when each is fewer than 2¹⁶ steps after the one before, by induction on the sequence. -/
theorem scanl_wholeCounter_iff {start : UInt32} {counters : List UInt32} :
    (counters.map UInt32.toUInt16).scanl wholeCounter start = start :: counters ↔
      (start :: counters).IsChain StepsOn := by
  induction counters generalizing start with
  | nil => simp
  | cons counter rest ih =>
    rw [List.map_cons, List.scanl_cons, List.isChain_cons_cons, ← wholeCounter_eq_iff]
    constructor
    · intro same
      have later := (List.cons.inj same).2
      have first : wholeCounter start counter.toUInt16 = counter := by
        have heads := congrArg List.head? later
        simpa using heads
      rw [first] at later
      exact ⟨first, ih.mp later⟩
    · rintro ⟨first, chain⟩
      rw [first, ih.mpr chain]

/-- A number that has a lower half and is not behind the last counter, but less than 2¹⁶ ahead
of it. -/
structure NextWith (last : UInt32) (low : UInt16) (number : Int) : Prop where
  not_behind : last.toNat ≤ number
  near : number ≤ last.toNat + 0xFFFF
  lower : number % 0x10000 = low.toNat

theorem nextWith_iff {last : UInt32} {low : UInt16} {number : Int} :
    NextWith last low number ↔ number = last.toNat + stepsTo last low := by
  have lowBound := low.toNat_lt
  rw [stepsTo]
  constructor
  · rintro ⟨notBehind, near, lower⟩
    omega
  · intro same
    constructor <;> omega

/-- Counters are found again exactly. Of the integers from the last counter to 0xFFFF after it one
alone has the observed lower half, and the counter found is this integer modulo 2³². It is below the
last counter exactly when that one is among the highest 2¹⁶ and its own lower half is beyond the
observed one. So a sequence of
counters modulo 2³² is found again from its lower halves, each counter from the one found before,
when every step is at most 0xFFFF, through any number of rounds of 16 and of 32 bits; and with a
longer step it is not. -/
theorem counters_found_again :
    (∀ (last : UInt32) (low : UInt16), ∃ number, NextWith last low number ∧
      (∀ other, NextWith last low other → other = number) ∧
      ((wholeCounter last low).toNat : Int) = number % 0x100000000) ∧
    (∀ (last : UInt32) (low : UInt16), wholeCounter last low < last ↔
      0xFFFF0000 ≤ last.toNat ∧ low.toNat < last.toNat % 0x10000) ∧
    ∀ (start : UInt32) (counters : List UInt32),
      (counters.map UInt32.toUInt16).scanl wholeCounter start = start :: counters ↔
        (start :: counters).IsChain fun last counter => counter - last ≤ 0xFFFF := by
  refine ⟨fun last low => ?_, fun last low => wholeCounter_lt_iff,
    fun start counters => scanl_wholeCounter_iff⟩
  refine ⟨last.toNat + stepsTo last low, nextWith_iff.mpr rfl, fun other => nextWith_iff.mp, ?_⟩
  rw [toNat_wholeCounter, Int.natCast_emod, Int.natCast_add]
  rfl

/-- A sequence that passes the end of the lower half, then the end of the words, and last takes the
longest step that is allowed. -/
theorem counters_found_again_past_both_ends :
    let counters : List UInt32 := [0xFFFF0003, 0xFFFFFFFE, 0x00000004, 0x00010003]
    (0xFFFEFFFE :: counters).IsChain (fun last counter => counter - last ≤ 0xFFFF) ∧
      [3, 0xFFFE, 4, 3].scanl wholeCounter 0xFFFEFFFE = 0xFFFEFFFE :: counters ∧
      NextWith 0xFFFFFFFE 4 0x100000004 ∧
      ((wholeCounter 0xFFFFFFFE 4).toNat : Int) = 0x100000004 % 0x100000000 ∧
      wholeCounter 0xFFFFFFFE 4 < 0xFFFFFFFE := by
  intro counters
  obtain ⟨found, behind, sequence⟩ := counters_found_again
  have steps : (0xFFFEFFFE :: counters).IsChain fun last counter => counter - last ≤ 0xFFFF := by
    decide
  have next : NextWith 0xFFFFFFFE 4 0x100000004 := ⟨by decide, by decide, by decide⟩
  obtain ⟨number, _, unique, same⟩ := found 0xFFFFFFFE 4
  rw [← unique _ next] at same
  exact ⟨steps, (sequence 0xFFFEFFFE counters).mpr steps, next, same, (behind _ _).mpr (by decide)⟩

end LoRaNetwork
