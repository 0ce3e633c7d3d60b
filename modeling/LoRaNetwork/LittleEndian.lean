/-!
Words as bytes, least significant first, the order of every number in a frame. The arithmetic is
division and remainder by 256, and writing undoes reading as long as the word has room.
-/

namespace LoRaNetwork

/-- The lowest `count` bytes of a word, least significant first. -/
def littleEndian : Nat → UInt32 → List UInt8
  | 0, _ => []
  | count + 1, word => word.toUInt8 :: littleEndian count (word / 256)

/-- The word that the bytes spell, least significant first. -/
def ofLittleEndian : List UInt8 → UInt32
  | [] => 0
  | byte :: rest => byte.toUInt32 + 256 * ofLittleEndian rest

@[simp]
theorem length_littleEndian (count : Nat) (word : UInt32) :
    (littleEndian count word).length = count := by
  induction count generalizing word with
  | zero => rfl
  | succ count ih => rw [littleEndian, List.length_cons, ih]

/-- How many numbers so many bytes can spell. -/
def byteRange : Nat → Nat
  | 0 => 1
  | count + 1 => 256 * byteRange count

theorem byteRange_pos (count : Nat) : 0 < byteRange count := by
  induction count with
  | zero => decide
  | succ count ih => rw [byteRange]; omega

/-- Three bytes leave room for a fourth in a word. -/
theorem byteRange_le {count : Nat} (room : count ≤ 3) : byteRange count ≤ 16777216 := by
  match count, room with
  | 0, _ | 1, _ | 2, _ | 3, _ => decide

theorem toNat_ofLittleEndian_lt (bytes : List UInt8) (room : bytes.length ≤ 4) :
    (ofLittleEndian bytes).toNat < byteRange bytes.length := by
  induction bytes with
  | nil => decide
  | cons byte rest ih =>
    have shorter : rest.length ≤ 3 := by simp only [List.length_cons] at room; omega
    have below := ih (by omega)
    have size := byteRange_le shorter
    have byteSize := byte.toNat_lt
    have radix : (256 : UInt32).toNat = 256 := rfl
    simp only [ofLittleEndian, UInt32.toNat_add, UInt32.toNat_mul, UInt8.toNat_toUInt32,
      List.length_cons, byteRange, radix]
    omega

/-- A byte before at most three others counts least. -/
theorem toNat_ofLittleEndian_cons (byte : UInt8) {rest : List UInt8} (room : rest.length ≤ 3) :
    (ofLittleEndian (byte :: rest)).toNat = 256 * (ofLittleEndian rest).toNat + byte.toNat := by
  have size := byteRange_le room
  have bound := toNat_ofLittleEndian_lt rest (by omega)
  have byteSize := byte.toNat_lt
  have radix : (256 : UInt32).toNat = 256 := rfl
  simp only [ofLittleEndian, UInt32.toNat_add, UInt32.toNat_mul, UInt8.toNat_toUInt32, radix]
  omega

/-- The number that at most four bytes spell. -/
theorem toNat_ofLittleEndian (bytes : List UInt8) (room : bytes.length ≤ 4) :
    (ofLittleEndian bytes).toNat =
      bytes.foldr (fun byte number => 256 * number + byte.toNat) 0 := by
  induction bytes with
  | nil => rfl
  | cons byte rest ih =>
    rw [List.length_cons] at room
    rw [toNat_ofLittleEndian_cons byte (by omega), ih (by omega), List.foldr_cons]

/-- Reading a word's lowest bytes gives the word modulo their range. -/
theorem toNat_ofLittleEndian_littleEndian (count : Nat) (word : UInt32) (room : count ≤ 4) :
    (ofLittleEndian (littleEndian count word)).toNat = word.toNat % byteRange count := by
  induction count generalizing word with
  | zero => simp [littleEndian, ofLittleEndian, byteRange, Nat.mod_one]
  | succ count ih =>
    have below := ih (word / 256) (by omega)
    have size := byteRange_le (show count ≤ 3 by omega)
    have radix : (256 : UInt32).toNat = 256 := rfl
    have remainder := Nat.mod_lt (word.toNat / 256) (byteRange_pos count)
    have split : word.toNat % byteRange (count + 1) =
        word.toNat % 256 + 256 * (word.toNat / 256 % byteRange count) := by
      rw [byteRange, Nat.mod_mul]
    simp only [littleEndian, ofLittleEndian, UInt32.toNat_add, UInt32.toNat_mul,
      UInt8.toNat_toUInt32, UInt32.toNat_toUInt8, UInt32.toNat_div, radix] at below ⊢
    rw [below, split]
    omega

/-- Four bytes hold a word exactly. -/
@[simp]
theorem ofLittleEndian_littleEndian_four (word : UInt32) :
    ofLittleEndian (littleEndian 4 word) = word := by
  apply UInt32.toNat_inj.mp
  rw [toNat_ofLittleEndian_littleEndian 4 word (Nat.le_refl 4)]
  exact Nat.mod_eq_of_lt word.toNat_lt

/-- Two bytes hold the lower half of a word. -/
theorem ofLittleEndian_littleEndian_two (word : UInt32) :
    ofLittleEndian (littleEndian 2 word) = word % 65536 := by
  apply UInt32.toNat_inj.mp
  rw [toNat_ofLittleEndian_littleEndian 2 word (by omega)]
  rfl

/-- Three bytes hold a word of 24 bits exactly. -/
theorem ofLittleEndian_littleEndian_three (word : UInt32) (fits : word ≤ 0xFFFFFF) :
    ofLittleEndian (littleEndian 3 word) = word := by
  apply UInt32.toNat_inj.mp
  rw [toNat_ofLittleEndian_littleEndian 3 word (by omega)]
  exact Nat.mod_eq_of_lt (Nat.lt_succ_of_le (UInt32.le_iff_toNat_le.mp fits))

/-- At most four bytes come back from the word that they spell. -/
theorem littleEndian_ofLittleEndian (bytes : List UInt8) (room : bytes.length ≤ 4) :
    littleEndian bytes.length (ofLittleEndian bytes) = bytes := by
  induction bytes with
  | nil => rfl
  | cons byte rest ih =>
    have shorter : rest.length ≤ 3 := by simp only [List.length_cons] at room; omega
    have byteSize := byte.toNat_lt
    have radix : (256 : UInt32).toNat = 256 := rfl
    have value := toNat_ofLittleEndian_cons byte shorter
    have low : (ofLittleEndian (byte :: rest)).toUInt8 = byte := by
      apply UInt8.toNat_inj.mp
      rw [UInt32.toNat_toUInt8, value]
      omega
    have high : ofLittleEndian (byte :: rest) / 256 = ofLittleEndian rest := by
      apply UInt32.toNat_inj.mp
      rw [UInt32.toNat_div, value, radix]
      omega
    rw [List.length_cons, littleEndian, low, high, ih (by omega)]

end LoRaNetwork
