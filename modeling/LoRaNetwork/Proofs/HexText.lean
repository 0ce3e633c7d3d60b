import LoRaNetwork.Text.Hex
import LoRaNetwork.Proofs.Outcome
import Mathlib.Data.List.Basic
import Mathlib.Tactic.ByContra
import Mathlib.Tactic.SplitIfs

/-! Hexadecimal text as characters and numbers. Reading works on bytes, and a text may hold any
characters; but a digit is a character of one byte, and no other character has a byte that is a digit.
So what is read are the texts of digits alone, and the bytes spell the number that the digits spell. A
text that is not read is at fault for the number of its bytes, or else at the first byte that is no
digit. -/
namespace LoRaNetwork.Text.Hex

/-- The characters that stand for sixteen digits, letters in either case. -/
def IsDigit (c : Char) : Prop :=
  ('0' ≤ c ∧ c ≤ '9') ∨ ('A' ≤ c ∧ c ≤ 'F') ∨ ('a' ≤ c ∧ c ≤ 'f')

instance : DecidablePred IsDigit := fun _ => inferInstanceAs (Decidable (_ ∨ _ ∨ _))

/-- What a digit stands for. -/
def value (c : Char) : Nat :=
  if c ≤ '9' then c.toNat - 0x30 else if c ≤ 'F' then c.toNat - 0x37 else c.toNat - 0x57

/-- The number that digits spell, the first one counting most. -/
def number (digits : List Char) : Nat :=
  digits.foldl (fun number digit => 16 * number + value digit) 0

theorem isDigit_iff {c : Char} : IsDigit c ↔ (0x30 ≤ c.toNat ∧ c.toNat ≤ 0x39) ∨
    (0x41 ≤ c.toNat ∧ c.toNat ≤ 0x46) ∨ (0x61 ≤ c.toNat ∧ c.toNat ≤ 0x66) := by
  simp only [IsDigit, Char.le_def, UInt32.le_iff_toNat_le]
  rfl

theorem value_eq (c : Char) : value c =
    if c.toNat ≤ 0x39 then c.toNat - 0x30
    else if c.toNat ≤ 0x46 then c.toNat - 0x37 else c.toNat - 0x57 := by
  simp only [value, Char.le_def, UInt32.le_iff_toNat_le]
  rfl

theorem value_lt {c : Char} (digit : IsDigit c) : value c < 16 := by
  rw [isDigit_iff] at digit
  rw [value_eq]
  split_ifs <;> omega

theorem toNat_ofNat_byte (byte : UInt8) : (Char.ofNat byte.toNat).toNat = byte.toNat := by
  have bound := byte.toNat_lt
  have valid : byte.toNat.isValidChar := .inl (by omega)
  rw [Char.ofNat, dif_pos valid]
  rfl

/-- A byte is read as the digit that is the character of the same number. -/
theorem digitValue?_eq (byte : UInt8) : digitValue? byte =
    if IsDigit (Char.ofNat byte.toNat) then some (.ofNat (value (Char.ofNat byte.toNat)))
    else none := by
  have subtract (offset : UInt8) (above : offset.toNat ≤ byte.toNat) :
      byte - offset = .ofNat (byte.toNat - offset.toNat) := by
    apply UInt8.toNat_inj.mp
    have bound := byte.toNat_lt
    rw [UInt8.toNat_sub_of_le _ _ (UInt8.le_iff_toNat_le.mpr above), UInt8.toNat_ofNat']
    omega
  simp only [digitValue?, isDigit_iff, value_eq, toNat_ofNat_byte, UInt8.le_iff_toNat_le,
    UInt8.reduceToNat]
  by_cases decimal : 48 ≤ byte.toNat ∧ byte.toNat ≤ 57
  · rw [if_pos decimal, if_pos (.inl decimal), if_pos decimal.2, subtract 48 decimal.1]
    rfl
  · rw [if_neg decimal]
    by_cases upper : 65 ≤ byte.toNat ∧ byte.toNat ≤ 70
    · have above : ¬ byte.toNat ≤ 57 := by omega
      have offset : (55 : UInt8).toNat ≤ byte.toNat := Nat.le_trans (by decide) upper.1
      rw [if_pos upper, if_pos (.inr (.inl upper)), if_neg above, if_pos upper.2, subtract 55 offset]
      rfl
    · rw [if_neg upper]
      by_cases lower : 97 ≤ byte.toNat ∧ byte.toNat ≤ 102
      · have above : ¬ byte.toNat ≤ 57 := by omega
        have beyond : ¬ byte.toNat ≤ 70 := by omega
        have offset : (87 : UInt8).toNat ≤ byte.toNat := Nat.le_trans (by decide) lower.1
        rw [if_pos lower, if_pos (.inr (.inr lower)), if_neg above, if_neg beyond,
          subtract 87 offset]
        rfl
      · rw [if_neg lower, if_neg (by simp [decimal, upper, lower])]

/-- A character of the first 128 is written as one byte. -/
theorem utf8EncodeChar_of_lt {c : Char} (ascii : c.toNat < 0x80) :
    String.utf8EncodeChar c = [.ofNat c.toNat] := by
  have single : c.val.toNat ≤ 0x7f := Nat.le_of_lt_succ ascii
  rw [String.utf8EncodeChar, if_pos single]
  rfl

/-- Any other character is written in bytes from 128 on. -/
theorem exists_byte_of_ge {c : Char} (beyond : 0x80 ≤ c.toNat) :
    ∃ byte ∈ String.utf8EncodeChar c, 0x80 ≤ byte.toNat := by
  have beyond : ¬ c.val.toNat ≤ 0x7f := Nat.not_le.mpr beyond
  rw [String.utf8EncodeChar]
  simp only [if_neg beyond]
  split
  · refine ⟨_, List.mem_cons_self, ?_⟩
    rw [UInt8.toNat_ofNat']
    omega
  · split
    · refine ⟨_, List.mem_cons_self, ?_⟩
      rw [UInt8.toNat_ofNat']
      omega
    · refine ⟨_, List.mem_cons_self, ?_⟩
      rw [UInt8.toNat_ofNat']
      omega

/-- Digits are characters of one byte. -/
theorem toNat_lt_of_isDigit {c : Char} (digit : IsDigit c) : c.toNat < 0x80 := by
  rw [isDigit_iff] at digit
  omega

theorem ofNat_toNat_of_lt {c : Char} (ascii : c.toNat < 0x80) :
    Char.ofNat (UInt8.ofNat c.toNat).toNat = c := by
  have byte : (UInt8.ofNat c.toNat).toNat = c.toNat :=
    UInt8.toNat_ofNat_of_lt' (Nat.lt_trans ascii (by decide))
  rw [byte, Char.ofNat_toNat]

/-- A text of one byte a character has the same characters as its bytes. -/
theorem map_utf8 {text : String} (ascii : ∀ c ∈ text.toList, c.toNat < 0x80) :
    (utf8 text).map (fun byte => Char.ofNat byte.toNat) = text.toList := by
  rw [utf8]
  generalize text.toList = chars at ascii ⊢
  induction chars with
  | nil => rfl
  | cons c rest ih =>
    obtain ⟨first, others⟩ := List.forall_mem_cons.mp ascii
    rw [List.flatMap_cons, List.map_append, utf8EncodeChar_of_lt first, ih others, List.map_singleton,
      ofNat_toNat_of_lt first]
    rfl

/-- The bytes of a text are digits when its characters are. -/
theorem forall_utf8_isDigit {text : String} :
    (∀ byte ∈ utf8 text, IsDigit (Char.ofNat byte.toNat)) ↔ ∀ c ∈ text.toList, IsDigit c := by
  constructor
  · intro digits c member
    have inside {byte : UInt8} (written : byte ∈ String.utf8EncodeChar c) : byte ∈ utf8 text :=
      List.mem_flatMap.mpr ⟨c, member, written⟩
    have ascii : c.toNat < 0x80 := by
      by_contra beyond
      obtain ⟨byte, written, high⟩ := exists_byte_of_ge (Nat.not_lt.mp beyond)
      have low := toNat_lt_of_isDigit (digits byte (inside written))
      rw [toNat_ofNat_byte] at low
      omega
    have written : UInt8.ofNat c.toNat ∈ String.utf8EncodeChar c := by
      rw [utf8EncodeChar_of_lt ascii]
      exact List.mem_singleton_self _
    have digit := digits _ (inside written)
    rwa [ofNat_toNat_of_lt ascii] at digit
  · intro digits byte member
    have same := map_utf8 fun c member => toNat_lt_of_isDigit (digits c member)
    apply digits
    rw [← same]
    exact List.mem_map_of_mem member

theorem readDigit_eq (index : Nat) (byte : UInt8) : readDigit index byte =
    if IsDigit (Char.ofNat byte.toNat) then .ok (.ofNat (value (Char.ofNat byte.toNat)))
    else .error (.badDigit byte index) := by
  rw [readDigit, digitValue?_eq]
  by_cases digit : IsDigit (Char.ofNat byte.toNat)
  · rw [if_pos digit, if_pos digit]
  · rw [if_neg digit, if_neg digit]

theorem readDigit_eq_ok_iff {index : Nat} {byte digit : UInt8} : readDigit index byte = .ok digit ↔
    IsDigit (Char.ofNat byte.toNat) ∧ .ofNat (value (Char.ofNat byte.toNat)) = digit := by
  rw [readDigit_eq]
  split_ifs with isDigit
  · simp [isDigit]
  · simp [isDigit]

/-- The first byte that is no digit, where `index` is the place of the first one. -/
def firstBad? (index : Nat) (bytes : List UInt8) : Option HexError :=
  ((bytes.zipIdx index).find? fun entry => ¬ IsDigit (Char.ofNat entry.1.toNat)).map
    fun entry => .badDigit entry.1 entry.2

theorem firstBad?_cons (index : Nat) (byte : UInt8) (rest : List UInt8) :
    firstBad? index (byte :: rest) =
      (failure? (readDigit index byte)).or (firstBad? (index + 1) rest) := by
  rw [readDigit_eq, firstBad?, List.zipIdx_cons, List.find?_cons]
  by_cases digit : IsDigit (Char.ofNat byte.toNat)
  · simp [digit, firstBad?]
  · simp [digit]

theorem firstBad?_eq_none_iff {index : Nat} {bytes : List UInt8} :
    firstBad? index bytes = none ↔ ∀ byte ∈ bytes, IsDigit (Char.ofNat byte.toNat) := by
  induction bytes generalizing index with
  | nil => simp [firstBad?]
  | cons byte rest ih =>
    rw [firstBad?_cons, List.forall_mem_cons, Option.or_eq_none_iff, ih, readDigit_eq]
    by_cases digit : IsDigit (Char.ofNat byte.toNat)
    · simp [digit]
    · simp [digit]

/-- An even number of bytes of which there are no first two is none. -/
private theorem eq_nil_of_short {text : List UInt8} (even : text.length % 2 = 0)
    (short : ∀ first second rest, text = first :: second :: rest → False) : text = [] := by
  cases text with
  | nil => rfl
  | cons first rest =>
    cases rest with
    | nil => simp at even
    | cons second rest => exact absurd rfl (short first second rest)

/-- Reading pairs fails at the first byte that is no digit. -/
theorem failure?_readPairs {index : Nat} {text : List UInt8} (even : text.length % 2 = 0) :
    failure? (readPairs index text) = firstBad? index text := by
  fun_induction readPairs index text with
  | case1 index high low rest ih =>
    have even : rest.length % 2 = 0 := by
      simp only [List.length_cons] at even
      omega
    rw [firstBad?_cons, firstBad?_cons, ← ih even]
    refine failure?_bind fun _ _ => failure?_bind fun _ _ => failure?_bind_total fun _ => rfl
  | case2 text index short =>
    rw [eq_nil_of_short even short]
    rfl

/-- Two digits make up a byte, the first one counting most. -/
private theorem toNat_pair {high low : Nat} (highDigit : high < 16) (lowDigit : low < 16) :
    (UInt8.ofNat high <<< 4 ||| UInt8.ofNat low).toNat = 16 * high + low := by
  have amount : (4 : UInt8).toNat % 8 = 4 := rfl
  have ofDigit {digit : Nat} (small : digit < 16) : (UInt8.ofNat digit).toNat = digit :=
    UInt8.toNat_ofNat_of_lt' (Nat.lt_trans small (by decide))
  have inside : high <<< 4 % 2 ^ 8 = high <<< 4 := by
    rw [Nat.shiftLeft_eq]
    omega
  rw [UInt8.toNat_or, UInt8.toNat_shiftLeft, amount, ofDigit highDigit, ofDigit lowDigit, inside,
    ← Nat.shiftLeft_add_eq_or_of_lt lowDigit, Nat.shiftLeft_eq]
  omega

/-- The bytes that are read spell the same number as the digits. -/
theorem number_of_readPairs {index : Nat} {text bytes : List UInt8} (even : text.length % 2 = 0)
    (read : readPairs index text = .ok bytes) (start : Nat) :
    bytes.foldl (fun number byte => 256 * number + byte.toNat) start =
      (text.map fun byte => Char.ofNat byte.toNat).foldl
        (fun number digit => 16 * number + value digit) start := by
  fun_induction readPairs index text generalizing bytes start with
  | case1 index high low rest ih =>
    have even : rest.length % 2 = 0 := by
      simp only [List.length_cons] at even
      omega
    simp only [bind_eq_ok_iff, readDigit_eq_ok_iff, Except.ok.injEq] at read
    obtain ⟨_, ⟨highDigit, rfl⟩, _, ⟨lowDigit, rfl⟩, others, readOthers, rfl⟩ := read
    have step : 256 * start + (16 * value (Char.ofNat high.toNat) + value (Char.ofNat low.toNat)) =
        16 * (16 * start + value (Char.ofNat high.toNat)) + value (Char.ofNat low.toNat) := by
      omega
    rw [List.foldl_cons, toNat_pair (value_lt highDigit) (value_lt lowDigit), ih even readOthers,
      step]
    rfl
  | case2 text index short =>
    cases read
    rw [eq_nil_of_short even short]
    rfl

/-- Why a text is not the hexadecimal form of `n` bytes: first its number of bytes counts, then the
first byte that is no digit. -/
def fault? (n : Nat) (text : String) : Option HexError :=
  if (utf8 text).length % 2 ≠ 0 then some .oddLength
  else if (utf8 text).length ≠ 2 * n then some .wrongLength
  else firstBad? 0 (utf8 text)

/-- The bytes that are read, without their number in the type. -/
theorem map_toList_decode (n : Nat) (text : String) : (decode n text).map Octets.toList =
    if (utf8 text).length % 2 ≠ 0 then .error .oddLength
    else if (utf8 text).length / 2 = n then readPairs 0 (utf8 text) else .error .wrongLength := by
  unfold decode
  dsimp only
  split
  · rfl
  · split
    · split
      · rename_i read
        exact read.symm
      · rename_i failed
        exact failed.symm
    · rfl

theorem failure?_decode (n : Nat) (text : String) : failure? (decode n text) = fault? n text := by
  rw [← failure?_map, map_toList_decode, fault?, failure?_ite, failure?_ite]
  split
  · rfl
  · rename_i even
    rw [← failure?_readPairs (not_not.mp even)]
    by_cases wanted : (utf8 text).length / 2 = n
    · rw [if_pos wanted, if_neg (by omega)]
    · rw [if_neg wanted, if_pos (by omega)]
      rfl

/-- A text of one byte a character has as many bytes. -/
theorem length_utf8 {text : String} (digits : ∀ c ∈ text.toList, IsDigit c) :
    (utf8 text).length = text.toList.length := by
  rw [← map_utf8 fun c member => toNat_lt_of_isDigit (digits c member), List.length_map]

/-- Exactly the texts of two digits a byte are read. -/
theorem fault?_eq_none_iff {n : Nat} {text : String} : fault? n text = none ↔
    text.toList.length = 2 * n ∧ ∀ c ∈ text.toList, IsDigit c := by
  constructor
  · intro faultless
    unfold fault? at faultless
    split at faultless
    · cases faultless
    · split at faultless
      · cases faultless
      · rename_i same
        have digits := forall_utf8_isDigit.mp (firstBad?_eq_none_iff.mp faultless)
        rw [← length_utf8 digits]
        exact ⟨not_not.mp same, digits⟩
  · rintro ⟨length, digits⟩
    rw [fault?, length_utf8 digits, if_neg (by omega), if_neg (by omega)]
    exact firstBad?_eq_none_iff.mpr (forall_utf8_isDigit.mpr digits)

/-- What is read spells the same number as the digits. -/
theorem number_of_decode {n : Nat} {text : String} {octets : Octets n}
    (read : decode n text = .ok octets) :
    octets.toList.foldl (fun number byte => 256 * number + byte.toNat) 0 = number text.toList := by
  have faultless : fault? n text = none := by
    rw [← failure?_decode, read]
    rfl
  obtain ⟨length, digits⟩ := fault?_eq_none_iff.mp faultless
  have sameLength := length_utf8 digits
  have pairs : readPairs 0 (utf8 text) = .ok octets.toList := by
    have bytes := map_toList_decode n text
    rw [read, if_neg (by omega), if_pos (by omega)] at bytes
    exact bytes.symm
  rw [number_of_readPairs (by omega) pairs, number,
    map_utf8 fun c member => toNat_lt_of_isDigit (digits c member)]

/-- Written digits are digits of their value. -/
theorem value_digit {digit : Nat} (small : digit < 16) :
    IsDigit (Hex.digit 'A' digit) ∧ value (Hex.digit 'A' digit) = digit := by
  revert digit
  decide

theorem isDigit_of_mem_digits {bytes : List UInt8} {c : Char} (member : c ∈ digits 'A' bytes) :
    IsDigit c := by
  obtain ⟨byte, _, written⟩ := List.mem_flatMap.mp member
  have bound := byte.toNat_lt
  obtain rfl | rfl := List.mem_pair.mp written
  · exact (value_digit (by omega)).1
  · exact (value_digit (by omega)).1

theorem length_digits (bytes : List UInt8) : (digits 'A' bytes).length = 2 * bytes.length := by
  induction bytes with
  | nil => rfl
  | cons byte rest ih =>
    rw [digits, List.flatMap_cons, List.length_append]
    change 2 + (digits 'A' rest).length = _
    rw [ih, List.length_cons]
    omega

/-- What is written spells the same number as the bytes. -/
theorem number_digits (bytes : List UInt8) (start : Nat) :
    (digits 'A' bytes).foldl (fun number digit => 16 * number + value digit) start =
      bytes.foldl (fun number byte => 256 * number + byte.toNat) start := by
  induction bytes generalizing start with
  | nil => rfl
  | cons byte rest ih =>
    have bound := byte.toNat_lt
    have step : 16 * (16 * start + byte.toNat / 16) + byte.toNat % 16 = 256 * start + byte.toNat := by
      omega
    rw [List.foldl_cons, ← ih, ← step]
    change (digits 'A' rest).foldl _ (16 * (16 * start + value _) + value _) = _
    rw [(value_digit (by omega)).2, (value_digit (by omega)).2]

end LoRaNetwork.Text.Hex
