import LoRaNetwork.Argument
import LoRaNetwork.Proofs.AddressRange
import LoRaNetwork.Proofs.HexText
import Mathlib.Data.List.TakeDrop
import Mathlib.Data.List.TakeWhile

/-! Prefixes as text. The form is described on its own, without the reader: eight digits that spell
an address, a slash, and a number in decimal that may have a plus sign and leading zeros. The reader
accepts this and nothing else, whatever characters a text holds, and it reads what the writer wrote. A
text of another form is refused for the first part that is wrong, with the address looked at last. -/
namespace LoRaNetwork

open Text

namespace Address

/-- Eight digits, letters in either case, that spell the address. -/
structure SpelledBy (address : Address) (digits : List Char) : Prop where
  length : digits.length = 8
  digit : ∀ c ∈ digits, Hex.IsDigit c
  number : Hex.number digits = address.word.toNat

/-- A slash is no digit, so the first slash of a text is behind the digits that it starts with. -/
theorem SpelledBy.no_slash {address : Address} {digits : List Char}
    (spelled : address.SpelledBy digits) : '/' ∉ digits := by
  intro member
  exact absurd (spelled.digit '/' member) (by decide)

/-- Four bytes spell an address with the first one counting most. -/
theorem toNat_word_ofOctets (octets : Octets 4) : (ofOctets octets).word.toNat =
    octets.toList.foldl (fun number byte => 256 * number + byte.toNat) 0 := by
  have room : octets.toList.reverse.length = 4 := by
    rw [List.length_reverse, octets.length_toList]
  rw [ofOctets, toNat_ofLittleEndian _ (Nat.le_of_eq room), List.foldr_reverse]

theorem failure?_parse (text : String) : failure? (parse text) = Hex.fault? 4 text := by
  rw [parse, failure?_map, Hex.failure?_decode]

theorem spelledBy_of_parse {text : String} {address : Address} (read : parse text = .ok address) :
    address.SpelledBy text.toList := by
  have faultless : Hex.fault? 4 text = none := by
    rw [← failure?_parse, read, failure?_ok]
  obtain ⟨length, digit⟩ := Hex.fault?_eq_none_iff.mp faultless
  obtain ⟨octets, decoded, rfl⟩ := map_eq_ok_iff.mp read
  refine ⟨length, digit, ?_⟩
  rw [toNat_word_ofOctets, Hex.number_of_decode decoded]

/-- An address is read from the digits that spell it. -/
theorem parse_eq_ok_iff {text : String} {address : Address} :
    parse text = .ok address ↔ address.SpelledBy text.toList := by
  constructor
  · exact spelledBy_of_parse
  · rintro ⟨length, digit, number⟩
    have faultless : Hex.fault? 4 text = none := Hex.fault?_eq_none_iff.mpr ⟨length, digit⟩
    rw [← failure?_parse, failure?_eq_none_iff] at faultless
    obtain ⟨other, read⟩ := faultless
    have same : other.word.toNat = address.word.toNat :=
      (spelledBy_of_parse read).number.symm.trans number
    rw [read]
    exact congrArg (fun word => Except.ok (Address.mk word)) (UInt32.toNat_inj.mp same)

/-- The digits that are written spell the address. -/
theorem spelledBy_text (address : Address) : address.SpelledBy address.text.toList := by
  rw [text, Hex.upper, String.toList_ofList]
  constructor
  · rw [Hex.length_digits, Octets.length_toList]
  · intro c member
    exact Hex.isDigit_of_mem_digits member
  · rw [Hex.number, Hex.number_digits, ← toNat_word_ofOctets, ofOctets_octets]

end Address

namespace AddressPrefix

/-- The digits spell the number in decimal. There is at least one, and zeros may lead. -/
structure IsDecimal (digits : List Char) (number : Nat) : Prop where
  nonempty : digits ≠ []
  digit : ∀ c ∈ digits, c.isDigit
  value : Nat.ofDigitChars 10 digits 0 = number

/-- A number in decimal, perhaps after a plus sign. -/
def IsNumeral (numeral : List Char) (number : Nat) : Prop :=
  IsDecimal numeral number ∨ ∃ digits, numeral = '+' :: digits ∧ IsDecimal digits number

/-- The text is an address in eight digits, a slash, and a number. -/
def Denotes (text : String) (address : Address) (length : Nat) : Prop :=
  ∃ digits numeral, text.toList = digits ++ '/' :: numeral ∧ address.SpelledBy digits ∧
    IsNumeral numeral length

/-- The prefixes that are made from an address and a number of bits, or read from a text. -/
inductive Made : AddressPrefix → Prop where
  | ofAddress (address : Address) (length : UInt8) : Made (ofAddress address length)
  | read {text : String} {range : AddressPrefix} (parsed : parse text = .ok range) : Made range

variable {text : String} {before after : List Char} {range : AddressPrefix}

theorem readDecimal_eq (value : Nat) (digits : List Char) : readDecimal value digits =
    if digits.all Char.isDigit then some (Nat.ofDigitChars 10 digits value) else none := by
  induction digits generalizing value with
  | nil => simp [readDecimal]
  | cons c rest ih =>
    rw [readDecimal, ih, Nat.ofDigitChars_cons]
    by_cases first : c.isDigit
    · simp [first]
    · simp [first]

theorem isDecimal_iff {digits : List Char} {number : Nat} :
    IsDecimal digits number ↔ digits ≠ [] ∧ readDecimal 0 digits = some number := by
  rw [readDecimal_eq]
  constructor
  · rintro ⟨nonempty, digit, rfl⟩
    exact ⟨nonempty, if_pos (List.all_eq_true.mpr digit)⟩
  · rintro ⟨nonempty, read⟩
    split at read
    · rename_i digit
      cases read
      exact ⟨nonempty, List.all_eq_true.mp digit, rfl⟩
    · cases read

/-- What is left without a plus sign, if there is one. -/
def unsigned : List Char → List Char
  | '+' :: rest => rest
  | numeral => numeral

/-- A sign is no digit, so the number is what is left without it. -/
theorem isNumeral_iff {numeral : List Char} {number : Nat} :
    IsNumeral numeral number ↔ IsDecimal (unsigned numeral) number := by
  unfold unsigned
  constructor
  · rintro (decimal | ⟨digits, rfl, decimal⟩)
    · split
      · have sign := decimal.digit '+' List.mem_cons_self
        cases sign
      · exact decimal
    · exact decimal
  · intro decimal
    split at decimal
    · exact .inr ⟨_, rfl, decimal⟩
    · exact .inl decimal

theorem readLength_eq (numeral : List Char) : readLength numeral =
    if unsigned numeral = [] then none
    else (readDecimal 0 (unsigned numeral)).bind fun value =>
      if value < 256 then some (.ofNat value) else none := by
  cases numeral with
  | nil => rfl
  | cons first rest =>
    by_cases sign : first = '+'
    · subst sign
      rfl
    · simp [readLength, unsigned, sign]

/-- The length that is read is the number that is written, if a byte has room for it. -/
theorem readLength_eq_some_iff {numeral : List Char} {length : UInt8} :
    readLength numeral = some length ↔ IsNumeral numeral length.toNat := by
  rw [isNumeral_iff, isDecimal_iff, readLength_eq]
  constructor
  · intro read
    split at read
    · cases read
    · rename_i nonempty
      obtain ⟨value, decimal, fits⟩ := Option.bind_eq_some_iff.mp read
      split at fits
      · rename_i small
        cases fits
        rw [decimal, UInt8.toNat_ofNat_of_lt' small]
        exact ⟨nonempty, rfl⟩
      · cases fits
  · rintro ⟨nonempty, decimal⟩
    rw [if_neg nonempty, decimal, Option.bind_some, if_pos length.toNat_lt, UInt8.ofNat_toNat]

theorem readLength_of_isNumeral {numeral : List Char} {number : Nat} (fits : number ≤ 255)
    (written : IsNumeral numeral number) : readLength numeral = some (.ofNat number) := by
  apply readLength_eq_some_iff.mpr
  rwa [UInt8.toNat_ofNat_of_lt' (Nat.lt_succ_of_le fits)]

theorem readLength_eq_none_iff {numeral : List Char} :
    readLength numeral = none ↔ ∀ number ≤ 255, ¬ IsNumeral numeral number := by
  constructor
  · intro unread number fits written
    rw [readLength_of_isNumeral fits written] at unread
    cases unread
  · intro unwritten
    cases read : readLength numeral with
    | none => rfl
    | some length =>
      have bound := length.toNat_lt
      exact absurd (readLength_eq_some_iff.mp read) (unwritten _ (by omega))

/-- Numbers are written as decimal digits. -/
theorem isNumeral_toString (number : Nat) : IsNumeral (toString number).toList number := by
  rw [Nat.toString_eq_ofList_toDigits, String.toList_ofList]
  refine .inl ⟨Nat.toDigits_ne_nil, fun c member => ?_, Nat.ofDigitChars_ten_toDigits⟩
  exact Nat.isDigit_of_mem_toDigits (by decide) (by decide) member

private theorem passes_slash {chars : List Char} (absent : '/' ∉ chars) :
    ∀ c ∈ chars, decide (c ≠ '/') = true := by
  intro c member
  exact decide_eq_true fun slash => absent (slash ▸ member)

/-- The text is split at its first slash. -/
theorem span_slash (notBefore : '/' ∉ before) :
    (before ++ '/' :: after).span (· ≠ '/') = (before, '/' :: after) := by
  rw [List.span_eq_takeWhile_dropWhile, List.takeWhile_append_of_pos (passes_slash notBefore),
    List.dropWhile_append_of_pos (passes_slash notBefore)]
  simp

theorem parse_of_slash (split : text.toList = before ++ '/' :: after) (notBefore : '/' ∉ before) :
    parse text = match readLength after with
      | none => .error (.invalidLength text)
      | some length =>
        if 32 < length then .error .lengthOver
        else ((Address.parse (String.ofList before)).mapError .address).map (ofAddress · length) := by
  rw [parse, split, span_slash notBefore]
  dsimp only
  cases readLength after with
  | none => rfl
  | some length =>
    dsimp only
    cases Address.parse (String.ofList before) <;> rfl

theorem parse_of_no_slash (absent : '/' ∉ text.toList) :
    parse text = .error (.missingLength text) := by
  rw [parse, List.span_eq_takeWhile_dropWhile,
    List.dropWhile_eq_nil_iff.mpr (passes_slash absent)]

/-- What is read is denoted: a slash was found, a number behind it, and an address before it. -/
theorem denotes_of_parse (read : parse text = .ok range) : ∃ address length,
    Denotes text address length ∧ length ≤ 32 ∧ range = ofAddress address (.ofNat length) := by
  have slash : '/' ∈ text.toList := by
    by_contra absent
    rw [parse_of_no_slash absent] at read
    cases read
  obtain ⟨before, after, split, notBefore⟩ := List.eq_append_cons_of_mem slash
  rw [parse_of_slash split notBefore] at read
  split at read
  · cases read
  · rename_i length written
    split at read
    · cases read
    · rename_i short
      obtain ⟨address, parsed, rfl⟩ := map_eq_ok_iff.mp read
      have spelled := Address.parse_eq_ok_iff.mp (mapError_eq_ok_iff.mp parsed)
      rw [String.toList_ofList] at spelled
      refine ⟨address, length.toNat, ⟨before, after, split, spelled,
        readLength_eq_some_iff.mp written⟩, UInt8.le_iff_toNat_le.mp (UInt8.not_lt.mp short), ?_⟩
      rw [UInt8.ofNat_toNat]

/-- What is denoted is read, and nothing else. -/
theorem parse_eq_ok_iff : parse text = .ok range ↔ ∃ address length,
    Denotes text address length ∧ length ≤ 32 ∧ range = ofAddress address (.ofNat length) := by
  constructor
  · exact denotes_of_parse
  · rintro ⟨address, length, ⟨digits, numeral, split, spelled, written⟩, within, rfl⟩
    have fits : length ≤ 255 := Nat.le_trans within (by decide)
    have short : ¬ 32 < UInt8.ofNat length :=
      mt (UInt8.lt_ofNat_iff (Nat.lt_succ_of_le fits)).mp (Nat.not_lt.mpr within)
    have parsed : Address.parse (String.ofList digits) = .ok address := by
      rw [Address.parse_eq_ok_iff, String.toList_ofList]
      exact spelled
    rw [parse_of_slash split spelled.no_slash, readLength_of_isNumeral fits written]
    dsimp only
    rw [if_neg short, parsed]
    rfl

/-- A prefix is written as the text that denotes its address and its length. -/
theorem denotes_text (range : AddressPrefix) :
    Denotes range.text range.address range.length.toNat := by
  refine ⟨range.address.text.toList, (toString range.length.toNat).toList, ?_,
    range.address.spelledBy_text, isNumeral_toString _⟩
  rw [text, String.toList_append, String.toList_append, List.append_assoc]
  rfl

/-- What is written for a prefix of any two fields is read as its normal form, if it is read. -/
theorem parse_text (range : AddressPrefix) : parse range.text =
    if 32 < range.length then .error .lengthOver else .ok (ofAddress range.address range.length) := by
  split
  · rename_i tooLong
    obtain ⟨digits, numeral, split, spelled, written⟩ := denotes_text range
    rw [parse_of_slash split spelled.no_slash, readLength_eq_some_iff.mpr written]
    exact if_pos tooLong
  · rename_i short
    have within := UInt8.le_iff_toNat_le.mp (UInt8.not_lt.mp short)
    refine parse_eq_ok_iff.mpr ⟨range.address, range.length.toNat, denotes_text range, within, ?_⟩
    rw [UInt8.ofNat_toNat]

/-- Whatever prefix is made is in normal form. -/
theorem Made.isNormal (made : range.Made) : range.IsNormal := by
  cases made with
  | ofAddress address length => exact isNormal_ofAddress address length
  | read parsed =>
    obtain ⟨address, length, _, _, rfl⟩ := parse_eq_ok_iff.mp parsed
    exact isNormal_ofAddress address _

theorem parse_text_of_isNormal (normal : range.IsNormal) : parse range.text = .ok range := by
  have short : ¬ 32 < range.length :=
    UInt8.not_lt.mpr (UInt8.le_iff_toNat_le.mpr normal.length_le)
  rw [parse_text, if_neg short, ofAddress_of_isNormal normal]

/-- Reading prefixes is exact, whatever characters a text holds. A text is read when it is eight
digits that spell an address, a slash, and a number up to 32, perhaps with a plus sign and leading
zeros; what is read is the prefix of this address with this length, so it has no bits beyond them.
Each prefix that is made in this way, or from an address and a length, is read from what is written
for it, and a prefix of any two fields is so as its normal form, unless its length is above 32. A text
without a slash lacks a length; what follows the first slash must be a number that a byte has room
for, and then one up to 32; and only then what is before the slash may be at fault, as a text that is
not the hexadecimal form of four bytes. -/
theorem argument_reads_what_is_denoted :
    (∀ text range, argument text = .ok range ↔ ∃ address length,
      Denotes text address length ∧ length ≤ 32 ∧ range = ofAddress address (.ofNat length)) ∧
    (∀ range, Made range → range.IsNormal ∧ argument range.text = .ok range) ∧
    (∀ range : AddressPrefix, argument range.text =
      if 32 < range.length then .error (.invalidArgument .addressPrefix .lengthOver)
      else .ok (ofAddress range.address range.length)) ∧
    (∀ text : String, '/' ∉ text.toList →
      argument text = .error (.invalidArgument .addressPrefix (.missingLength text))) ∧
    ∀ (text : String) before after, text.toList = before ++ '/' :: after → '/' ∉ before →
      ((∀ number ≤ 255, ¬ IsNumeral after number) →
        argument text = .error (.invalidArgument .addressPrefix (.invalidLength text))) ∧
      ∀ number ≤ 255, IsNumeral after number →
        (32 < number → argument text = .error (.invalidArgument .addressPrefix .lengthOver)) ∧
        (number ≤ 32 → failure? (argument text) =
          (Hex.fault? 4 (String.ofList before)).map (.ofHex .address)) := by
  refine ⟨fun text range => ?_, fun range made => ⟨made.isNormal, ?_⟩, fun range => ?_,
    fun text absent => ?_, fun text before after split notBefore => ⟨fun unwritten => ?_, ?_⟩⟩
  · rw [argument, mapError_eq_ok_iff, parse_eq_ok_iff]
  · rw [argument, parse_text_of_isNormal made.isNormal]
    rfl
  · rw [argument, parse_text]
    split <;> rfl
  · rw [argument, parse_of_no_slash absent]
    rfl
  · rw [argument, parse_of_slash split notBefore, readLength_eq_none_iff.mpr unwritten]
    rfl
  · intro number fits written
    have above : 32 < UInt8.ofNat number ↔ 32 < number :=
      UInt8.lt_ofNat_iff (Nat.lt_succ_of_le fits)
    rw [argument, parse_of_slash split notBefore, readLength_of_isNumeral fits written]
    dsimp only
    constructor
    · intro tooLong
      rw [if_pos (above.mpr tooLong)]
      rfl
    · intro within
      rw [if_neg (mt above.mp (Nat.not_lt.mpr within)), failure?_mapError, failure?_map,
        failure?_mapError, Address.failure?_parse, Option.map_map]
      rfl

/-- A sign, leading zeros and both cases at once; two slashes, of which the first one counts; and a
length above 32 before an address that is none either. -/
theorem argument_reads_what_is_denoted_signed :
    let own : AddressPrefix := ⟨⟨0x26000000⟩, 7⟩
    argument "27fFfFFf/+007" = .ok own ∧ argument own.text = .ok own ∧
      argument (AddressPrefix.text ⟨⟨0x27FFFFFF⟩, 7⟩) = .ok own ∧
      argument "26000000/7/7" =
        .error (.invalidArgument .addressPrefix (.invalidLength "26000000/7/7")) ∧
      argument "net/33" = .error (.invalidArgument .addressPrefix .lengthOver) ∧
      failure? (argument "net/32") = some (.ofHex .address .oddLength) := by
  intro own
  obtain ⟨accepted, made, raw, _, refused⟩ := argument_reads_what_is_denoted
  have same : ofAddress ⟨0x27FFFFFF⟩ 7 = own := by decide
  have spelled : Address.SpelledBy ⟨0x27FFFFFF⟩ "27fFfFFf".toList :=
    ⟨rfl, by simp [Hex.IsDigit], rfl⟩
  have seven : IsNumeral ['+', '0', '0', '7'] 7 :=
    .inr ⟨['0', '0', '7'], rfl, by simp, by simp, rfl⟩
  have tooLong : IsNumeral ['3', '3'] 33 := .inl ⟨by simp, by simp, rfl⟩
  have last : IsNumeral ['3', '2'] 32 := .inl ⟨by simp, by simp, rfl⟩
  refine ⟨?_, (made own (same ▸ .ofAddress _ _)).2, ?_, ?_, ?_, ?_⟩
  · exact (accepted _ own).mpr ⟨_, 7, ⟨_, _, rfl, spelled, seven⟩, by decide, same.symm⟩
  · rw [raw, if_neg (by decide), same]
  · refine (refused _ "26000000".toList ['7', '/', '7'] rfl (by decide)).1 ?_
    rintro number _ (⟨_, digit, _⟩ | ⟨digits, sign, _⟩)
    · exact absurd (digit '/' (by decide)) (by decide)
    · cases sign
  · exact ((refused "net/33" ['n', 'e', 't'] _ rfl (by decide)).2 33 (by decide) tooLong).1 (by decide)
  · exact ((refused "net/32" ['n', 'e', 't'] _ rfl (by decide)).2 32 (by decide) last).2 (by decide)

end AddressPrefix

end LoRaNetwork
