import LoRaNetwork.Octets
import LoRaNetwork.Text.Quoted

/-!
Bytes as hexadecimal text. Writing has two cases of digits and no other freedom. Reading accepts
both cases and wants an exact number of bytes; it works on the UTF-8 form of the text, so positions
in its complaints count bytes and not characters.
-/

namespace LoRaNetwork.Text

/-- Why a text is not the hexadecimal form of the wanted number of bytes. -/
inductive HexError where
  /-- The text has an odd number of bytes. -/
  | oddLength
  /-- The text has an even number of bytes, but not the wanted one. -/
  | wrongLength
  /-- The byte at this index is not a digit. -/
  | badDigit (byte : UInt8) (index : Nat)
  deriving DecidableEq, Repr

/-- A byte that is no digit is shown as the character of the same number. -/
def HexError.message : HexError → String
  | .oddLength => "Odd number of digits"
  | .wrongLength => "Invalid string length"
  | .badDigit byte index =>
    "Invalid character " ++ quoteChar (Char.ofNat byte.toNat) ++ " at position " ++ toString index

def utf8 (text : String) : List UInt8 :=
  text.toList.flatMap String.utf8EncodeChar

namespace Hex

/-- The value of a digit of either case. -/
def digitValue? (byte : UInt8) : Option UInt8 :=
  if 0x30 ≤ byte ∧ byte ≤ 0x39 then some (byte - 0x30)
  else if 0x41 ≤ byte ∧ byte ≤ 0x46 then some (byte - 0x37)
  else if 0x61 ≤ byte ∧ byte ≤ 0x66 then some (byte - 0x57)
  else none

/-- The value of the digit at `index`. -/
def readDigit (index : Nat) (byte : UInt8) : Except HexError UInt8 :=
  match digitValue? byte with
  | some value => .ok value
  | none => .error (.badDigit byte index)

/-- Two digits a byte, from left to right; `index` counts the bytes of text before these. -/
def readPairs : Nat → List UInt8 → Except HexError (List UInt8)
  | index, high :: low :: rest => do
    let highValue ← readDigit index high
    let lowValue ← readDigit (index + 1) low
    let bytes ← readPairs (index + 2) rest
    .ok ((highValue <<< 4 ||| lowValue) :: bytes)
  | _, _ => .ok []

theorem length_of_readPairs {index : Nat} {text bytes : List UInt8}
    (read : readPairs index text = .ok bytes) : bytes.length = text.length / 2 := by
  fun_induction readPairs index text generalizing bytes with
  | case1 index high low rest ih =>
    cases first : readDigit index high with
    | error e => simp [first, bind, Except.bind] at read
    | ok highValue =>
      cases second : readDigit (index + 1) low with
      | error e => simp [first, second, bind, Except.bind] at read
      | ok lowValue =>
        cases below : readPairs (index + 2) rest with
        | error e => simp [first, second, below, bind, Except.bind] at read
        | ok others =>
          simp only [first, second, below, bind, Except.bind, Except.ok.injEq] at read
          subst read
          have shorter := ih below
          simp only [List.length_cons]
          omega
  | case2 text index short =>
    cases read
    cases text with
    | nil => rfl
    | cons a rest =>
      cases rest with
      | nil => simp
      | cons b rest => exact absurd rfl (short a b rest)

/-- Reads exactly `n` bytes. The number of digits is looked at before the digits. -/
def decode (n : Nat) (text : String) : Except HexError (Octets n) :=
  let digits := utf8 text
  if digits.length % 2 ≠ 0 then .error .oddLength
  else if wanted : digits.length / 2 = n then
    match read : readPairs 0 digits with
    | .ok bytes => .ok ⟨bytes, (length_of_readPairs read).trans wanted⟩
    | .error e => .error e
  else .error .wrongLength

def decode? (text : String) : Option (List UInt8) :=
  let digits := utf8 text
  if digits.length % 2 ≠ 0 then none
  else match readPairs 0 digits with
    | .ok bytes => some bytes
    | .error _ => none

/-- The digit of a value below sixteen, with `ten` for the value ten. -/
def digit (ten : Char) (value : Nat) : Char :=
  if value < 10 then Char.ofNat (0x30 + value) else Char.ofNat (ten.toNat + (value - 10))

/-- Two digits a byte, high half first. -/
def digits (ten : Char) (bytes : List UInt8) : List Char :=
  bytes.flatMap fun byte => [digit ten (byte.toNat / 16), digit ten (byte.toNat % 16)]

def upper (bytes : List UInt8) : String :=
  String.ofList (digits 'A' bytes)

def lower (bytes : List UInt8) : String :=
  String.ofList (digits 'a' bytes)

end Hex

end LoRaNetwork.Text
