import LoRaNetwork.Address

/-!
Address prefixes, written as an address, a slash and a number of bits. A prefix stands for the
addresses whose leading bits are its own. A prefix built by `ofAddress` or read from text is in
normal form: no bit beyond the length is set and the length is at most 32. A prefix may also be
given by its two fields, and then only its first 32 bits at most count.
-/

namespace LoRaNetwork

open Text

/-- The leading bits that a range of addresses has in common. -/
structure AddressPrefix where
  address : Address
  /-- How many of them count. -/
  length : UInt8
  deriving DecidableEq, Inhabited

/-- A word whose `length` leading bits are set, and all of them from 32 on. -/
def leadingBits (length : UInt8) : UInt32 :=
  if length = 0 then 0
  else if 32 ≤ length then 0xFFFFFFFF
  else 0xFFFFFFFF <<< (32 - length.toUInt32)

namespace Address

/-- The address with its leading bits replaced by those of a prefix. -/
def withPrefix (address : Address) (range : AddressPrefix) : Address :=
  let mask := leadingBits range.length
  ⟨(address.word &&& ~~~mask) ||| (range.address.word &&& mask)⟩

/-- Whether the leading bits of the address are those of a prefix. -/
def hasPrefix (address : Address) (range : AddressPrefix) : Bool :=
  let mask := leadingBits range.length
  address.word &&& mask == range.address.word &&& mask

end Address

/-- Why a text is not a prefix. -/
inductive PrefixError where
  /-- There is no slash. -/
  | missingLength (text : String)
  /-- What follows the first slash is no number from 0 to 255. -/
  | invalidLength (text : String)
  /-- The number is above 32. -/
  | lengthOver
  /-- What precedes the first slash is no address. -/
  | address (cause : HexError)
  deriving DecidableEq, Repr

namespace AddressPrefix

/-- The prefix of an address in normal form. -/
def ofAddress (address : Address) (length : UInt8) : AddressPrefix :=
  let length := min length 32
  ⟨⟨address.word &&& leadingBits length⟩, length⟩

/-- The address, a slash, and the length in decimal. -/
def text (range : AddressPrefix) : String :=
  range.address.text ++ "/" ++ toString range.length.toNat

/-- The number that decimal digits spell after those that spell `value`. -/
def readDecimal (value : Nat) : List Char → Option Nat
  | [] => some value
  | c :: rest =>
    if c.isDigit then readDecimal (10 * value + (c.toNat - '0'.toNat)) rest else none

/-- A number of at least one digit, after an optional plus sign, that fits in a byte. -/
def readLength (text : List Char) : Option UInt8 :=
  let digits := match text with
    | '+' :: rest => rest
    | _ => text
  if digits = [] then none
  else do
    let value ← readDecimal 0 digits
    if value < 256 then some (UInt8.ofNat value) else none

/-- Splits at the first slash; the length is looked at before the address. -/
def parse (text : String) : Except PrefixError AddressPrefix :=
  match text.toList.span (· ≠ '/') with
  | (_, []) => .error (.missingLength text)
  | (addressText, _ :: lengthText) =>
    match readLength lengthText with
    | none => .error (.invalidLength text)
    | some length =>
      if 32 < length then .error .lengthOver
      else match Address.parse (String.ofList addressText) with
        | .error cause => .error (.address cause)
        | .ok address => .ok (ofAddress address length)

end AddressPrefix

end LoRaNetwork
