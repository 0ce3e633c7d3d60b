import LoRaNetwork.Address.Prefix
import LoRaNetwork.Error

/-!
Identifiers, addresses and prefixes that someone has typed in: what is wrong with the text is said
of the argument it was meant to be.
-/

namespace LoRaNetwork

open Text

namespace Error

/-- A text that is not the hexadecimal form of its subject. -/
def ofHex (subject : Subject) (cause : HexError) : Error :=
  .invalidArgument subject (.notHex cause)

/-- A text that is no prefix. What is wrong with its address is said of the address. -/
def ofPrefix : PrefixError → Error
  | .missingLength text => .invalidArgument .addressPrefix (.missingLength text)
  | .invalidLength text => .invalidArgument .addressPrefix (.invalidLength text)
  | .lengthOver => .invalidArgument .addressPrefix .lengthOver
  | .address cause => .ofHex .address cause

end Error

def Eui.argument (text : String) : Except Error Eui :=
  (Eui.parse text).mapError (.ofHex .eui)

def Address.argument (text : String) : Except Error Address :=
  (Address.parse text).mapError (.ofHex .address)

def AddressPrefix.argument (text : String) : Except Error AddressPrefix :=
  (AddressPrefix.parse text).mapError .ofPrefix

end LoRaNetwork
