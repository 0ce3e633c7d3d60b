import LoRaNetwork.LittleEndian
import LoRaNetwork.Text.Hex

/-!
The names that devices, networks and sessions go by. All are byte strings of fixed length; what
differs is what may be shown of them and which bits carry a meaning.
-/

namespace LoRaNetwork

open Text

/-- A globally unique identifier of an application or a device. -/
structure Eui where
  /-- Its eight bytes, most significant first. -/
  octets : Octets 8
  deriving DecidableEq, Inhabited

namespace Eui

/-- Sixteen uppercase digits. -/
def text (eui : Eui) : String :=
  Hex.upper eui.octets.toList

/-- Sixteen digits of either case. -/
def parse (text : String) : Except HexError Eui :=
  (Hex.decode 8 text).map Eui.mk

end Eui

/-- A secret key of 128 bits. -/
structure Key where
  octets : Octets 16
  deriving DecidableEq, Inhabited

/-- What may be shown of a key: that it is one. -/
def Key.redacted (_ : Key) : String :=
  "AESKey(..)"

structure NetId where
  /-- Its three bytes, most significant first. -/
  octets : Octets 3
  deriving DecidableEq, Inhabited

namespace NetId

/-- The low 24 bits of a word. -/
def ofWord (word : UInt32) : NetId :=
  ⟨⟨(littleEndian 3 word).reverse, by simp⟩⟩

/-- Six uppercase digits. -/
def text (netId : NetId) : String :=
  Hex.upper netId.octets.toList

/-- The last byte, which the first seven bits of the network's addresses must equal. -/
def networkId (netId : NetId) : UInt8 :=
  netId.octets[2]

end NetId

/-- What a device is known by: its own identifier within an application. -/
structure Identity where
  appEui : Eui
  devEui : Eui
  deriving DecidableEq, Inhabited

/-- Application first, then device. -/
def Identity.text (identity : Identity) : String :=
  identity.appEui.text ++ "/" ++ identity.devEui.text

end LoRaNetwork
