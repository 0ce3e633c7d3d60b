import LoRaNetwork.Identifier

/-!
Device addresses. An address is a word of 32 bits; its seven leading bits name the network.
-/

namespace LoRaNetwork

open Text

/-- The address that a device answers to in its current session. -/
structure Address where
  word : UInt32
  deriving DecidableEq, Inhabited

namespace Address

/-- Four bytes, most significant first. -/
def octets (address : Address) : Octets 4 :=
  ⟨(littleEndian 4 address.word).reverse, by simp⟩

/-- The address that four bytes spell, most significant first. -/
def ofOctets (octets : Octets 4) : Address :=
  ⟨ofLittleEndian octets.toList.reverse⟩

@[simp]
theorem ofOctets_octets (address : Address) : ofOctets address.octets = address := by
  simp [ofOctets, octets]

@[simp]
theorem octets_ofOctets (bytes : Octets 4) : (ofOctets bytes).octets = bytes := by
  apply Octets.ext
  have size : bytes.toList.reverse.length = 4 := by rw [List.length_reverse, bytes.length_toList]
  have back := littleEndian_ofLittleEndian bytes.toList.reverse (by omega)
  rw [size] at back
  simp [ofOctets, octets, back]

/-- Eight uppercase digits. -/
def text (address : Address) : String :=
  Hex.upper address.octets.toList

def parse (text : String) : Except HexError Address :=
  (Hex.decode 4 text).map ofOctets

/-- The seven leading bits, which name the network. -/
def networkId (address : Address) : UInt8 :=
  (address.word >>> 25).toUInt8

end Address

end LoRaNetwork
