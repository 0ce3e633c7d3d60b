import LoRaNetwork.Address.Prefix
import LoRaNetwork.Error
import LoRaNetwork.Table
import LoRaNetwork.UsageSet

/-!
The address ranges of a network. Each registered prefix serves some usages; a device is given a
random address under a prefix that serves all usages the device needs. Chance comes in as a draw, so
what can be allocated is a plain function of it.
-/

namespace LoRaNetwork

/-- What chance decides about one allocation. -/
structure Draw where
  /-- An address to start from. -/
  word : UInt32
  /-- Which of the prefixes that qualify, counted around. -/
  choice : Nat

/-- The prefixes of a network, each with the usages it serves. -/
structure PrefixRegistry where
  netId : NetId
  usages : Table AddressPrefix UsageSet

namespace PrefixRegistry

def empty (netId : NetId) : PrefixRegistry := ⟨netId, .empty⟩

def size (registry : PrefixRegistry) : Nat := registry.usages.size

/-- The shortest prefix that covers the bits which name the network. -/
def minLength : UInt8 := 7

/-- Registers a prefix of this network for usages, in place of those it had. -/
def register (registry : PrefixRegistry) (range : AddressPrefix) (usages : List String) :
    Except Error PrefixRegistry :=
  if range.length < minLength then .error (.invalidArgument .addressPrefix .lengthUnder)
  else if range.address.networkId ≠ registry.netId.networkId then
    .error (.invalidArgument .addressPrefix .foreignNetwork)
  else .ok { registry with usages := registry.usages.insert range (.ofList usages) }

/-- The prefixes that serve every required usage. -/
def prefixesFor (registry : PrefixRegistry) (required : List String) : List AddressPrefix :=
  (registry.usages.entries.filter fun (_, served) => served.covers required).map Prod.fst

/-- An address under a prefix that serves every required usage. -/
def allocate (registry : PrefixRegistry) (required : List String) (draw : Draw) :
    Except Error Address :=
  let candidates := registry.prefixesFor required
  match candidates[draw.choice % candidates.length]? with
  | some range => .ok ((Address.mk draw.word).withPrefix range)
  | none => .error (.notFound (.addressPrefix required))

end PrefixRegistry

end LoRaNetwork
