import LoRaNetwork.Address.Prefix
import LoRaNetwork.Error
import LoRaNetwork.Toml.Document

/-!
What a server is told before it starts: the number of its network and the prefixes to register. The
configuration is a TOML document; what it does not know, it passes over.
-/

namespace LoRaNetwork

/-- A prefix to register, with the usages it serves. -/
structure PrefixConfig where
  range : AddressPrefix
  usages : List String
  deriving DecidableEq

/-- The configuration of a server. -/
structure Config where
  /-- The number of the network, of which the low 24 bits count. -/
  netId : UInt32
  /-- The prefixes, in the order in which they are to be registered. -/
  prefixes : List PrefixConfig
  deriving DecidableEq

namespace Config

open Toml

def readWord : Value → Option UInt32
  | .integer number =>
    if 0 ≤ number ∧ number < UInt32.size then some (UInt32.ofNat number.toNat) else none
  | _ => none

def readString : Value → Option String
  | .string text => some text
  | _ => none

/-- The items of an array, which may also be written as tables under headers. -/
def readItems : Value → Option (List Value)
  | .array items => some items
  | .tables elements => some (elements.map (.table .header))
  | _ => none

def readStrings (value : Value) : Option (List String) := do
  let items ← readItems value
  items.mapM readString

def readRange (value : Value) : Option AddressPrefix := do
  let text ← readString value
  (AddressPrefix.parse text).toOption

/-- An entry that may be left out. -/
def readOptional {α : Type} (read : Value → Option α) (default : α) : Option Value → Option α
  | none => some default
  | some value => read value

/-- A prefix with its usages, as a table or as the list of a prefix and perhaps usages. -/
def readPrefix (value : Value) : Option PrefixConfig :=
  match value with
  | .table _ entries => do
    let range ← (entries.lookup "prefix").bind readRange
    let usages ← readOptional readStrings [] (entries.lookup "usages")
    some ⟨range, usages⟩
  | _ => do
    let items ← readItems value
    let range ← items[0]?.bind readRange
    let usages ← readOptional readStrings [] items[1]?
    some ⟨range, usages⟩

def readPrefixes (value : Value) : Option (List PrefixConfig) := do
  let items ← readItems value
  items.mapM readPrefix

def ofEntries (entries : Entries) : Option Config := do
  let netId ← (entries.lookup "net_id").bind readWord
  let prefixes ← readOptional readPrefixes [] (entries.lookup "prefixes")
  some ⟨netId, prefixes⟩

def parse (text : String) : Except Error Config :=
  match Toml.parse text with
  | none => .error (.config .malformed)
  | some entries =>
    match ofEntries entries with
    | none => .error (.config .unexpectedForm)
    | some config => .ok config

/-- Reads a configuration from the bytes of a file, if the file could be read. -/
def ofFile (contents : Option ByteArray) : Except Error Config :=
  match contents with
  | none => .error (.config .unreadable)
  | some bytes =>
    match String.fromUTF8? bytes with
    | none => .error (.config .notText)
    | some text => parse text

end Config

end LoRaNetwork
