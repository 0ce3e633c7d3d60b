/-!
JSON values and what it takes to have a form in them. A type's form is a pair of functions. Reading
passes over members that it does not know, takes a missing member for null where null is allowed,
and refuses a value of any other form than the written one.
-/

namespace LoRaNetwork

/-- A JSON value. Members of an object have distinct names. -/
inductive Json where
  | null
  | boolean (truth : Bool)
  | integer (number : Int)
  /-- A number with a point or an exponent, which is no integer whatever its value. -/
  | real (text : String)
  | string (text : String)
  | array (items : List Json)
  | object (members : List (String × Json))
deriving Inhabited

/-- A type whose values can be written as JSON and read back. -/
class JsonForm (α : Type) where
  encode : α → Json
  decode : Json → Option α

namespace Json

abbrev Members := List (String × Json)

def members : Json → Option Members
  | .object members => some members
  | _ => none

/-- A member that has to be there. -/
def required {α : Type} [JsonForm α] (members : Members) (name : String) : Option α :=
  (members.lookup name).bind JsonForm.decode

/-- A member that may be missing or null. -/
def optional {α : Type} [JsonForm α] (members : Members) (name : String) : Option (Option α) :=
  match members.lookup name with
  | none | some .null => some none
  | some value => (JsonForm.decode value).map some

/-- A member that may be missing, but not null. -/
def defaulted {α : Type} [JsonForm α] (members : Members) (name : String) (default : α) :
    Option α :=
  match members.lookup name with
  | none => some default
  | some value => JsonForm.decode value

/-- A natural number below a bound. -/
def naturalBelow (bound : Nat) : Json → Option Nat
  | .integer number => if 0 ≤ number ∧ number < bound then some number.toNat else none
  | _ => none

instance : JsonForm Bool where
  encode := .boolean
  decode
    | .boolean truth => some truth
    | _ => none

instance : JsonForm String where
  encode := .string
  decode
    | .string text => some text
    | _ => none

instance : JsonForm UInt8 where
  encode byte := .integer byte.toNat
  decode value := (naturalBelow UInt8.size value).map UInt8.ofNat

instance : JsonForm UInt32 where
  encode word := .integer word.toNat
  decode value := (naturalBelow UInt32.size value).map UInt32.ofNat

instance {α : Type} [JsonForm α] : JsonForm (List α) where
  encode items := .array (items.map JsonForm.encode)
  decode
    | .array items => items.mapM JsonForm.decode
    | _ => none

instance {α : Type} [JsonForm α] : JsonForm (Option α) where
  encode
    | none => .null
    | some value => JsonForm.encode value
  decode
    | .null => some none
    | value => (JsonForm.decode value).map some

end Json

end LoRaNetwork
