/-!
The values of a TOML document. How a table came into being decides who may still add to it, so that
is part of a table. Numbers with a fraction and dates are kept as they are written.
-/

namespace LoRaNetwork.Toml

/-- How a table came into being. -/
inductive Origin where
  /-- Written in braces; nothing can be added. -/
  | inline
  /-- Opened by a header of its own; only the lines below that header add to it. -/
  | header
  /-- Implied by the header of a table inside it; it may still get a header of its own. -/
  | implied
  /-- Implied by a key with dots; only such keys add to it. -/
  | dotted
  deriving DecidableEq, Repr

/-- A value, with the entries of tables in the order in which they were written. -/
inductive Value where
  | string (text : String)
  | integer (number : Int)
  | float (text : String)
  | boolean (truth : Bool)
  | datetime (text : String)
  | array (items : List Value)
  | table (origin : Origin) (entries : List (String × Value))
  /-- Tables that each were opened by a header in double brackets. -/
  | tables (elements : List (List (String × Value)))

abbrev Entries := List (String × Value)

/-- A key, with the tables that it leads through. -/
structure KeyPath where
  parents : List String
  name : String
  deriving DecidableEq, Repr

end LoRaNetwork.Toml
