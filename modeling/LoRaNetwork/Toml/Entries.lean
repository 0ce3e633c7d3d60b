import LoRaNetwork.Toml.Value

/-!
How tables grow. A key leads through tables, which come into being on the way if they are not there,
and no key is ever given a second value. What a key may pass through depends on how it is written:
a header passes through everything but values, a key with dots only through tables that headers or
other such keys have implied.
-/

namespace LoRaNetwork.Toml.Entries

/-- Whether a way may lead through a table. -/
def passable (dots : Bool) : Origin → Bool
  | .inline => false
  | .header => !dots
  | .implied | .dotted => true

def replace (entries : Entries) (key : String) (value : Value) : Entries :=
  entries.map fun entry => if entry.1 = key then (key, value) else entry

/-- Changes the table at the end of a way; `dots` tells a way that is written in a key from one that
is written in a header. A list of tables is passed through its last element. -/
def within (dots : Bool) (change : Origin → Entries → Option Entries) :
    List String → Origin → Entries → Option Entries
  | [], origin, entries => change origin entries
  | key :: rest, _, entries =>
    match entries.lookup key with
    | none => do
      let origin := if dots then .dotted else .implied
      let inner ← within dots change rest origin []
      some (entries ++ [(key, .table origin inner)])
    | some (.table origin inner) =>
      if passable dots origin then do
        let inner ← within dots change rest origin inner
        some (replace entries key (.table origin inner))
      else none
    | some (.tables elements) =>
      match elements.getLast? with
      | none => none
      | some last => do
        let last ← within dots change rest .header last
        some (replace entries key (.tables (elements.dropLast ++ [last])))
    | some _ => none

def add (entries : Entries) (key : String) (value : Value) : Option Entries :=
  match entries.lookup key with
  | none => some (entries ++ [(key, value)])
  | some _ => none

/-- Adds an entry under a key with dots. The table it goes into must itself come from such a key. -/
def define (entries : Entries) (key : KeyPath) (value : Value) : Option Entries :=
  let change := fun origin inner =>
    if key.parents ≠ [] ∧ origin ≠ .dotted then none else add inner key.name value
  within true change key.parents .header entries

/-- The table that pairs of keys and values in braces make up. -/
def ofPairs (pairs : List (KeyPath × Value)) : Option Entries :=
  pairs.foldlM (fun entries (key, value) => define entries key value) []

/-- Opens a table by its header: a new one, or one that so far was only implied. -/
def openTable (entries : Entries) (path : KeyPath) : Option Entries :=
  let change := fun _ (inner : Entries) =>
    match inner.lookup path.name with
    | none => some (inner ++ [(path.name, .table .header [])])
    | some (.table .implied held) => some (replace inner path.name (.table .header held))
    | some _ => none
  within false change path.parents .header entries

/-- Opens a further element of a list of tables by its header. -/
def openElement (entries : Entries) (path : KeyPath) : Option Entries :=
  let change := fun _ (inner : Entries) =>
    match inner.lookup path.name with
    | none => some (inner ++ [(path.name, .tables [[]])])
    | some (.tables elements) => some (replace inner path.name (.tables (elements ++ [[]])))
    | some _ => none
  within false change path.parents .header entries

end LoRaNetwork.Toml.Entries
