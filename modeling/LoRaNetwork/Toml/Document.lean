import LoRaNetwork.Toml.Statement

/-!
A TOML document: one table, built from the lines of its text from top to bottom.
-/

namespace LoRaNetwork.Toml

/-- The table so far, and the way to where lines add to it. -/
structure Draft where
  root : Entries
  position : List String

namespace Draft

def take (draft : Draft) : Statement → Option Draft
  | .table path => do
    let root ← draft.root.openTable path
    some ⟨root, path.parents ++ [path.name]⟩
  | .element path => do
    let root ← draft.root.openElement path
    some ⟨root, path.parents ++ [path.name]⟩
  | .entry key value => do
    let root ← Entries.within false (fun _ entries => entries.define key value) draft.position
      .header draft.root
    some { draft with root := root }

end Draft

/-- The table that a text describes, if it is a TOML document. -/
def parse (text : String) : Option Entries := do
  let lines ← readStatements text
  let draft ← lines.foldlM Draft.take ⟨[], []⟩
  some draft.root

end LoRaNetwork.Toml
