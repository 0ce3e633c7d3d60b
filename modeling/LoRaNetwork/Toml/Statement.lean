import LoRaNetwork.Toml.Entries
import LoRaNetwork.Toml.Text

/-!
The lines of a TOML text: headers in brackets, headers in double brackets, and keys with values.
Values nest to a limited depth, which is also what the recursion over them runs on.
-/

namespace LoRaNetwork.Toml

open Text

/-- What a line says. -/
inductive Statement where
  /-- Lines below belong to this table. -/
  | table (path : KeyPath)
  /-- Lines below belong to a new element of this list of tables. -/
  | element (path : KeyPath)
  | entry (key : KeyPath) (value : Value)

/-- A limit: a key has fewer parts than this, and values nest less deep. -/
def depthLimit : Nat := 80

/-- Whether a character may stand in a key without quotes. -/
def isBare (c : Char) : Bool :=
  c.isAlphanum || c == '-' || c == '_'

/-- One part of a key. -/
def keyPart : Reader String := fun input =>
  match quotedKey input with
  | some result => some result
  | none =>
    let text := input.takeWhile isBare
    if text = [] then none else some (String.ofList text, input.dropWhile isBare)

/-- Parts of a key with dots between them and blanks around them. -/
def keyParts : Nat → Reader (List String)
  | 0, _ => none
  | fuel + 1, input => do
    let (part, rest) ← keyPart (dropBlanks input)
    match dropBlanks rest with
    | '.' :: rest => do
      let (parts, rest) ← keyParts fuel rest
      some (part :: parts, rest)
    | rest => some ([part], rest)

def key : Reader KeyPath := fun input => do
  let (parts, rest) ← keyParts (input.length + 1) input
  let name ← parts.getLast?
  if parts.length < depthLimit then some (⟨parts.dropLast, name⟩, rest) else none

/-- A number sign and what follows it up to the end of the line. -/
def dropComment : List Char → List Char
  | '#' :: rest => rest.dropWhile isPlain
  | input => input

/-- The end of a line: blanks, perhaps a comment, and a line break unless the text ends. -/
def lineEnd : Reader Unit := fun input =>
  match dropComment (dropBlanks input) with
  | [] => some ((), [])
  | rest => lineBreak rest

/-- Drops blanks, line breaks and whole comments, which may stand between the items of an array. -/
def dropSpace : Nat → List Char → List Char
  | 0, input => input
  | fuel + 1, input =>
    match dropBlankLines input with
    | '#' :: rest =>
      match lineBreak (rest.dropWhile isPlain) with
      | some (_, rest) => dropSpace fuel rest
      | none => '#' :: rest
    | rest => rest

/-- The items of an array after its opening bracket. A comma may follow the last one. -/
def items (item : Reader Value) : Nat → Reader (List Value)
  | 0, _ => none
  | fuel + 1, input =>
    match dropSpace fuel input with
    | ']' :: rest => some ([], rest)
    | start => do
      let (value, rest) ← item start
      match dropSpace fuel rest with
      | ']' :: rest => some ([value], rest)
      | ',' :: rest => do
        let (values, rest) ← items item fuel rest
        some (value :: values, rest)
      | _ => none

def pair (item : Reader Value) : Reader (KeyPath × Value) := fun input => do
  let (key, rest) ← key input
  let (_, rest) ← exactly '=' rest
  let (value, rest) ← item (dropBlanks rest)
  some ((key, value), rest)

/-- The pairs of a table in braces, of which there is at least one, on one line. -/
def pairs (item : Reader Value) : Nat → Reader (List (KeyPath × Value))
  | 0, _ => none
  | fuel + 1, input => do
    let (first, rest) ← pair item input
    match dropBlanks rest with
    | '}' :: rest => some ([first], rest)
    | ',' :: rest => do
      let (others, rest) ← pairs item fuel rest
      some (first :: others, rest)
    | _ => none

/-- A table in braces after its opening brace. -/
def inlineTable (item : Reader Value) : Reader Value := fun input =>
  match dropBlanks input with
  | '}' :: rest => some (.table .inline [], rest)
  | start => do
    let (pairs, rest) ← pairs item (start.length + 1) start
    let entries ← Entries.ofPairs pairs
    some (.table .inline entries, rest)

/-- A value without parts. -/
def scalar : Reader Value
  | 't' :: 'r' :: 'u' :: 'e' :: rest => some (.boolean true, rest)
  | 'f' :: 'a' :: 'l' :: 's' :: 'e' :: rest => some (.boolean false, rest)
  | input =>
    match string input with
    | some (text, rest) => some (.string text, rest)
    | none => number input

/-- A value that nests at most so deep. -/
def value : Nat → Reader Value
  | 0 => scalar
  | depth + 1 => fun input =>
    match input with
    | '[' :: rest =>
      (items (value depth) (rest.length + 1) rest).map fun (values, rest) => (.array values, rest)
    | '\x7b' :: rest => inlineTable (value depth) rest
    | _ => scalar input

/-- What a line says, with its end. -/
def statement : Reader Statement
  | '[' :: '[' :: rest => do
    let (path, rest) ← key rest
    let (_, rest) ← exactly ']' rest
    let (_, rest) ← exactly ']' rest
    let (_, rest) ← lineEnd rest
    some (.element path, rest)
  | '[' :: rest => do
    let (path, rest) ← key rest
    let (_, rest) ← exactly ']' rest
    let (_, rest) ← lineEnd rest
    some (.table path, rest)
  | input => do
    let ((key, value), rest) ← pair (value (depthLimit - 1)) input
    let (_, rest) ← lineEnd rest
    some (.entry key value, rest)

/-- All lines of a text; those with nothing but blanks and comments say nothing. -/
def statements : Nat → List Char → Option (List Statement)
  | 0, _ => none
  | fuel + 1, input =>
    match dropBlanks input with
    | [] => some []
    | start =>
      match lineEnd start with
      | some (_, rest) => statements fuel rest
      | none => do
        let (first, rest) ← statement start
        let others ← statements fuel rest
        some (first :: others)

/-- The lines of a text, which may start with a byte order mark. -/
def readStatements (text : String) : Option (List Statement) :=
  let input := match text.toList with
    | '\ufeff' :: rest => rest
    | input => input
  statements (input.length + 1) input

end LoRaNetwork.Toml
