import LoRaNetwork.Toml.Number

/-!
Strings. In double quotes a backslash starts an escape, in single quotes every character stands for
itself. With three quotes on either side a string may span lines; a line break at its start is
dropped and every other one counts as a line feed. Up to two quotes may stand before the three that
end such a string.
-/

namespace LoRaNetwork.Toml

open Text

/-- Whether a character may stand in a string or a comment: no control character but the tab. -/
def isPlain (c : Char) : Bool :=
  c == '\t' || (' ' ≤ c && c != '\x7f')

def lineBreak : Reader Unit
  | '\n' :: rest | '\r' :: '\n' :: rest => some ((), rest)
  | _ => none

def dropLineBreak (input : List Char) : List Char :=
  match lineBreak input with
  | some (_, rest) => rest
  | none => input

def dropBlanks (input : List Char) : List Char :=
  input.dropWhile fun c => c == ' ' || c == '\t'

/-- Drops spaces, tabs and line breaks. -/
def dropBlankLines : List Char → List Char
  | ' ' :: rest | '\t' :: rest | '\n' :: rest | '\r' :: '\n' :: rest => dropBlankLines rest
  | rest => rest

/-- The next piece of a string. -/
inductive Piece where
  | more (text : List Char)
  | last (text : List Char)

/-- Reads piece after piece, each of at least one character of the text, up to the last. -/
def pieces (next : Reader Piece) : Nat → Reader (List Char)
  | 0, _ => none
  | fuel + 1, input => do
    let (piece, rest) ← next input
    match piece with
    | .last text => some (text, rest)
    | .more text => do
      let (others, rest) ← pieces next fuel rest
      some (text ++ others, rest)

/-- A string made of pieces. -/
def stringOf (next : Reader Piece) : Reader String := fun input =>
  (pieces next (input.length + 1) input).map fun (text, rest) => (String.ofList text, rest)

/-- A character by the hexadecimal digits of its code point. -/
def codePoint (count : Nat) : Reader Char := fun input => do
  let digits ← (input.take count).mapM (digitValue? 16)
  let value := ofDigits 16 digits
  if digits.length = count ∧ value.isValidChar then some (Char.ofNat value, input.drop count)
  else none

/-- What follows a backslash. -/
def escaped : Reader Char
  | 'b' :: rest => some ('\x08', rest)
  | 't' :: rest => some ('\t', rest)
  | 'n' :: rest => some ('\n', rest)
  | 'f' :: rest => some ('\x0c', rest)
  | 'r' :: rest => some ('\r', rest)
  | '"' :: rest => some ('"', rest)
  | '\\' :: rest => some ('\\', rest)
  | 'u' :: rest => codePoint 4 rest
  | 'U' :: rest => codePoint 8 rest
  | _ => none

/-- A piece of a string in double quotes. -/
def basicPiece : Reader Piece
  | '"' :: rest => some (.last [], rest)
  | '\\' :: rest => (escaped rest).map fun (c, rest) => (.more [c], rest)
  | c :: rest => if isPlain c then some (.more [c], rest) else none
  | [] => none

/-- A piece of a string in single quotes. -/
def literalPiece : Reader Piece
  | '\'' :: rest => some (.last [], rest)
  | c :: rest => if isPlain c then some (.more [c], rest) else none
  | [] => none

/-- The end of a string of several lines, after its first three closing quotes: up to two of the
quotes before the last three belong to the string. -/
def closing (mark : Char) (rest : List Char) : Piece × List Char :=
  let extra := min 2 (rest.takeWhile (· == mark)).length
  (.last (List.replicate extra mark), rest.drop extra)

/-- A line break inside a string, or a character that stands for itself. -/
def linePiece (input : List Char) : Option (Piece × List Char) :=
  match lineBreak input, input with
  | some (_, rest), _ => some (.more ['\n'], rest)
  | none, c :: rest => if isPlain c then some (.more [c], rest) else none
  | none, [] => none

/-- A backslash at the end of a line takes the break and all blanks after it out of the string. -/
def continuation (input : List Char) : Option (List Char) :=
  (lineBreak (dropBlanks input)).map fun (_, rest) => dropBlankLines rest

/-- A piece of a string in three double quotes. -/
def multilineBasicPiece : Reader Piece
  | '"' :: '"' :: '"' :: rest => some (closing '"' rest)
  | '\\' :: rest =>
    match continuation rest with
    | some rest => some (.more [], rest)
    | none => (escaped rest).map fun (c, rest) => (.more [c], rest)
  | input => linePiece input

/-- A piece of a string in three single quotes. -/
def multilineLiteralPiece : Reader Piece
  | '\'' :: '\'' :: '\'' :: rest => some (closing '\'' rest)
  | input => linePiece input

/-- A string on one line, the only kind that a key may be. -/
def quotedKey : Reader String
  | '"' :: rest => stringOf basicPiece rest
  | '\'' :: rest => stringOf literalPiece rest
  | _ => none

/-- A string of any kind. -/
def string : Reader String
  | '"' :: '"' :: '"' :: rest => stringOf multilineBasicPiece (dropLineBreak rest)
  | '\'' :: '\'' :: '\'' :: rest => stringOf multilineLiteralPiece (dropLineBreak rest)
  | input => quotedKey input

end LoRaNetwork.Toml
