import LoRaNetwork.Text.Extending
import LoRaNetwork.Text.Unprintable

/-!
Text inside error messages. A quoted text shows every character either as itself or as an escape,
so that what a reader sees pins down the text: the quote and the backslash are escaped, and so is
every character without a printed form and every mark that would attach to its neighbour.
-/

namespace LoRaNetwork.Text

/-- An escape that names the code point in lowercase hexadecimal digits. -/
def escapeCodePoint (c : Char) : List Char :=
  ['\\', 'u', '\x7b'] ++ Nat.toDigits 16 c.toNat ++ ['\x7d']

/-- A character inside quotes; `quote` is the quotation mark in use, the only one escaped. -/
def escape (quote c : Char) : List Char :=
  if c = '\x00' then ['\\', '0']
  else if c = '\t' then ['\\', 't']
  else if c = '\r' then ['\\', 'r']
  else if c = '\n' then ['\\', 'n']
  else if c = '\\' ∨ c = quote then ['\\', c]
  else if isExtending c || isUnprintable c then escapeCodePoint c
  else [c]

def quote (text : String) : String :=
  String.ofList ('"' :: text.toList.flatMap (escape '"') ++ ['"'])

def quoteChar (c : Char) : String :=
  String.ofList ('\'' :: escape '\'' c ++ ['\''])

/-- A list of texts, each quoted, in square brackets. -/
def quoteList (texts : List String) : String :=
  "[" ++ String.intercalate ", " (texts.map quote) ++ "]"

end LoRaNetwork.Text
