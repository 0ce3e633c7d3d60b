/-!
Reading text from left to right. A reader takes what it understands off the front and leaves the
rest, or refuses.
-/

namespace LoRaNetwork.Text

/-- Reads something off the front of a text and leaves the rest, or refuses. -/
abbrev Reader (α : Type) := List Char → Option (α × List Char)

def exactly (wanted : Char) : Reader Unit
  | c :: rest => if c = wanted then some ((), rest) else none
  | [] => none

/-- The value of a digit in a base up to sixteen. -/
def digitValue? (base : Nat) (c : Char) : Option Nat :=
  let value :=
    if '0' ≤ c ∧ c ≤ '9' then c.toNat - '0'.toNat
    else if 'a' ≤ c ∧ c ≤ 'f' then c.toNat - 'a'.toNat + 10
    else if 'A' ≤ c ∧ c ≤ 'F' then c.toNat - 'A'.toNat + 10
    else base
  if value < base then some value else none

def ofDigits (base : Nat) (digits : List Nat) : Nat :=
  digits.foldl (fun value digit => value * base + digit) 0

/-- A number of exactly two decimal digits within bounds. -/
def twoDigits (least most : Nat) : Reader Nat
  | a :: b :: rest => do
    let high ← digitValue? 10 a
    let low ← digitValue? 10 b
    let value := 10 * high + low
    if least ≤ value ∧ value ≤ most then some (value, rest) else none
  | _ => none

end LoRaNetwork.Text
