import LoRaNetwork.Text.Reader
import LoRaNetwork.Time.Calendar
import LoRaNetwork.Toml.Value

/-!
Numbers and dates. An integer has a sign and decimal digits, or a base and digits without a sign,
and fits in 64 bits. A number with a fraction or an exponent must not be too large for a binary
float of 64 bits. Single underscores may stand between digits. Dates have to exist.
-/

namespace LoRaNetwork.Toml

open Text

/-- Further digits after a first one. An underscore must have a digit on either side. -/
def moreDigits (base : Nat) : Reader (List Nat)
  | [] => some ([], [])
  | '_' :: [] => none
  | '_' :: c :: rest => do
    let digit ← digitValue? base c
    let (digits, rest) ← moreDigits base rest
    some (digit :: digits, rest)
  | c :: rest =>
    match digitValue? base c with
    | none => some ([], c :: rest)
    | some digit => do
      let (digits, rest) ← moreDigits base rest
      some (digit :: digits, rest)

/-- Digits, at least one. -/
def someDigits (base : Nat) : Reader (List Nat)
  | [] => none
  | c :: rest => do
    let digit ← digitValue? base c
    let (digits, rest) ← moreDigits base rest
    some (digit :: digits, rest)

/-- Whether the number is below zero, by its sign. -/
def sign : List Char → Bool × List Char
  | '+' :: rest => (false, rest)
  | '-' :: rest => (true, rest)
  | rest => (false, rest)

/-- The digits before a point. A zero stands alone. -/
def wholeDigits : Reader (List Nat)
  | '0' :: rest => some ([0], rest)
  | input => someDigits 10 input

/-- The number with its sign. -/
def signed (negative : Bool) (magnitude : Nat) : Int :=
  if negative then -magnitude else magnitude

/-- An integer of 64 bits. -/
def inRange (number : Int) : Option Value :=
  if Int64.minValue.toInt ≤ number ∧ number ≤ Int64.maxValue.toInt then some (.integer number)
  else none

def based (base : Nat) : Reader Value := fun input => do
  let (digits, rest) ← someDigits base input
  let value ← inRange (ofDigits base digits)
  some (value, rest)

def integer : Reader Value
  | '0' :: 'x' :: rest => based 16 rest
  | '0' :: 'o' :: rest => based 8 rest
  | '0' :: 'b' :: rest => based 2 rest
  | input => do
    let (negative, rest) := sign input
    let (digits, rest) ← wholeDigits rest
    let value ← inRange (signed negative (ofDigits 10 digits))
    some (value, rest)

/-- The least number that rounds to more than any binary float of 64 bits. -/
def floatLimit : Nat := Nat.pow 2 1024 - Nat.pow 2 970

/-- Whether decimal digits with an exponent spell a number that is too large. The limit lies between
10³⁰⁸ and 10³⁰⁹, so a count of digits decides all but the last of these decades. -/
def overflows (digits : List Nat) (exponent : Int) : Bool :=
  let significant := digits.dropWhile (· == 0)
  let places := (significant.length : Int) + exponent
  if significant = [] then false
  else if places = 309 then
    decide (floatLimit * Nat.pow 10 (-exponent).toNat ≤
      ofDigits 10 significant * Nat.pow 10 exponent.toNat)
  else decide (309 < places)

/-- The digits after a point, if there is a point. -/
def fraction : Reader (Option (List Nat))
  | '.' :: rest => (someDigits 10 rest).map fun (digits, rest) => (some digits, rest)
  | rest => some (none, rest)

def exponent : Reader (Option Int)
  | c :: rest =>
    if c = 'e' ∨ c = 'E' then
      let (negative, rest) := sign rest
      (someDigits 10 rest).map fun (digits, rest) =>
        (some (signed negative (ofDigits 10 digits)), rest)
    else some (none, c :: rest)
  | [] => some (none, [])

/-- What a reader has taken off the front. -/
def taken (input rest : List Char) : String :=
  String.ofList (input.take (input.length - rest.length))

/-- A number with a fraction, an exponent, or both. -/
def finiteFloat : Reader Value := fun input => do
  let (negative, rest) := sign input
  let (whole, rest) ← wholeDigits rest
  let (fraction, rest) ← fraction rest
  let (exponent, rest) ← exponent rest
  if fraction = none ∧ exponent = none then none
  else
    let decimals := fraction.getD []
    if !negative && overflows (whole ++ decimals) (exponent.getD 0 - decimals.length) then none
    else some (.float (taken input rest), rest)

/-- The names of infinity and of what is no number. -/
def namedFloat : Reader Value := fun input =>
  match (sign input).2 with
  | 'i' :: 'n' :: 'f' :: rest | 'n' :: 'a' :: 'n' :: rest => some (.float (taken input rest), rest)
  | _ => none

def date : Reader Unit := fun input => do
  let (century, rest) ← twoDigits 0 99 input
  let (yearOfCentury, rest) ← twoDigits 0 99 rest
  let (_, rest) ← exactly '-' rest
  let (month, rest) ← twoDigits 1 12 rest
  let (_, rest) ← exactly '-' rest
  let (_, rest) ← twoDigits 1
    (Calendar.daysOfMonth (100 * century + yearOfCentury : Nat) month) rest
  some ((), rest)

def time : Reader Unit := fun input => do
  let (_, rest) ← twoDigits 0 23 input
  let (_, rest) ← exactly ':' rest
  let (_, rest) ← twoDigits 0 59 rest
  let (_, rest) ← exactly ':' rest
  let (_, rest) ← twoDigits 0 60 rest
  match rest with
  | '.' :: c :: decimals =>
    if c.isDigit then some ((), decimals.dropWhile Char.isDigit) else some ((), rest)
  | _ => some ((), rest)

def timeOffset : Reader Unit
  | c :: rest =>
    if c = 'Z' ∨ c = 'z' then some ((), rest)
    else if c = '+' ∨ c = '-' then do
      let (_, rest) ← twoDigits 0 23 rest
      let (_, rest) ← exactly ':' rest
      let (_, rest) ← twoDigits 0 59 rest
      some ((), rest)
    else some ((), c :: rest)
  | [] => some ((), [])

/-- A date, a time of day, or both together, then perhaps with a distance from universal time. -/
def datetime : Reader Value := fun input =>
  match date input with
  | none => (time input).map fun (_, rest) => (.datetime (taken input rest), rest)
  | some (_, rest) =>
    let withTime := match rest with
      | c :: later =>
        if c = 'T' ∨ c = 't' ∨ c = ' ' then (time later).bind fun (_, rest) => timeOffset rest
        else none
      | [] => none
    match withTime with
    | some (_, rest) => some (.datetime (taken input rest), rest)
    | none => some (.datetime (taken input rest), rest)

/-- A date or a number; of two readings that fit, the longer one. -/
def number : Reader Value := fun input =>
  (datetime input).orElse fun _ =>
    (finiteFloat input).orElse fun _ => (namedFloat input).orElse fun _ => integer input

end LoRaNetwork.Toml
