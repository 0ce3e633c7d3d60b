import LoRaNetwork.Text.Blank
import LoRaNetwork.Text.Reader
import LoRaNetwork.Time.Calendar
import LoRaNetwork.Time.Instant

/-!
Points in time as text, a date and a time of day with the distance from universal time. Writing is
strict: universal time, and of the fraction as many groups of three digits as it needs. Reading is
lenient: numbers may lack leading zeros, white space may stand around them, a date and a time may be
parted by a space, and years beyond four digits are written with a sign.
-/

namespace LoRaNetwork.Instant

open Text

def isYear (year : Int) : Bool :=
  -262143 ≤ year && year ≤ 262142

/-- A number of one digit to `most` digits, after white space. -/
def readNumber (most : Nat) : Reader Nat := fun input =>
  let input := dropBlank input
  let digits := (input.take most).takeWhile Char.isDigit
  if digits = [] then none
  else some (ofDigits 10 (digits.filterMap (digitValue? 10)), input.drop digits.length)

/-- Such a number within bounds. -/
def readBounded (most least greatest : Nat) : Reader Nat := fun input => do
  let (value, rest) ← readNumber most input
  if least ≤ value ∧ value ≤ greatest then some (value, rest) else none

/-- A year: at most four digits, or a sign and any number of digits. -/
def readYear : Reader Int := fun input =>
  match dropBlank input with
  | '+' :: rest => unspaced rest.length rest
  | '-' :: rest => (unspaced rest.length rest).map fun (year, rest) => (-year, rest)
  | rest => unspaced 4 rest
where
  /-- Digits without white space before them. -/
  unspaced (most : Nat) (input : List Char) : Option (Int × List Char) :=
    match input with
    | c :: _ =>
      if c.isDigit then (readNumber most input).map fun (year, rest) => ((year : Int), rest)
      else none
    | [] => none

/-- A separator, perhaps after white space. -/
def readMark (mark : Char) : Reader Unit := fun input =>
  exactly mark (dropBlank input)

/-- The fraction of a second in nanoseconds, if there is one. Digits after the ninth are ignored. -/
def readFraction : Reader Nat
  | '.' :: rest =>
    let digits := rest.takeWhile Char.isDigit
    let kept := (digits.take 9).filterMap (digitValue? 10)
    if digits = [] then none
    else some (ofDigits 10 (kept.rightpad 9 0), rest.drop digits.length)
  | rest => some (0, rest)

/-- The distance from universal time, in seconds. -/
def readOffset : Reader Int
  | 'Z' :: rest | 'z' :: rest => some (0, rest)
  | input =>
    if (input.take 3).map Char.toUpper = ['U', 'T', 'C'] then some (0, input.drop 3)
    else match input with
      | '+' :: rest => distance rest
      | '-' :: rest | '\u2212' :: rest =>
        (distance rest).map fun (offset, rest) => (-offset, rest)
      | _ => none
where
  /-- Hours and minutes, with colons or white space between them or nothing. -/
  distance (input : List Char) : Option (Int × List Char) := do
    let (hours, rest) ← twoDigits 0 23 input
    let (minutes, rest) ← twoDigits 0 59 (rest.dropWhile fun c => c == ':' || isBlank c)
    some (((hours * 3600 + minutes * 60 : Nat) : Int), rest)

def readDate : Reader Int := fun input => do
  let (year, rest) ← readYear input
  let (_, rest) ← readMark '-' rest
  let (month, rest) ← readBounded 2 1 12 rest
  let (_, rest) ← readMark '-' rest
  let (day, rest) ← readBounded 2 1 31 rest
  if isYear year ∧ day ≤ Calendar.daysOfMonth year month then
    some (Calendar.dayNumber year month day, rest)
  else none

/-- A time of day in seconds and nanoseconds; a sixtieth second is a leap second. -/
def readTime : Reader (Nat × Nat) := fun input => do
  let (hour, rest) ← readBounded 2 0 23 input
  let (_, rest) ← readMark ':' rest
  let (minute, rest) ← readBounded 2 0 59 rest
  let (_, rest) ← readMark ':' rest
  let (second, rest) ← readBounded 2 0 60 rest
  let (nanosecond, rest) ← readFraction rest
  let leap := if second = 60 then 1000000000 else 0
  some ((hour * 3600 + minute * 60 + min second 59, nanosecond + leap), rest)

def parse (text : String) : Option Instant := do
  let (day, rest) ← readDate text.toList
  match rest with
  | mark :: rest =>
    if mark = 'T' ∨ mark = 't' ∨ mark = ' ' then do
      let ((second, nanosecond), rest) ← readTime rest
      let (offset, rest) ← readOffset (dropBlank rest)
      let total := (day - Calendar.firstDay) * 86400 + second - offset
      if dropBlank rest = [] ∧ isYear (Calendar.yearOfDay (total / 86400 + Calendar.firstDay)) then
        some ⟨total, nanosecond⟩
      else none
    else none
  | [] => none

/-- A number in at least `width` digits. -/
def padded (width value : Nat) : String :=
  let digits := Nat.toDigits 10 value
  String.ofList (List.replicate (width - digits.length) '0' ++ digits)

/-- A year in at least four digits, with a sign unless there are just four. -/
def yearText (year : Int) : String :=
  if 0 ≤ year ∧ year ≤ 9999 then padded 4 year.toNat
  else (if year < 0 then "-" else "+") ++ padded 4 year.natAbs

/-- A fraction of a second in the fewest groups of three digits. -/
def fractionText (nanosecond : Nat) : String :=
  if nanosecond = 0 then ""
  else if nanosecond % 1000000 = 0 then "." ++ padded 3 (nanosecond / 1000000)
  else if nanosecond % 1000 = 0 then "." ++ padded 6 (nanosecond / 1000)
  else "." ++ padded 9 nanosecond

/-- The date and time of an instant in universal time. -/
def text (instant : Instant) : String :=
  let (year, month, day) := Calendar.dateOfDay (instant.second / 86400 + Calendar.firstDay)
  let seconds := (instant.second % 86400).toNat
  let leap := instant.nanosecond / 1000000000
  yearText year ++ "-" ++ padded 2 month ++ "-" ++ padded 2 day ++ "T" ++
    padded 2 (seconds / 3600) ++ ":" ++ padded 2 (seconds / 60 % 60) ++ ":" ++
    padded 2 (seconds % 60 + leap) ++ fractionText (instant.nanosecond % 1000000000) ++ "Z"

end LoRaNetwork.Instant
