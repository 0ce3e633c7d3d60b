/-!
The calendar with leap years in every fourth year, except in full centuries that are no multiple of
four. It is carried back before its introduction, with a year zero. Days are counted from the first
day of year one.
-/

namespace LoRaNetwork.Calendar

/-- Whether a year has a day more. -/
def isLeap (year : Int) : Bool :=
  year % 4 == 0 && (year % 100 != 0 || year % 400 == 0)

def monthLengths (year : Int) : List Nat :=
  [31, if isLeap year then 29 else 28, 31, 30, 31, 30, 31, 31, 30, 31, 30, 31]

/-- How many days a month has, counted from one. -/
def daysOfMonth (year : Int) (month : Nat) : Nat :=
  (monthLengths year).getD (month - 1) 0

/-- How many days lie before a year. -/
def daysBeforeYear (year : Int) : Int :=
  365 * (year - 1) + (year - 1) / 4 - (year - 1) / 100 + (year - 1) / 400

/-- The number of a date. -/
def dayNumber (year : Int) (month day : Nat) : Int :=
  let dayOfYear := ((monthLengths year).take (month - 1)).foldl (· + ·) (day - 1)
  daysBeforeYear year + dayOfYear

/-- The year of a day. Taking all years as equally long misses by one at most. -/
def yearOfDay (number : Int) : Int :=
  let guess := 400 * number / 146097 + 1
  if number < daysBeforeYear guess then guess - 1
  else if daysBeforeYear (guess + 1) ≤ number then guess + 1
  else guess

/-- The month and the day in it, from the lengths of the months and the days before. -/
def monthAndDay : Nat → List Nat → Nat → Nat × Nat
  | month, length :: rest, days =>
    if days < length then (month, days + 1) else monthAndDay (month + 1) rest (days - length)
  | month, [], days => (month, days + 1)

/-- The year, month and day of a number. -/
def dateOfDay (number : Int) : Int × Nat × Nat :=
  let year := yearOfDay number
  (year, monthAndDay 1 (monthLengths year) (number - daysBeforeYear year).toNat)

/-- The number of the first day of 1970. -/
def firstDay : Int := 719162

end LoRaNetwork.Calendar
