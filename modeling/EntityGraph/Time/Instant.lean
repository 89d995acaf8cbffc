import EntityGraph.Number.Decimal

/-!
Moments of universal time on the proleptic Gregorian calendar, and their written form.
-/
namespace EntityGraph

/-- A moment: whole seconds since the start of 1970 and nanoseconds after that second. A count of nanoseconds from
`10 ^ 9` up lies in the leap second that follows. -/
structure Instant where
  second : Int
  nano : Nat
deriving DecidableEq, Inhabited

namespace Calendar

/-- Days from the start of 1970 to a date; the year is taken to begin in March, so a leap day ends it. -/
def dayNumber (year : Int) (month day : Nat) : Int :=
  let y := if month ≤ 2 then year - 1 else year
  let era := y / 400
  let yearOfEra := y - era * 400
  let monthFromMarch : Int := (month + 9) % 12
  let dayOfYear := (153 * monthFromMarch + 2) / 5 + day - 1
  let dayOfEra := yearOfEra * 365 + yearOfEra / 4 - yearOfEra / 100 + dayOfYear
  era * 146097 + dayOfEra - 719468

def date (dayNumber : Int) : Int × Nat × Nat :=
  let shifted := dayNumber + 719468
  let era := shifted / 146097
  let dayOfEra := shifted - era * 146097
  let yearOfEra := (dayOfEra - dayOfEra / 1460 + dayOfEra / 36524 - dayOfEra / 146096) / 365
  let dayOfYear := dayOfEra - (365 * yearOfEra + yearOfEra / 4 - yearOfEra / 100)
  let monthFromMarch := (5 * dayOfYear + 2) / 153
  let day := dayOfYear - (153 * monthFromMarch + 2) / 5 + 1
  let month := if monthFromMarch < 10 then monthFromMarch + 3 else monthFromMarch - 9
  let year := yearOfEra + era * 400 + (if month ≤ 2 then 1 else 0)
  (year, month.toNat, day.toNat)

def isLeapYear (year : Int) : Bool := year % 4 == 0 && (year % 100 != 0 || year % 400 == 0)

def daysInMonth (year : Int) (month : Nat) : Nat :=
  if month = 2 then (if isLeapYear year then 29 else 28)
  else if month = 4 ∨ month = 6 ∨ month = 9 ∨ month = 11 then 30
  else 31

def inRange (year : Int) : Bool := decide (-262143 ≤ year) && decide (year ≤ 262142)

def isDate (year : Int) (month day : Nat) : Bool :=
  inRange year && 1 ≤ month && month ≤ 12 && 1 ≤ day && day ≤ daysInMonth year month

end Calendar

namespace Instant

/-- Earlier, same or later: by second, then by nanosecond. -/
def compare (a b : Instant) : Ordering :=
  (Ord.compare a.second b.second).then (Ord.compare a.nano b.nano)

/-- A number with at least so many digits. -/
def padded (width n : Nat) : String :=
  let digits := Decimal.digitsOf n
  String.ofList (List.replicate (width - digits.length) '0' ++ digits)

def yearText (year : Int) : String :=
  if 0 ≤ year ∧ year ≤ 9999 then padded 4 year.toNat
  else (if year < 0 then "-" else "+") ++ padded 4 year.natAbs

/-- Date and time of day up to the second; a leap second is second sixty. -/
def wholePart (t : Instant) : String :=
  let day := t.second / 86400
  let clock := (t.second % 86400).toNat
  let (year, month, dayOfMonth) := Calendar.date day
  let second := clock % 60 + (if 1_000_000_000 ≤ t.nano then 1 else 0)
  yearText year ++ "-" ++ padded 2 month ++ "-" ++ padded 2 dayOfMonth ++ "T" ++ padded 2 (clock / 3600) ++ ":"
    ++ padded 2 (clock / 60 % 60) ++ ":" ++ padded 2 second

/-- The written form with as few of 0, 3, 6 or 9 decimal places as are exact. -/
def text (t : Instant) : String :=
  let nano := t.nano % 1_000_000_000
  let fraction :=
    if nano = 0 then ""
    else if nano % 1_000_000 = 0 then "." ++ padded 3 (nano / 1_000_000)
    else if nano % 1_000 = 0 then "." ++ padded 6 (nano / 1_000)
    else "." ++ padded 9 nano
  t.wholePart ++ fraction ++ "Z"

/-- The written form with six decimal places, later ones cut off. -/
def microText (t : Instant) : String := t.wholePart ++ "." ++ padded 6 (t.nano % 1_000_000_000 / 1_000) ++ "Z"

end Instant

end EntityGraph
