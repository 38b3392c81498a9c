import InfraPolicy.Number.Padded

/-!
# Dates

Dates of the Gregorian calendar, run back before its introduction, with a year zero.
-/

namespace InfraPolicy

/-- A day of the Gregorian calendar, which is taken to reach back before its introduction. -/
structure Date where
  year : Int
  /-- From 1 to 12. -/
  month : Nat
  /-- From 1. -/
  day : Nat
deriving DecidableEq, Repr, Inhabited

namespace Date

/-- Has the year a 29th of February? -/
def isLeapYear (year : Int) : Bool :=
  year % 4 == 0 && (year % 100 != 0 || year % 400 == 0)

/-- How many days a month has. -/
def daysInMonth (year : Int) (month : Nat) : Nat :=
  match month with
  | 2 => if isLeapYear year then 29 else 28
  | 4 | 6 | 9 | 11 => 30
  | _ => 31

/-- Does the month have such a day, and the year such a month? -/
def isValid (d : Date) : Bool :=
  1 ≤ d.month && d.month ≤ 12 && 1 ≤ d.day && d.day ≤ daysInMonth d.year d.month

/-- The date a number of days after 1 January 1970. Years are counted from March, so that the day
that may be missing is the last one: 146097 days make 400 years, 36524 a century and 1461 four
years, and from March on the months begin after `(153 * m + 2) / 5` days. -/
def ofDays (days : Int) : Date :=
  let shifted := days + 719468
  let era := shifted / 146097
  let dayOfEra := (shifted % 146097).toNat
  let yearOfEra := (dayOfEra - dayOfEra / 1460 + dayOfEra / 36524 - dayOfEra / 146096) / 365
  let dayOfYear := dayOfEra - (365 * yearOfEra + yearOfEra / 4 - yearOfEra / 100)
  let m := (5 * dayOfYear + 2) / 153
  let month := if m < 10 then m + 3 else m - 9
  { year := era * 400 + yearOfEra + (if month ≤ 2 then 1 else 0)
    month
    day := dayOfYear - (153 * m + 2) / 5 + 1 }

/-- A year has four digits; one that needs more, or is negative, is written with its sign. -/
def yearText (year : Int) : String :=
  if 0 ≤ year && year ≤ 9999 then Number.padded 4 year.toNat
  else (if year < 0 then "-" else "+") ++ Number.padded 4 year.natAbs

/-- Year, month and day with hyphens between them. -/
def text (d : Date) : String :=
  s!"{yearText d.year}-{Number.padded 2 d.month}-{Number.padded 2 d.day}"

end Date

end InfraPolicy
