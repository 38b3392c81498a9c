import InfraPolicy.Calendar.Date
import InfraPolicy.Calendar.TimeOfDay

/-!
# Instants

Points in time, counted in seconds from the beginning of 1970 in universal time.
-/

namespace InfraPolicy

/-- A moment, counted from the beginning of 1970 in universal time. -/
structure Instant where
  seconds : Int := 0
  nanosecond : Nat := 0
deriving DecidableEq, Repr, Inhabited

namespace Instant

/-- The day of an instant in universal time. -/
def date (i : Instant) : Date :=
  Date.ofDays (i.seconds / 86400)

/-- The time that a clock shows at an instant, in universal time. -/
def timeOfDay (i : Instant) : TimeOfDay :=
  let s := (i.seconds % 86400).toNat
  { hour := s / 3600, minute := s / 60 % 60, second := s % 60, nanosecond := i.nanosecond }

/-- A fraction of a second in thousandths, millionths or billionths, the coarsest that is exact. -/
def fractionText (nanosecond : Nat) : String :=
  if nanosecond == 0 then ""
  else if nanosecond % 1000000 == 0 then "." ++ Number.padded 3 (nanosecond / 1000000)
  else if nanosecond % 1000 == 0 then "." ++ Number.padded 6 (nanosecond / 1000)
  else "." ++ Number.padded 9 nanosecond

/-- Date and time in universal time. -/
def text (i : Instant) : String :=
  i.date.text ++ "T" ++ i.timeOfDay.clockText ++ fractionText i.nanosecond ++ "Z"

end Instant

end InfraPolicy
