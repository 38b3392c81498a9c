import InfraPolicy.Number.Padded

/-!
# Times of day
-/

namespace InfraPolicy

/-- The time that a clock shows. -/
structure TimeOfDay where
  hour : Nat
  minute : Nat
  second : Nat
  nanosecond : Nat := 0
deriving DecidableEq, Repr, Inhabited

namespace TimeOfDay

/-- Hours, minutes and seconds with colons between them. -/
def clockText (t : TimeOfDay) : String :=
  s!"{Number.padded 2 t.hour}:{Number.padded 2 t.minute}:{Number.padded 2 t.second}"

end TimeOfDay

end InfraPolicy
