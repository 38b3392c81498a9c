import InfraPolicy.Number.Shortest

/-!
# Writing numbers

Two layouts of the same shortest digits: the one of JSON documents, which turns to an exponent
for very large and very small numbers and keeps a fraction otherwise, and the plain one, which
never writes an exponent and drops an empty fraction.
-/

namespace InfraPolicy

namespace Decimal

/-- The decimal digits of a natural. -/
def digitChars (n : Nat) : List Char :=
  Nat.toDigits 10 n

/-- Positional notation. A whole number is written without a point. -/
def positional (d : Decimal) : List Char :=
  let ds := digitChars d.digits
  if 0 ≤ d.exponent then ds ++ List.replicate d.exponent.toNat '0'
  else
    let places := (-d.exponent).toNat
    let padded := List.replicate (places + 1 - ds.length) '0' ++ ds
    padded.take (padded.length - places) ++ '.' :: padded.drop (padded.length - places)

/-- The power of ten of the first digit. -/
def leading (d : Decimal) : Int :=
  d.exponent + (digitChars d.digits).length - 1

/-- Scientific notation: one digit before the point, no empty fraction, a sign in the exponent. -/
def scientific (d : Decimal) : List Char :=
  let e := d.leading
  let fraction := (digitChars d.digits).drop 1
  (digitChars d.digits).take 1 ++ (if fraction.isEmpty then [] else '.' :: fraction) ++
    'e' :: (if e < 0 then '-' else '+') :: digitChars e.natAbs

end Decimal

namespace Binary64

private def signed (x : Binary64) (cs : List Char) : String :=
  String.ofList (if x.isNegative then '-' :: cs else cs)

/-- The text of a number inside a sentence: positional, `inf` and `NaN` by name. -/
def plainText (x : Binary64) : String :=
  if x.isNaN then "NaN"
  else if !x.isFinite then x.signed "inf".toList
  else x.signed (x.shortest .up).positional

/-- The text of a number in a JSON document: positional with a fraction from `1e-5` up to
`1e16`, otherwise scientific. JSON has no word for NaN and infinity, which become `null`. -/
def jsonText (x : Binary64) : String :=
  if !x.isFinite then "null"
  else
    let d := x.shortest .toEven
    if -5 ≤ d.leading && d.leading ≤ 15 then
      x.signed (if 0 ≤ d.exponent then d.positional ++ ['.', '0'] else d.positional)
    else x.signed d.scientific

end Binary64

end InfraPolicy
