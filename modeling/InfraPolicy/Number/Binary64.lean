import InfraPolicy.Number.Power

/-!
# Double precision numbers

A number is its 64 bits: a sign, then a magnitude whose order as an integer is the order of the
absolute values. Comparison therefore needs no arithmetic on floating point numbers: `order`
sends every number that is not a NaN to an integer, both zeros to `0`, and keeps the order.

`roundRatio` is the only rounding of the library. It takes the quotient of two naturals to the
nearest magnitude, a half going to the even neighbour, and serves integers and decimals alike.
-/

namespace InfraPolicy

/-- A double precision number, by its bits. -/
structure Binary64 where
  bits : UInt64
deriving DecidableEq, Repr, Inhabited

namespace Binary64

/-- The magnitude of infinity; a greater one is a NaN. -/
def infiniteMagnitude : Nat := 0x7FF0000000000000

/-- All bits but the sign. -/
def magnitude (x : Binary64) : Nat :=
  x.bits.toNat % Number.twoTo 63

/-- Is the sign bit set? -/
def isNegative (x : Binary64) : Bool :=
  Number.twoTo 63 ≤ x.bits.toNat

/-- Put a sign before a magnitude. -/
def ofMagnitude (negative : Bool) (magnitude : Nat) : Binary64 :=
  ⟨UInt64.ofNat (if negative then Number.twoTo 63 + magnitude else magnitude)⟩

def isNaN (x : Binary64) : Bool :=
  infiniteMagnitude < x.magnitude

/-- Neither infinite nor a NaN. -/
def isFinite (x : Binary64) : Bool :=
  x.magnitude < infiniteMagnitude

/-- A NaN. -/
def nan : Binary64 := ofMagnitude false 0x7FF8000000000000

/-- Infinity with a sign. -/
def infinity (negative : Bool) : Binary64 := ofMagnitude negative infiniteMagnitude

/-! ### Comparison -/

/-- The place of a number in the order of all numbers; both zeros have the same. -/
def order (x : Binary64) : Int :=
  if x.isNegative then -(x.magnitude : Int) else x.magnitude

/-- Numeric equality: a NaN equals nothing, and the two zeros are equal. -/
def eqv (x y : Binary64) : Bool :=
  !x.isNaN && !y.isNaN && x.order == y.order

/-- Numeric order: a NaN is neither less nor greater than anything. -/
def less (x y : Binary64) : Bool :=
  !x.isNaN && !y.isNaN && x.order < y.order

theorem eqv_symm (x y : Binary64) : x.eqv y = y.eqv x := by
  rw [eqv, eqv, Bool.and_comm (!x.isNaN) (!y.isNaN), BEq.comm (a := x.order)]

theorem eqv_self {x : Binary64} (h : x.isNaN = false) : x.eqv x = true := by
  simp [eqv, h]

/-! ### Rounding -/

/-- The quotient to the nearest integer, a half to the even one. -/
def roundDiv (num den : Nat) : Nat :=
  let q := num / den
  let r := num % den
  if 2 * r < den then q else if den < 2 * r then q + 1 else q + q % 2

/-- The greatest `e` with `2 ^ e ≤ num / den`, for positive `num` and `den`. -/
def floorLog2 (num den : Nat) : Int :=
  let e : Int := (Nat.log2 num : Int) - Nat.log2 den
  if num * Number.twoTo (-e).toNat < den * Number.twoTo e.toNat then e - 1 else e

/-- The magnitude nearest to `num / den`, a half to the even one, infinity when it is too
great. The exponent and the fraction are added as one number, so that a fraction that rounds
up to a power of two carries into the exponent. -/
def roundRatio (num den : Nat) : Nat :=
  if num = 0 then 0 else
    let q : Int := max (floorLog2 num den - 52) (-1074)
    let m := roundDiv (num * Number.twoTo (-q).toNat) (den * Number.twoTo q.toNat)
    min ((q + 1074).toNat * Number.twoTo 52 + m) infiniteMagnitude

/-- The number nearest to an integer. -/
def ofInt (n : Int) : Binary64 :=
  ofMagnitude (n < 0) (roundRatio n.natAbs 1)

/-- The number nearest to `digits * 10 ^ exponent`, with a sign. Exponents so large or so small
that the answer does not hang on the digits are cut off first. -/
def ofDecimal (negative : Bool) (digits : Nat) (exponent : Int) : Binary64 :=
  let size : Int := exponent + (Nat.toDigits 10 digits).length
  if digits = 0 || size < -400 then ofMagnitude negative 0
  else if 400 < size then infinity negative
  else
    ofMagnitude negative
      (roundRatio (digits * Number.tenTo exponent.toNat) (Number.tenTo (-exponent).toNat))

/-! ### Exact value -/

/-- A finite number is `significand * 2 ^ scale`, up to the sign. -/
def significand (x : Binary64) : Nat :=
  let exponent := x.magnitude / Number.twoTo 52
  let fraction := x.magnitude % Number.twoTo 52
  if exponent = 0 then fraction else Number.twoTo 52 + fraction

@[inherit_doc significand]
def scale (x : Binary64) : Int :=
  max (x.magnitude / Number.twoTo 52 : Nat) 1 - 1075

/-- The integer that a finite number equals, if it equals one. -/
def toInt? (x : Binary64) : Option Int :=
  if !x.isFinite then none else
    let shift := Number.twoTo (-x.scale).toNat
    let whole : Int := (x.significand * Number.twoTo x.scale.toNat / shift : Nat)
    if x.significand * Number.twoTo x.scale.toNat % shift = 0 then
      some (if x.isNegative then -whole else whole)
    else none

end Binary64

end InfraPolicy
