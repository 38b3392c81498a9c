import InfraPolicy.Number.Binary64

/-!
# The fewest digits that read back

Among the decimals that round to a given number, `Binary64.shortest` takes one with the fewest
digits, and among those the nearest. It walks the decimal grids from coarse to fine and tests
the two neighbours of the number on each, in exact arithmetic on naturals.
-/

namespace InfraPolicy

/-- A decimal `digits * 10 ^ exponent`. -/
structure Decimal where
  digits : Nat
  exponent : Int
deriving DecidableEq, Repr, Inhabited

namespace Decimal

/-- Which neighbour an exact tie takes. -/
inductive Tie where
  /-- The greater one. -/
  | up
  /-- The one with an even last digit. -/
  | toEven
deriving DecidableEq, Repr

/-- Move trailing zeros of the digits into the exponent; `fuel` bounds how many. -/
def stripZeros : Nat → Decimal → Decimal
  | 0, d => d
  | fuel + 1, d =>
    if d.digits ≠ 0 && d.digits % 10 = 0 then stripZeros fuel ⟨d.digits / 10, d.exponent + 1⟩
    else d

end Decimal

namespace Binary64

/-- The greatest `e` with `10 ^ e ≤ significand * 2 ^ scale`, for a positive significand: an
estimate from the binary length, which may be one too small. -/
private def floorLog10 (significand : Nat) (scale : Int) : Int :=
  let estimate : Int := ((Nat.log2 significand : Int) + scale) * 30103 / 100000
  let next := estimate + 1
  let value := significand * Number.twoTo scale.toNat * Number.tenTo (-next).toNat
  if Number.tenTo next.toNat * Number.twoTo (-scale).toNat ≤ value then next else estimate

/-- The numbers that round to `significand * 2 ^ scale` lie between its two half-way points,
which count only for an even significand. Below a power of two the lower point is nearer. All
three are in quarters of a unit in the last place. -/
private structure Neighbourhood where
  low : Nat
  middle : Nat
  high : Nat
  closed : Bool

/-- The neighbourhood of a finite number, up to its sign. -/
private def neighbourhood (x : Binary64) : Neighbourhood :=
  let m := x.significand
  let narrow := m == Number.twoTo 52 && -1074 < x.scale
  ⟨4 * m - (if narrow then 1 else 2), 4 * m, 4 * m + 2, m % 2 == 0⟩

/-- The neighbour on the grid of multiples of `10 ^ exponent` that reads back, the nearer of
two, if there is one. Both sides are multiplied out so that `c` on the grid stands for
`c * den` and a quarter unit for `num`. -/
private def onGrid? (tie : Decimal.Tie) (x : Binary64) (exponent : Int) : Option Decimal :=
  let n := x.neighbourhood
  let num := Number.twoTo (x.scale - 2).toNat * Number.tenTo (-exponent).toNat
  let den := Number.twoTo (2 - x.scale).toNat * Number.tenTo exponent.toNat
  let inside (c : Nat) : Bool :=
    if n.closed then n.low * num ≤ c * den && c * den ≤ n.high * num
    else n.low * num < c * den && c * den < n.high * num
  let c := n.middle * num / den
  let below := n.middle * num - c * den
  let above := (c + 1) * den - n.middle * num
  let takeUpper : Bool :=
    match tie with
    | .up => decide (above ≤ below)
    | .toEven => decide (above < below) || (above == below && c % 2 == 1)
  match inside c && 0 < c, inside (c + 1) with
  | false, false => none
  | true, false => some ⟨c, exponent⟩
  | false, true => some ⟨c + 1, exponent⟩
  | true, true => some ⟨if takeUpper then c + 1 else c, exponent⟩

/-- Try grids of growing fineness. Seventeen digits always suffice. -/
private def refine (tie : Decimal.Tie) (x : Binary64) : Nat → Int → Decimal
  | 0, _ => ⟨0, 0⟩
  | grids + 1, exponent => (x.onGrid? tie exponent).getD (refine tie x grids (exponent - 1))

/-- The nearest decimal with the fewest digits that rounds to the absolute value of a finite
number, without trailing zeros. -/
def shortest (tie : Decimal.Tie) (x : Binary64) : Decimal :=
  if x.significand = 0 then ⟨0, 0⟩
  else (refine tie x 18 (floorLog10 x.significand x.scale + 1)).stripZeros 20

end Binary64

end InfraPolicy
