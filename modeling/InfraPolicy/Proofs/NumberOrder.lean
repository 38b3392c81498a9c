import InfraPolicy.Proofs.Literals
import InfraPolicy.Value.Compare
import Mathlib.Algebra.GroupWithZero.Nat
import Mathlib.Order.MinMax

/-!
# The order of rounded integers

An integer that becomes a double precision number is rounded, so that different integers may become
equal. They never change places (`Binary64.order_ofInt_mono`): within one power of two rounding is
monotone, and what is rounded up to the next power of two still comes before the integers there.
So comparison with a bound is that of the integers, if the bound is told from its neighbour
(`Binary64.less_ofInt_iff`). Below `2 ^ 53` nothing is rounded at all, and an integer there is told
from every other one (`Binary64.order_ofInt_lt`).
-/

namespace InfraPolicy

namespace Binary64

/-! ### Rounding is monotone -/

theorem le_roundDiv (num den : Nat) : num / den ≤ roundDiv num den := by
  dsimp only [roundDiv]
  split_ifs <;> omega

theorem roundDiv_le (num den : Nat) : roundDiv num den ≤ num / den + 1 := by
  dsimp only [roundDiv]
  split_ifs <;> omega

/-- Rounding a quotient respects the order of dividends. -/
theorem roundDiv_mono {a b : Nat} (h : a ≤ b) (den : Nat) : roundDiv a den ≤ roundDiv b den := by
  rcases lt_or_eq_of_le (Nat.div_le_div_right h : a / den ≤ b / den) with hlt | heq
  · exact (roundDiv_le a den).trans (hlt.trans_le (le_roundDiv b den))
  · -- with the same quotient, the remainders decide
    have hmod : a % den ≤ b % den := by
      have ha := Nat.div_add_mod a den
      have hb := Nat.div_add_mod b den
      rw [heq] at ha
      omega
    dsimp only [roundDiv]
    rw [heq]
    split_ifs <;> omega

theorem floorLog2_one {n : Nat} (h : n ≠ 0) : floorLog2 n 1 = Nat.log2 n := by
  have hself := Nat.log2_self_le h
  have hone : Nat.log2 1 = 0 := by decide
  have hzero : (-((Nat.log2 n : Int) - (0 : Nat))).toNat = 0 := by omega
  have hlog : ((Nat.log2 n : Int) - (0 : Nat)).toNat = Nat.log2 n := by omega
  dsimp only [floorLog2]
  rw [hone, hzero, hlog, if_neg]
  · omega
  · simpa [Number.twoTo] using hself

/-- The fraction of an integer with its leading bit, in units of the last place. -/
def fractionOf (n : Nat) : Nat :=
  roundDiv (n * 2 ^ (52 - Nat.log2 n)) (2 ^ (Nat.log2 n - 52))

/-- The magnitude of a positive integer: its exponent above its leading bits, or infinity if that is
less. -/
theorem roundRatio_eq {n : Nat} (h : n ≠ 0) :
    roundRatio n 1 = min ((Nat.log2 n + 1022) * 2 ^ 52 + fractionOf n) infiniteMagnitude := by
  have hq : max ((Nat.log2 n : Int) - 52) (-1074) = (Nat.log2 n : Int) - 52 := by omega
  have hexponent : ((Nat.log2 n : Int) - 52 + 1074).toNat = Nat.log2 n + 1022 := by omega
  have hdown : (-((Nat.log2 n : Int) - 52)).toNat = 52 - Nat.log2 n := by omega
  have hup : ((Nat.log2 n : Int) - 52).toNat = Nat.log2 n - 52 := by omega
  rw [roundRatio, if_neg h, floorLog2_one h]
  dsimp only
  rw [hq, hexponent, hdown, hup, Nat.one_mul]
  rfl

/-- The leading bits fill the fraction, or carry into the next exponent. -/
theorem fractionOf_bounds {n : Nat} (h : n ≠ 0) :
    2 ^ 52 ≤ fractionOf n ∧ fractionOf n ≤ 2 ^ 53 := by
  -- both sides of the quotient are moved by the same power of two, up or down
  have hscale : ∀ k, 2 ^ (52 + k) * 2 ^ (Nat.log2 n - 52) =
      2 ^ (Nat.log2 n + k) * 2 ^ (52 - Nat.log2 n) := by
    intro k
    rw [← Nat.pow_add, ← Nat.pow_add]
    congr 1
    omega
  have hpos : 0 < 2 ^ (Nat.log2 n - 52) := Nat.two_pow_pos _
  have hlow : 2 ^ 52 ≤ n * 2 ^ (52 - Nat.log2 n) / 2 ^ (Nat.log2 n - 52) := by
    rw [Nat.le_div_iff_mul_le hpos]
    exact (hscale 0).trans_le (Nat.mul_le_mul_right _ (Nat.log2_self_le h))
  have hhigh : n * 2 ^ (52 - Nat.log2 n) / 2 ^ (Nat.log2 n - 52) < 2 ^ 53 := by
    rw [Nat.div_lt_iff_lt_mul hpos]
    refine lt_of_lt_of_eq ?_ (hscale 1).symm
    exact Nat.mul_lt_mul_of_pos_right Nat.lt_log2_self (Nat.two_pow_pos _)
  exact ⟨hlow.trans (le_roundDiv _ _), (roundDiv_le _ _).trans hhigh⟩

/-- **Rounding an integer respects order.** -/
theorem roundRatio_mono {a b : Nat} (h : a ≤ b) : roundRatio a 1 ≤ roundRatio b 1 := by
  by_cases ha : a = 0
  · rw [roundRatio, if_pos ha]
    exact Nat.zero_le _
  · have hb : b ≠ 0 := by omega
    have hlog : Nat.log2 a ≤ Nat.log2 b :=
      (Nat.le_log2 hb).mpr ((Nat.log2_self_le ha).trans h)
    have hsum : (Nat.log2 a + 1022) * 2 ^ 52 + fractionOf a ≤
        (Nat.log2 b + 1022) * 2 ^ 52 + fractionOf b := by
      rcases lt_or_eq_of_le hlog with hlt | heq
      · -- `a` is rounded to the next power of two at most
        have hfa := (fractionOf_bounds ha).2
        have hfb := (fractionOf_bounds hb).1
        omega
      · have hfraction : fractionOf a ≤ fractionOf b := by
          rw [fractionOf, fractionOf, heq]
          exact roundDiv_mono (Nat.mul_le_mul_right _ h) _
        omega
    rw [roundRatio_eq ha, roundRatio_eq hb]
    exact min_le_min_right infiniteMagnitude hsum

/-! ### Integers that need no rounding -/

theorem log2_le_of_lt_two_pow {n : Nat} (h : n < 2 ^ 53) : Nat.log2 n ≤ 52 := by
  by_cases hzero : n = 0
  · rw [hzero]
    decide
  · exact Nat.le_of_lt_succ ((Nat.log2_lt hzero).mpr h)

/-- A short integer is not rounded, only shifted. -/
theorem fractionOf_eq_mul {n : Nat} (h : Nat.log2 n ≤ 52) :
    fractionOf n = n * 2 ^ (52 - Nat.log2 n) := by
  have hdown : Nat.log2 n - 52 = 0 := by omega
  simp [fractionOf, hdown, roundDiv, Nat.mod_one]

/-- With at most 53 bits, the fraction does not reach the next power of two. -/
theorem fractionOf_lt {n : Nat} (h : Nat.log2 n ≤ 52) : fractionOf n < 2 ^ 53 := by
  calc fractionOf n = n * 2 ^ (52 - Nat.log2 n) := fractionOf_eq_mul h
    _ < 2 ^ (Nat.log2 n + 1) * 2 ^ (52 - Nat.log2 n) :=
      Nat.mul_lt_mul_of_pos_right Nat.lt_log2_self (Nat.two_pow_pos _)
    _ = 2 ^ 53 := by
      rw [← Nat.pow_add]
      congr 1
      omega

/-- Rounding keeps integers apart as long as the lesser one fits the fraction. -/
theorem roundRatio_lt {a b : Nat} (h : a < b) (ha : a < 2 ^ 53) :
    roundRatio a 1 < roundRatio b 1 := by
  have hb : b ≠ 0 := by omega
  by_cases hzero : a = 0
  · rw [hzero, roundRatio, if_pos rfl]
    exact Nat.pos_of_ne_zero (roundRatio_one hb).1
  · have hbits := log2_le_of_lt_two_pow ha
    have hfa := fractionOf_lt hbits
    have hlog : Nat.log2 a ≤ Nat.log2 b :=
      (Nat.le_log2 hb).mpr ((Nat.log2_self_le hzero).trans h.le)
    have hsum : (Nat.log2 a + 1022) * 2 ^ 52 + fractionOf a <
        (Nat.log2 b + 1022) * 2 ^ 52 + fractionOf b := by
      rcases lt_or_eq_of_le hlog with hlt | heq
      · have hfb := (fractionOf_bounds hb).1
        omega
      · -- in the same power of two, neither of the two is rounded
        have hfraction : fractionOf a < fractionOf b := by
          rw [fractionOf_eq_mul hbits, fractionOf_eq_mul (heq ▸ hbits), heq]
          exact Nat.mul_lt_mul_of_pos_right h (Nat.two_pow_pos _)
        omega
    have hfinite : (Nat.log2 a + 1022) * 2 ^ 52 + fractionOf a < infiniteMagnitude := by
      have hinfinite : infiniteMagnitude = 2047 * 2 ^ 52 := by decide
      omega
    rw [roundRatio_eq hzero, roundRatio_eq hb]
    exact (min_le_left _ _).trans_lt (lt_min hsum hfinite)

/-! ### Integers -/

theorem roundRatio_le (n : Nat) : roundRatio n 1 ≤ infiniteMagnitude := by
  by_cases h : n = 0
  · rw [roundRatio, if_pos h]
    exact Nat.zero_le _
  · exact (roundRatio_one h).2

theorem isNegative_ofMagnitude {m : Nat} (negative : Bool) (h : m ≤ infiniteMagnitude) :
    (ofMagnitude negative m).isNegative = negative := by
  have htwo : Number.twoTo 63 = 2 ^ 63 := rfl
  have hinfinite : infiniteMagnitude < 2 ^ 63 := by decide
  rw [ofMagnitude, isNegative, UInt64.toNat_ofNat', htwo]
  cases negative <;> simp <;> omega

/-- Where an integer stands in the order of doubles: by its rounded magnitude, with its sign. -/
theorem order_ofInt (n : Int) :
    (ofInt n).order =
      if n < 0 then -(roundRatio n.natAbs 1 : Int) else roundRatio n.natAbs 1 := by
  have hle := roundRatio_le n.natAbs
  rw [order, ofInt, isNegative_ofMagnitude _ hle, magnitude_ofMagnitude _ hle]
  simp only [decide_eq_true_eq]

/-- **Integers keep their order** when they are rounded. -/
theorem order_ofInt_mono {a b : Int} (h : a ≤ b) : (ofInt a).order ≤ (ofInt b).order := by
  rw [order_ofInt, order_ofInt]
  split_ifs with ha hb hb
  · have hround := roundRatio_mono (by omega : b.natAbs ≤ a.natAbs)
    omega
  · omega
  · omega
  · have hround := roundRatio_mono (by omega : a.natAbs ≤ b.natAbs)
    omega

/-- An integer with at most 53 bits stays apart from all others. -/
theorem order_ofInt_lt {a b : Int} (h : a < b)
    (hexact : a.natAbs < 2 ^ 53 ∨ b.natAbs < 2 ^ 53) : (ofInt a).order < (ofInt b).order := by
  rw [order_ofInt, order_ofInt]
  split_ifs with ha hb hb
  · have hround := roundRatio_lt (by omega : b.natAbs < a.natAbs) (by omega)
    omega
  · have hpos := (roundRatio_one (Int.natAbs_ne_zero.mpr ha.ne)).1
    omega
  · omega
  · have hround := roundRatio_lt (by omega : a.natAbs < b.natAbs) (by omega)
    omega

/-- The order tells rounded integers apart: none of them is the negative zero. -/
theorem ofInt_eq_of_order_eq {a b : Int} (h : (ofInt a).order = (ofInt b).order) :
    ofInt a = ofInt b := by
  have hround : ∀ n : Int, n < 0 → roundRatio n.natAbs 1 ≠ 0 := fun n hn =>
    (roundRatio_one (Int.natAbs_ne_zero.mpr hn.ne)).1
  rw [order_ofInt, order_ofInt] at h
  split_ifs at h with ha hb hb
  · have hmagnitude : roundRatio a.natAbs 1 = roundRatio b.natAbs 1 := by omega
    simp only [ofInt, ha, hb, hmagnitude]
  · have hpos := hround a ha
    omega
  · have hpos := hround b hb
    omega
  · have hmagnitude : roundRatio a.natAbs 1 = roundRatio b.natAbs 1 := by omega
    simp only [ofInt, ha, hb, hmagnitude]

theorem isNaN_ofInt (n : Int) : (ofInt n).isNaN = false := by
  rw [isNaN, ofInt, magnitude_ofMagnitude _ (roundRatio_le n.natAbs)]
  simpa using roundRatio_le n.natAbs

/-- Doubles that are no NaN compare by their places in one linear order. -/
theorem less_iff {x y : Binary64} (hx : x.isNaN = false) (hy : y.isNaN = false) :
    x.less y = true ↔ x.order < y.order := by
  simp [less, hx, hy]

/-- Doubles that are no NaN are equal at equal places; so the two zeros are. -/
theorem eqv_iff {x y : Binary64} (hx : x.isNaN = false) (hy : y.isNaN = false) :
    x.eqv y = true ↔ x.order = y.order := by
  simp [eqv, hx, hy]

theorem less_trans {x y z : Binary64} (hxy : x.less y = true) (hyz : y.less z = true) :
    x.less z = true := by
  simp only [less, Bool.and_eq_true, Bool.not_eq_true', decide_eq_true_eq] at hxy hyz ⊢
  exact ⟨⟨hxy.1.1, hyz.1.2⟩, hxy.2.trans hyz.2⟩

theorem less_ofInt (a b : Int) : (ofInt a).less (ofInt b) = true ↔
    (ofInt a).order < (ofInt b).order :=
  less_iff (isNaN_ofInt a) (isNaN_ofInt b)

/-- If integers compare after rounding, they compare in the same way. -/
theorem lt_of_less_ofInt {a b : Int} (h : (ofInt a).less (ofInt b) = true) : a < b := by
  rw [less_ofInt] at h
  by_contra hle
  have hmono := order_ofInt_mono (not_lt.mp hle)
  omega

/-- A comparison of integers that survives rounding survives where the integers lie further
apart. -/
theorem less_ofInt_mono {a a' b b' : Int} (h : (ofInt a).less (ofInt b) = true) (ha : a' ≤ a)
    (hb : b ≤ b') : (ofInt a').less (ofInt b') = true := by
  rw [less_ofInt] at h ⊢
  calc (ofInt a').order ≤ (ofInt a).order := order_ofInt_mono ha
    _ < (ofInt b).order := h
    _ ≤ (ofInt b').order := order_ofInt_mono hb

/-- **Comparison of integers with a bound**, where the bound does not become equal to the integer
before it. -/
theorem less_ofInt_iff {n bound : Int} (h : (ofInt (bound - 1)).less (ofInt bound) = true) :
    (ofInt n).less (ofInt bound) = true ↔ n < bound :=
  ⟨lt_of_less_ofInt, fun hlt => less_ofInt_mono h (by omega) le_rfl⟩

/-- The same for a bound below. -/
theorem ofInt_less_iff {n bound : Int} (h : (ofInt bound).less (ofInt (bound + 1)) = true) :
    (ofInt bound).less (ofInt n) = true ↔ bound < n :=
  ⟨lt_of_less_ofInt, fun hlt => less_ofInt_mono h le_rfl (by omega)⟩

end Binary64

/-! ### Values that stand for numbers -/

namespace Value

/-- Values compare if both are numbers, or texts that spell numbers. -/
theorem lessThan_eq_true_iff {v bound : Value} :
    v.lessThan bound = true ↔
      ∃ x y, v.number? = some x ∧ bound.number? = some y ∧ x.less y = true := by
  rw [lessThan]
  cases v.number? <;> cases bound.number? <;> simp

theorem greaterThan_eq (v bound : Value) : v.greaterThan bound = bound.lessThan v := by
  rw [greaterThan, lessThan]
  cases v.number? <;> cases bound.number? <;> rfl

/-- **The comparison of values is transitive**, across numbers and texts. -/
theorem lessThan_trans {a b c : Value} (hab : a.lessThan b = true) (hbc : b.lessThan c = true) :
    a.lessThan c = true := by
  obtain ⟨x, y, hx, hy, hxy⟩ := lessThan_eq_true_iff.mp hab
  obtain ⟨y', z, hy', hz, hyz⟩ := lessThan_eq_true_iff.mp hbc
  obtain rfl : y = y' := Option.some.inj (hy.symm.trans hy')
  exact lessThan_eq_true_iff.mpr ⟨x, z, hx, hz, Binary64.less_trans hxy hyz⟩

end Value

end InfraPolicy
