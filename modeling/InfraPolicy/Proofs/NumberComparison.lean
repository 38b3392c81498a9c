import InfraPolicy.Proofs.LooseEquality
import InfraPolicy.Proofs.NumberOrder
import Mathlib.Order.Compare

/-!
# How numbers compare

Rules test numbers with `lessThan`, `looseEq` and `greaterThan`. The first and the last compare
double precision numbers, to which integers are rounded, and so does the second, except that two
integers are equal only if they are the same. So exactly one test holds of two numbers that are told
apart (`Value.exists_unique_compares_of_told_apart`), and none of different integers that become the
same double (`Value.RoundTogether.not_compares`). Integers are told apart if one of them is less
than `2 ^ 53` in absolute value, and the integer `2 ^ 53` is not told from the next.
-/

namespace InfraPolicy

namespace Value

/-- An integer, or a float that is not a NaN. -/
inductive IsNumber : Value → Prop
  | int (n : Int64) : IsNumber (.int n)
  | float {x : Binary64} (h : x.isNaN = false) : IsNumber (.float x)

/-- The test that rules have for each way in which two numbers may compare. -/
def Compares (a b : Value) : Ordering → Prop
  | .lt => a.lessThan b = true
  | .eq => a.looseEq b = true
  | .gt => a.greaterThan b = true

/-- Different integers that become the same double precision number. -/
inductive RoundTogether : Value → Value → Prop
  | mk {m n : Int64} (hne : m ≠ n) (hround : Binary64.ofInt m.toInt = Binary64.ofInt n.toInt) :
    RoundTogether (.int m) (.int n)

theorem IsNumber.exists_number? {a : Value} (h : a.IsNumber) :
    ∃ x, a.number? = some x ∧ x.isNaN = false := by
  cases h with
  | int n => exact ⟨.ofInt n.toInt, rfl, Binary64.isNaN_ofInt _⟩
  | float hx => exact ⟨_, rfl, hx⟩

theorem IsNumber.keyedOnce {a : Value} (h : a.IsNumber) : a.KeyedOnce := by
  cases h <;> trivial

section

variable {a b : Value} {x y : Binary64}

/-- Numbers that are told apart are equal as their doubles are. -/
theorem looseEq_iff_order_eq (ha : a.IsNumber) (hb : b.IsNumber) (hx : a.number? = some x)
    (hy : b.number? = some y) (h : ¬a.RoundTogether b) :
    a.looseEq b = true ↔ x.order = y.order := by
  cases ha with
  | int m =>
    cases hb with
    | int n =>
      -- the one case in which no doubles are compared
      cases hx
      cases hy
      rw [looseEq, beq_iff_eq]
      constructor
      · rintro rfl
        rfl
      · intro horder
        by_contra hne
        exact h (.mk hne (Binary64.ofInt_eq_of_order_eq horder))
    | float hnan =>
      cases hx
      cases hy
      rw [looseEq, Binary64.eqv_iff (Binary64.isNaN_ofInt _) hnan]
  | float hnan =>
    cases hx
    cases hb with
    | int n =>
      cases hy
      rw [looseEq, Binary64.eqv_iff hnan (Binary64.isNaN_ofInt _)]
    | float hnan' =>
      cases hy
      rw [looseEq, Binary64.eqv_iff hnan hnan']

/-- Numbers compare by the places of their doubles. -/
theorem lessThan_iff_order_lt (hx : a.number? = some x) (hy : b.number? = some y)
    (hxnan : x.isNaN = false) (hynan : y.isNaN = false) :
    a.lessThan b = true ↔ x.order < y.order := by
  rw [← Binary64.less_iff hxnan hynan, lessThan, hx, hy]

end

/-- Numbers that are told apart compare as their doubles do. -/
theorem exists_unique_compares_of_told_apart {a b : Value} (ha : a.IsNumber) (hb : b.IsNumber)
    (h : ¬a.RoundTogether b) : ∃! o, a.Compares b o := by
  obtain ⟨x, hx, hxnan⟩ := ha.exists_number?
  obtain ⟨y, hy, hynan⟩ := hb.exists_number?
  have horder : ∀ o, a.Compares b o ↔ o.Compares x.order y.order := by
    intro o
    cases o with
    | lt => exact lessThan_iff_order_lt hx hy hxnan hynan
    | eq => exact looseEq_iff_order_eq ha hb hx hy h
    | gt =>
      rw [Compares, greaterThan_eq]
      exact lessThan_iff_order_lt hy hx hynan hxnan
  have hcmp := cmp_compares x.order y.order
  exact ⟨cmp x.order y.order, (horder _).mpr hcmp, fun o ho => ((horder o).mp ho).inj hcmp⟩

theorem compares_swap {a b : Value} (ha : a.IsNumber) (hb : b.IsNumber) (o : Ordering) :
    a.Compares b o ↔ b.Compares a o.swap := by
  cases o with
  | lt => rw [Ordering.swap, Compares, Compares, greaterThan_eq]
  | eq => rw [Ordering.swap, Compares, Compares, looseEq_comm ha.keyedOnce hb.keyedOnce]
  | gt => rw [Ordering.swap, Compares, Compares, greaterThan_eq]

/-! ### Integers -/

theorem RoundTogether.not_compares {a b : Value} (h : a.RoundTogether b) (o : Ordering) :
    ¬a.Compares b o := by
  obtain ⟨hne, hround⟩ := h
  cases o with
  | lt => simp [Compares, lessThan, number?, hround, Binary64.less]
  | eq => simpa [Compares, looseEq] using hne
  | gt => simp [Compares, greaterThan, number?, hround, Binary64.less]

section

variable {m n : Int64}

/-- An integer below the 53rd power of two is told apart from all others. -/
theorem not_roundTogether (h : m.toInt.natAbs < 2 ^ 53 ∨ n.toInt.natAbs < 2 ^ 53) :
    ¬(Value.int m).RoundTogether (.int n) := by
  rintro ⟨hne, hround⟩
  rcases lt_or_gt_of_ne (fun heq => hne (Int64.toInt_inj.mp heq)) with hlt | hgt
  · exact (Binary64.order_ofInt_lt hlt h).ne (congrArg Binary64.order hround)
  · exact (Binary64.order_ofInt_lt hgt h.symm).ne' (congrArg Binary64.order hround)

/-- What comparing integers says is true of them. -/
theorem ordering_of_compares {o : Ordering} (h : (Value.int m).Compares (.int n) o) :
    o.Compares m.toInt n.toInt := by
  cases o with
  | lt => exact Binary64.lt_of_less_ofInt h
  | eq => exact congrArg Int64.toInt (beq_iff_eq.mp h)
  | gt => exact Binary64.lt_of_less_ofInt h

/-- Rules say of two integers what is so, and they say it if they tell them apart. -/
theorem int_compares_iff (o : Ordering) : (Value.int m).Compares (.int n) o ↔
    o.Compares m.toInt n.toInt ∧ ¬(Value.int m).RoundTogether (.int n) := by
  constructor
  · intro h
    exact ⟨ordering_of_compares h, fun htogether => htogether.not_compares o h⟩
  · rintro ⟨ho, hapart⟩
    -- something is said of them, and that is so
    obtain ⟨o', ho', -⟩ := exists_unique_compares_of_told_apart (.int m) (.int n) hapart
    rwa [ho.inj (ordering_of_compares ho')]

end

/-- **Exactly one test holds of two numbers if they are told apart**, and none if they are not. The
tests are those of an order, which is that of the integers where both numbers are integers, and of
these only large ones may not be told apart. -/
theorem exists_unique_comparison_iff_told_apart {a b : Value} (ha : a.IsNumber)
    (hb : b.IsNumber) :
    ((∃! o, a.Compares b o) ↔ ¬a.RoundTogether b) ∧
      (a.RoundTogether b → ∀ o, ¬a.Compares b o) ∧
      (∀ o, a.Compares b o ↔ b.Compares a o.swap) ∧
      (∀ c : Value, a.Compares b .lt → b.Compares c .lt → a.Compares c .lt) ∧
      ∀ m n : Int64, a = .int m → b = .int n →
        (∀ o, a.Compares b o ↔ o.Compares m.toInt n.toInt ∧ ¬a.RoundTogether b) ∧
        (m.toInt.natAbs < 2 ^ 53 ∨ n.toInt.natAbs < 2 ^ 53 → ¬a.RoundTogether b) := by
  refine ⟨⟨?_, exists_unique_compares_of_told_apart ha hb⟩, RoundTogether.not_compares,
    compares_swap ha hb, fun c => lessThan_trans, ?_⟩
  · rintro ⟨o, ho, -⟩ htogether
    exact htogether.not_compares o ho
  · rintro m n rfl rfl
    exact ⟨int_compares_iff, not_roundTogether⟩

/-- An integer that is rounded equals the float that it is rounded to. -/
theorem exists_unique_comparison_iff_told_apart_example :
    let a : Value := .int 9007199254740993
    let b : Value := .float (.ofInt 9007199254740992)
    a.IsNumber ∧ b.IsNumber ∧ a.Compares b .eq ∧ ∃! o, a.Compares b o := by
  intro a b
  have ha : a.IsNumber := .int _
  have hb : b.IsNumber := .float (Binary64.isNaN_ofInt _)
  have hapart : ¬a.RoundTogether b := by
    simp only [a, b]
    rintro ⟨⟩
  refine ⟨ha, hb, ?_, (exists_unique_comparison_iff_told_apart ha hb).1.mpr hapart⟩
  simp only [a, b]
  rfl

/-- The first integer that is rounded is neither equal to the one before it nor greater. -/
theorem rounded_integer_has_no_comparison :
    let a : Value := .int 9007199254740992
    let b : Value := .int 9007199254740993
    a.IsNumber ∧ b.IsNumber ∧
      a.lessThan b = false ∧ a.looseEq b = false ∧ a.greaterThan b = false := by
  intro a b
  refine ⟨.int _, .int _, ?_⟩
  simp only [a, b]
  decide

end Value

end InfraPolicy
