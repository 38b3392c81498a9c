import InfraPolicy.Proofs.ConditionRules
import InfraPolicy.Proofs.LooseEquality
import InfraPolicy.Proofs.Outcomes

/-!
# Values that went through JSON

What a rule compares with is written as JSON and read back before the rule is made
(`Value.viaJson`). On this way the fields of objects are sorted, and what JSON has no form for is
lost: indeterminate values become texts, and infinite numbers and NaNs become null.

A value comes back unchanged exactly if it has the form that JSON gives (`Value.IsJsonForm`), and
every value has it once it came back. If nothing of a value is lost, it comes back with its fields
in another order and no other difference (`Value.reordered_viaJson`). No operator tells the order of
the fields of what it compares with, so a check says the same with either value
(`Check.make?_alike`).
-/

namespace InfraPolicy

namespace Value

variable {v w : Value}

/-! ### The way through JSON -/

theorem ofJsonItems_itemsToJson (items : List Value) :
    ofJsonItems (itemsToJson items) = items.map viaJson := by
  induction items with
  | nil => rfl
  | cons v rest ih => rw [itemsToJson, ofJsonItems, ih, List.map_cons, viaJson]

theorem ofJsonMembers_fieldsToJson (fields : Fields) :
    ofJsonMembers (fieldsToJson fields) = fields.map fun p => (p.1, p.2.viaJson) := by
  induction fields with
  | nil => rfl
  | cons p rest ih => rw [fieldsToJson, ofJsonMembers, ih, List.map_cons, viaJson]

/-- A list goes through JSON item by item. -/
theorem viaJson_list (items : List Value) : (list items).viaJson = .list (items.map viaJson) := by
  rw [viaJson, toJson, ofJson, ofJsonItems_itemsToJson]

/-- An object goes through JSON field by field and comes back in the order of its keys. -/
theorem viaJson_object (fields : Fields) :
    (object fields).viaJson =
      .object (Fields.sorted (fields.map fun p => (p.1, p.2.viaJson))) := by
  rw [viaJson, toJson, ofJson, ofJsonMembers_fieldsToJson]

/-- JSON has no infinities and no NaN: they become null. -/
theorem viaJson_float (x : Binary64) :
    (float x).viaJson = if x.isFinite then .float x else .null := by
  rw [viaJson, toJson]
  split_ifs <;> rfl

/-- An integer of 64 bits is in the range of integers that are read. -/
theorem viaJson_int (n : Int64) : (int n).viaJson = .int n := by
  have htwo : (Number.twoTo 63 : Int) = 2 ^ 63 := rfl
  have hle := n.le_toInt
  have hlt := n.toInt_lt
  rw [viaJson, toJson, ofJson, if_pos, Int64.ofInt_toInt]
  rw [htwo, Bool.and_eq_true, decide_eq_true_eq, decide_eq_true_eq]
  exact ⟨hle, hlt⟩

/-- Everything else that has no parts comes back as it was, if it is known. -/
theorem viaJson_of_isAtom (hatom : v.isAtom = true) (hknown : v.isIndeterminate = false) :
    v.viaJson = v := by
  cases v with
  | int n => exact viaJson_int n
  | float | list | object => simp [isAtom] at hatom
  | unknown | computed => simp [isIndeterminate] at hknown
  | null | bool | string => rfl

/-! ### The form that JSON gives -/

/-- A number that is infinite or a NaN, anywhere inside the value. -/
inductive HasNonFinite : Value → Prop
  | float {x : Binary64} (h : x.isFinite = false) : HasNonFinite (.float x)
  | item {v : Value} {items : List Value} (hmem : v ∈ items) (h : HasNonFinite v) :
      HasNonFinite (.list items)
  | field {p : String × Value} {fields : Fields} (hmem : p ∈ fields) (h : HasNonFinite p.2) :
      HasNonFinite (.object fields)

/-- Nothing in the value is indeterminate, its numbers are finite, and the fields of its objects
stand in the order of their names. -/
inductive IsJsonForm : Value → Prop
  | atom {v : Value} (hatom : v.isAtom = true) (hknown : v.isIndeterminate = false) : IsJsonForm v
  | float {x : Binary64} (h : x.isFinite = true) : IsJsonForm (.float x)
  | list {items : List Value} (h : ∀ v ∈ items, IsJsonForm v) : IsJsonForm (.list items)
  | object {fields : Fields} (sorted : fields.keys.Pairwise (· < ·))
      (h : ∀ p ∈ fields, IsJsonForm p.2) : IsJsonForm (.object fields)

/-- What comes back from JSON has the form of such values. -/
theorem isJsonForm_viaJson (v : Value) : v.viaJson.IsJsonForm := by
  induction v using inductionOnParts with
  | atom v hatom =>
    cases hopen : v.isIndeterminate with
    | false =>
      rw [viaJson_of_isAtom hatom hopen]
      exact .atom hatom hopen
    | true =>
      -- an indeterminate value comes back as the text that stands for it
      cases v with
      | unknown | computed => exact .atom rfl rfl
      | _ => simp [isIndeterminate] at hopen
  | float x =>
    rw [viaJson_float]
    split_ifs with hfinite
    · exact .float hfinite
    · exact .atom rfl rfl
  | list items ih =>
    rw [viaJson_list]
    exact .list (List.forall_mem_map.mpr ih)
  | object fields ih =>
    rw [viaJson_object]
    refine .object (Fields.pairwise_keys_sorted _) fun p hp => ?_
    obtain ⟨q, hq, rfl⟩ := List.mem_map.mp (Fields.mem_sorted hp)
    exact ih q hq

/-- A value of this form goes through JSON unchanged. -/
theorem IsJsonForm.viaJson_eq (h : v.IsJsonForm) : v.viaJson = v := by
  induction h with
  | atom hatom hknown => exact viaJson_of_isAtom hatom hknown
  | float hfinite => rw [viaJson_float, if_pos hfinite]
  | list _ ih => rw [viaJson_list, List.map_congr_left ih, List.map_id']
  | @object fields sorted _ ih =>
    have hmap : (fields.map fun p => (p.1, p.2.viaJson)) = fields := by
      conv_rhs => rw [← List.map_id' fields]
      exact List.map_congr_left fun p hp => by rw [ih p hp]
    rw [viaJson_object, hmap, Fields.sorted_eq_self sorted]

/-- **A value comes back unchanged exactly if it has the form that JSON gives.** -/
theorem viaJson_eq_self_iff : v.viaJson = v ↔ v.IsJsonForm := by
  constructor
  · intro h
    rw [← h]
    exact isJsonForm_viaJson v
  · exact IsJsonForm.viaJson_eq

theorem IsJsonForm.not_hasNonFinite (h : v.IsJsonForm) : ¬v.HasNonFinite := by
  induction h with
  | atom hatom =>
    rintro ⟨⟩ <;> simp [isAtom] at hatom
  | float hfinite =>
    intro hnot
    cases hnot with
    | float hnot => exact Bool.false_ne_true (hnot.symm.trans hfinite)
  | list _ ih =>
    intro hnot
    cases hnot with
    | item hmem hnot => exact ih _ hmem hnot
  | object _ _ ih =>
    intro hnot
    cases hnot with
    | field hmem hnot => exact ih _ hmem hnot

/-! ### What is not lost -/

theorem HasNaN.hasNonFinite (h : v.HasNaN) : v.HasNonFinite := by
  induction h with
  | @float x hnan =>
    refine .float ?_
    rw [Binary64.isNaN, decide_eq_true_eq] at hnan
    rw [Binary64.isFinite, decide_eq_false_iff_not]
    omega
  | item hmem _ ih => exact .item hmem ih
  | field hmem _ ih => exact .field hmem ih

/-- **A value of which nothing is lost comes back with its fields in another order.** -/
theorem reordered_viaJson (hkeyed : v.KeyedOnce) (hknown : v.hasIndeterminate = false)
    (hfinite : ¬v.HasNonFinite) : v.Reordered v.viaJson := by
  induction v using inductionOnParts with
  | atom v hatom =>
    have hopen : v.isIndeterminate = false := by
      by_contra hopen
      rw [hasIndeterminate_of_isIndeterminate (Bool.not_eq_false _ ▸ hopen)] at hknown
      exact Bool.false_ne_true hknown.symm
    rw [viaJson_of_isAtom hatom hopen]
    exact .refl v
  | float x =>
    have hx : x.isFinite = true := by
      by_contra hnot
      exact hfinite (.float (Bool.not_eq_true _ ▸ hnot))
    rw [viaJson_float, if_pos hx]
    exact .refl _
  | list items ih =>
    have hitems := itemsKeyedOnce_iff.mp hkeyed
    rw [viaJson_list]
    refine .list (List.length_map viaJson).symm fun n h h' => ?_
    have hmem := List.get_mem items ⟨n, h⟩
    have hitem := ih _ hmem (hitems _ hmem) (hasIndeterminate_of_mem hknown hmem)
      fun hnot => hfinite (.item hmem hnot)
    simpa using hitem
  | object fields ih =>
    have hfields : fields.KeyedOnce := hkeyed
    have hkeys : fields.keys = Fields.keys (fields.map fun p => (p.1, p.2.viaJson)) := by
      simp [Fields.keys]
    rw [hasIndeterminate, anyFieldIndeterminate_eq_any, List.any_eq_false] at hknown
    rw [viaJson_object]
    refine .object hkeys (fun n h h' => ?_) (Fields.sorted_perm (hkeys ▸ hfields.nodup_keys)).symm
    have hmem := List.get_mem fields ⟨n, h⟩
    have hfield := ih _ hmem (hfields.of_mem hmem) (Bool.eq_false_iff.mpr (hknown _ hmem))
      fun hnot => hfinite (.field hmem hnot)
    simpa using hfield

/-! ### Comparing with alike values -/

namespace Alike

variable {F : Binary64 → Binary64 → Prop} (hF : ∀ {x y}, F x y → x = y)

include hF

/-- No value tells alike values apart that it is compared with. Nothing is asked of its own keys. -/
theorem looseEq_right (h : Alike F v w) (u : Value) : u.looseEq v = u.looseEq w := by
  induction h generalizing u with
  | atom => rfl
  | float h => rw [hF h]
  | @list xs ys length _ ih =>
    cases u with
    | list us =>
      rw [looseEq, looseEq, Bool.eq_iff_iff, looseEqItems_iff, looseEqItems_iff,
        List.forall₂_iff_get, List.forall₂_iff_get]
      refine and_congr (by rw [length]) ⟨fun hitems n h h' => ?_, fun hitems n h h' => ?_⟩
      · rw [← ih n (length ▸ h') h']
        exact hitems n h (length ▸ h')
      · rw [ih n h' (length ▸ h')]
        exact hitems n h (length ▸ h')
    | _ => rfl
  | @object fs gs _ keys _ ih =>
    cases u with
    | object us =>
      have hlength : fs.length = gs.length := by simpa [Fields.keys] using keys.length_eq
      -- under each key there is nothing in both, or values that nothing tells apart
      have hrel := Fields.option_rel_get? (R := fun v w => ∀ u : Value, u.looseEq v = u.looseEq w)
        keys fun key v w hv hw => ih key v w hv hw
      have hfields : looseEqFields us fs = looseEqFields us gs := by
        rw [Bool.eq_iff_iff, looseEqFields_iff, looseEqFields_iff]
        refine forall₂_congr fun p _ => ?_
        have hkey := hrel p.1
        generalize fs.get? p.1 = a, gs.get? p.1 = b at hkey ⊢
        cases hkey with
        | none => simp
        | some heq => simp [heq p.2]
      rw [looseEq, looseEq, hlength, hfields]
    | _ => rfl

theorem contains_right (h : Alike F v w) (u : Value) : u.contains v = u.contains w := by
  cases u with
  | string | object => simp only [contains, h.scalarText?_eq hF]
  | list => simp only [contains, h.looseEq_right hF]
  | _ => rfl

theorem oneOf_right (h : Alike F v w) (u : Value) : u.oneOf v = u.oneOf w := by
  have hsingle := h.looseEq_right hF u
  cases h with
  | atom => rfl
  | float => exact hsingle
  | object => exact hsingle
  | list length items =>
    refine any_eq (List.forall₂_iff_get.mpr ⟨length, fun n h h' => ?_⟩)
    exact (items n h h').looseEq_right hF u

end Alike

end Value

/-! ### Checks -/

namespace Check

variable {F : Binary64 → Binary64 → Prop} (hF : ∀ {x y}, F x y → x = y) {v w : Value}

include hF

/-- The answer of a check does not hang on the order of fields in what it compares with. -/
theorem holdsOn_alike_value (h : v.Alike F w) (path : String) (op : Operator)
    (pattern : Option Pattern) (found : Value) :
    holdsOn ⟨path, op, some v, pattern⟩ found = holdsOn ⟨path, op, some w, pattern⟩ found := by
  simp only [holdsOn, Option.getD_some, h.looseEq_right hF, h.contains_right hF, h.oneOf_right hF,
    Value.greaterThan, Value.lessThan, h.number?_eq hF]

/-- **A check is made with a value as it is with an alike one**: with the same fault, or as a check
that says the same of everything that may be found. -/
theorem make?_alike (h : v.Alike F w) (path : String) (op : Operator) :
    Agree (fun c d => c.path = d.path ∧ ∀ found, c.verdictOn found = d.verdictOn found)
      (make? path op (some v)) (make? path op (some w)) := by
  have hnull : v.isNull = w.isNull := by cases h <;> rfl
  have hpattern : readPattern path op (some v) = readPattern path op (some w) := by
    cases op with
    | «matches» => cases h <;> rfl
    | _ => rfl
  have hverdict : ∀ pattern found, verdictOn ⟨path, op, some v, pattern⟩ found =
      verdictOn ⟨path, op, some w, pattern⟩ found := by
    intro pattern found
    cases found with
    | none => rfl
    | some found => simp only [verdictOn, holdsOn_alike_value hF h]
  rw [make?, make?]
  split_ifs with hblank
  · rfl
  · cases hv : v.isNull with
    | true =>
      rw [Option.filter_some, Option.filter_some, ← hnull, hv]
      exact Agree.refl (fun c => ⟨rfl, fun _ => rfl⟩) _
    | false =>
      simp only [Option.filter_some, ← hnull, hv, Bool.not_false, if_true, Option.isNone_some,
        Bool.and_false, Bool.false_eq_true, if_false, hpattern]
      cases readPattern path op (some w) with
      | error fault => rfl
      | ok pattern => exact ⟨rfl, hverdict pattern⟩

end Check

/-- **The way through JSON does not change what a rule checks.** What comes back has nothing in it
that is indeterminate, infinite or a NaN, and comes back unchanged from a second way. If there was
no such thing in a value, in whose objects every key stands once, then rules take it for equal to
what comes back, which differs in the order of fields only, and a check that is made with either of
them is refused for the same reason or has the same verdict, whatever its operator and whatever it
finds. -/
theorem json_keeps_what_is_checked (v : Value) :
    (v.viaJson.hasIndeterminate = false ∧ ¬v.viaJson.HasNonFinite ∧
      v.viaJson.viaJson = v.viaJson) ∧
    (v.KeyedOnce → v.hasIndeterminate = false → ¬v.HasNonFinite →
      v.looseEq v.viaJson = true ∧ v.Reordered v.viaJson ∧
      ∀ (path : String) (op : Operator),
        Agree (fun c d => (∀ found, c.verdictOn found = d.verdictOn found) ∧
            ∀ attributes, c.verdict attributes = d.verdict attributes)
          (Check.make? path op (some v)) (Check.make? path op (some v.viaJson))) := by
  have hform := v.isJsonForm_viaJson
  refine ⟨⟨Value.hasIndeterminate_ofJson v.toJson, hform.not_hasNonFinite,
    Value.viaJson_eq_self_iff.mpr hform⟩, fun hkeyed hknown hfinite => ?_⟩
  have hreordered := Value.reordered_viaJson hkeyed hknown hfinite
  have halike := hreordered.alike hkeyed
  have hself : v.looseEq v = true :=
    (Value.looseEq_self_iff hkeyed).mpr fun hnan => hfinite hnan.hasNonFinite
  refine ⟨(halike.looseEq_right id v).symm.trans hself, hreordered, fun path op => ?_⟩
  refine (Check.make?_alike id halike path op).imp fun c d ⟨hpath, hfound⟩ => ⟨hfound, ?_⟩
  intro attributes
  rw [Check.verdict, Check.verdict, hpath]
  exact hfound _

/-- An object in an object, both out of order, and a float that is a whole number. -/
theorem json_keeps_what_is_checked_example :
    let v : Value := .object [("port", .float (.ofInt 22)),
      ("block", .object [("to", .null), ("from", .string "10.0.0.0/8")])]
    let w : Value := .object [("block", .object [("from", .string "10.0.0.0/8"), ("to", .null)]),
      ("port", .float (.ofInt 22))]
    v.KeyedOnce ∧ v.hasIndeterminate = false ∧ ¬v.HasNonFinite ∧ v.viaJson = w ∧ w.viaJson = w ∧
      v.looseEq w = true ∧ v.Reordered w ∧
      ∀ found, Check.verdictOn ⟨"ingress", .oneOf, some v, none⟩ found =
        Check.verdictOn ⟨"ingress", .oneOf, some w, none⟩ found := by
  intro v w
  have hkeyed : v.KeyedOnce := by simp [v, Value.KeyedOnce, Fields.KeyedOnce, Fields.keys]
  have hknown : v.hasIndeterminate = false := rfl
  have hw : v.viaJson = w := by
    simp only [v, w]
    rfl
  have hfinite : ¬v.HasNonFinite := by
    simp only [v]
    rintro (_ | _ | ⟨hmem, hnot⟩)
    rcases List.mem_pair.mp hmem with rfl | rfl
    · cases hnot with
      | float hnot => exact absurd hnot (by decide)
    · rcases hnot with _ | _ | ⟨hmem, hnot⟩
      rcases List.mem_pair.mp hmem with rfl | rfl <;> cases hnot
  obtain ⟨⟨-, -, hagain⟩, hsame⟩ := json_keeps_what_is_checked v
  obtain ⟨hequal, hreordered, hchecks⟩ := hsame hkeyed hknown hfinite
  rw [hw] at hagain hequal hreordered hchecks
  exact ⟨hkeyed, hknown, hfinite, hw, hagain, hequal, hreordered, (hchecks "ingress" .oneOf).1⟩

end InfraPolicy
