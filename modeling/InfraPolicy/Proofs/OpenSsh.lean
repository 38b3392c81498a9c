import InfraPolicy.Proofs.BlockAttributes
import InfraPolicy.Proofs.ChildOrder
import InfraPolicy.Proofs.Navigation
import InfraPolicy.Proofs.NumberOrder
import InfraPolicy.Rule.Builtin

/-!
# What the rule about open SSH means

The built-in rule looks at the value of `ingress` in five ways: as a single block, and at the first
four of several. Each way reads ports and addresses of one block only (`Builtin.opensSsh_pass_iff`),
and those for the other shape find nothing. So the rule is broken exactly if one block that it looks
at is open by itself (`Builtin.OpensSsh`), and this is about the values that the block has: a port
that is a number, and addresses among which nothing is open that could matter.
-/

namespace InfraPolicy

/-! ### Numbers and bounds -/

namespace Value

/-- A number, as rules understand it, that is less than an integer. -/
def IsBelow (bound : Int) : Value → Prop
  | .int n => n.toInt < bound
  | v => ∃ x, v.number? = some x ∧ x.less (.ofInt bound) = true

/-- A number, as rules understand it, that is greater than an integer. -/
def IsAbove (bound : Int) : Value → Prop
  | .int n => bound < n.toInt
  | v => ∃ x, v.number? = some x ∧ (Binary64.ofInt bound).less x = true

/-- What stands for a number is known. -/
theorem hasIndeterminate_of_number? {v : Value} {x : Binary64} (h : v.number? = some x) :
    v.hasIndeterminate = false := by
  cases v with
  | int n | float y | string s => rfl
  | _ => simp [number?] at h

theorem IsBelow.hasIndeterminate_eq {bound : Int} {v : Value} (h : v.IsBelow bound) :
    v.hasIndeterminate = false := by
  cases v with
  | int n => rfl
  | _ =>
    obtain ⟨x, hx, -⟩ := h
    exact hasIndeterminate_of_number? hx

theorem IsAbove.hasIndeterminate_eq {bound : Int} {v : Value} (h : v.IsAbove bound) :
    v.hasIndeterminate = false := by
  cases v with
  | int n => rfl
  | _ =>
    obtain ⟨x, hx, -⟩ := h
    exact hasIndeterminate_of_number? hx

theorem isIndeterminate_of_contains {v needle : Value} (h : v.contains needle = true) :
    v.isIndeterminate = false := by
  cases v with
  | unknown | computed => simp [contains] at h
  | _ => rfl

/-- A bound that is told apart from the integer below it is a bound on integers, too. -/
theorem lessThan_int_iff {bound : Int64} (v : Value)
    (h : (Binary64.ofInt (bound.toInt - 1)).less (.ofInt bound.toInt) = true) :
    v.lessThan (.int bound) = true ↔ v.IsBelow bound.toInt := by
  rw [lessThan_eq_true_iff]
  cases v with
  | int n => simpa [number?, IsBelow] using Binary64.less_ofInt_iff h
  | _ => simp [number?, IsBelow]

/-- A bound that is told apart from the integer above it is a bound on integers, too. -/
theorem greaterThan_int_iff {bound : Int64} (v : Value)
    (h : (Binary64.ofInt bound.toInt).less (.ofInt (bound.toInt + 1)) = true) :
    v.greaterThan (.int bound) = true ↔ v.IsAbove bound.toInt := by
  rw [greaterThan_eq, lessThan_eq_true_iff]
  cases v with
  | int n => simpa [number?, IsAbove] using Binary64.ofInt_less_iff h
  | _ => simp [number?, IsAbove]

end Value

/-! ### Certain passes -/

theorem Verdict.eq_pass_iff {v : Verdict} : v = .pass ↔ v.passed = true ∧ v.unknown = false := by
  obtain ⟨passed, unknown⟩ := v
  exact Verdict.mk.injEq .. ▸ Iff.rfl

namespace Condition

variable {attributes : Fields}

/-- All children certainly pass. -/
theorem verdict_all_eq_pass_iff {children : List Condition} :
    (Condition.all children).verdict attributes = .pass ↔
      ∀ c ∈ children, c.verdict attributes = .pass := by
  rw [verdict]
  induction children with
  | nil => exact ⟨fun _ => List.forall_mem_nil _, fun _ => rfl⟩
  | cons c rest ih =>
    rw [verdictAll, List.forall_mem_cons, ← ih]
    constructor
    · intro h
      split_ifs at h with hpassed
      · cases hopen : (c.verdict attributes).unknown with
        | false =>
          rw [hopen, Bool.or_self] at h
          exact ⟨Verdict.eq_pass_iff.mpr ⟨hpassed, hopen⟩, h⟩
        | true =>
          -- behind an undecided child only a failure is certain
          rw [hopen, Bool.or_true] at h
          have hfail := verdictAll_true_certain (Verdict.eq_pass_iff.mp h).2
          exact absurd (h.symm.trans hfail) (by decide)
      · exact absurd (Verdict.eq_pass_iff.mp h).1 hpassed
    · rintro ⟨hc, hrest⟩
      rw [hc]
      exact hrest

/-- One child certainly passes. -/
theorem verdict_any_eq_pass_iff {children : List Condition} :
    (Condition.any children).verdict attributes = .pass ↔
      ∃ c ∈ children, c.verdict attributes = .pass := by
  rw [verdict, verdictAny_eq, ← List.mem_map]
  split_ifs with hpass
  · exact ⟨fun _ => hpass, fun _ => rfl⟩
  · exact ⟨fun h => absurd (Verdict.eq_pass_iff.mp h).1 (by simp), fun h => absurd h hpass⟩

/-- A negation certainly fails where its child certainly passes. -/
theorem verdict_not_eq_fail_iff {child : Condition} :
    (Condition.not child).verdict attributes = .fail ↔ child.verdict attributes = .pass := by
  rw [verdict, Verdict.eq_pass_iff]
  simp [Verdict.fail]

end Condition

namespace Check

/-- A check that fails on what is absent certainly passes only on something that is found, known as
far as it matters, and as the check demands. -/
theorem verdictOn_eq_pass_iff {check : Check} (h : check.operator.holdsWhenAbsent = false)
    {a : Option Value} :
    check.verdictOn a = .pass ↔
      ∃ found, a = some found ∧ found.isIndeterminate = false ∧
        check.operator.hangsOnUnknown found = false ∧ check.holdsOn found = true := by
  cases a with
  | none => simp [verdictOn, h, Verdict.certain, Verdict.pass]
  | some found =>
    constructor
    · intro hpass
      obtain ⟨hknown, hhangs⟩ := of_verdictOn_certain (Verdict.eq_pass_iff.mp hpass).2
      rw [verdictOn_eq_certain hknown hhangs] at hpass
      exact ⟨found, rfl, hknown, hhangs, (Verdict.eq_pass_iff.mp hpass).1⟩
    · rintro ⟨_, heq, hknown, hhangs, hholds⟩
      obtain rfl := Option.some.inj heq
      rw [verdictOn_eq_certain hknown hhangs, hholds]
      rfl

variable {path : String} {a : Option Value}

/-- Where a check demands something that can only be had by values without a gap, it passes on these
with certainty. -/
theorem verdictOn_eq_pass_iff_of_determinate {check : Check}
    (h : check.operator.holdsWhenAbsent = false) {P : Value → Prop}
    (hholds : ∀ v, check.holdsOn v = true ↔ P v) (hP : ∀ v, P v → v.hasIndeterminate = false) :
    check.verdictOn a = .pass ↔ ∃ v, a = some v ∧ P v := by
  rw [verdictOn_eq_pass_iff h]
  refine exists_congr fun v => and_congr_right fun _ => ?_
  rw [hholds]
  refine ⟨fun hpass => hpass.2.2, fun hv => ?_⟩
  have hknown := hP v hv
  exact ⟨Value.isIndeterminate_of_determinate hknown, hangsOnUnknown_of_determinate hknown, hv⟩

theorem verdictOn_lessThan_iff {bound : Int64}
    (h : (Binary64.ofInt (bound.toInt - 1)).less (.ofInt bound.toInt) = true) :
    verdictOn ⟨path, .lessThan, some (.int bound), none⟩ a = .pass ↔
      ∃ v, a = some v ∧ v.IsBelow bound.toInt :=
  verdictOn_eq_pass_iff_of_determinate rfl (fun v => Value.lessThan_int_iff v h)
    fun _ => Value.IsBelow.hasIndeterminate_eq

theorem verdictOn_greaterThan_iff {bound : Int64}
    (h : (Binary64.ofInt bound.toInt).less (.ofInt (bound.toInt + 1)) = true) :
    verdictOn ⟨path, .greaterThan, some (.int bound), none⟩ a = .pass ↔
      ∃ v, a = some v ∧ v.IsAbove bound.toInt :=
  verdictOn_eq_pass_iff_of_determinate rfl (fun v => Value.greaterThan_int_iff v h)
    fun _ => Value.IsAbove.hasIndeterminate_eq

theorem verdictOn_contains_iff {expected : Value} :
    verdictOn ⟨path, .contains, some expected, none⟩ a = .pass ↔
      ∃ v, a = some v ∧ v.contains expected = true ∧
        (v.hasIndeterminate = false ∨ ∃ fields, v = .object fields) := by
  rw [verdictOn_eq_pass_iff rfl]
  refine exists_congr fun v => and_congr_right fun _ => ?_
  constructor
  · rintro ⟨-, hhangs, hcontains⟩
    refine ⟨hcontains, ?_⟩
    rcases hangsOnUnknown_eq_false hhangs with hknown | hop | ⟨-, hobject⟩
    · exact .inl hknown
    · exact absurd hop (by simp)
    · exact .inr hobject
  · rintro ⟨hcontains, hknown | ⟨fields, rfl⟩⟩
    · exact ⟨Value.isIndeterminate_of_determinate hknown, hangsOnUnknown_of_determinate hknown,
        hcontains⟩
    · exact ⟨rfl, rfl, hcontains⟩

end Check

/-! ### One block -/

/-- Something known is found one step inside a value exactly if the value is an object and has it in
a field. -/
theorem Path.exists_resolve?_key_iff {P : Value → Prop}
    (hP : ∀ v, P v → v.isIndeterminate = false) {a : Option Value} {name : String} :
    (∃ v, a.bind (resolve? [.key name]) = some v ∧ P v) ↔
      ∃ fields : Fields, a = some (.object fields) ∧ ∃ v, fields.get? name = some v ∧ P v := by
  constructor
  · rintro ⟨v, hv, hPv⟩
    obtain ⟨u, rfl, hfound⟩ := Option.bind_eq_some_iff.mp hv
    rcases resolve?_cons_cases hfound with ⟨hopen, rfl⟩ | ⟨_, fields, w, hname, rfl, hw, hwv⟩ |
      ⟨_, _, _, hindex, -⟩ | ⟨_, hwildcard, -⟩
    · exact absurd hopen (by simp [hP v hPv])
    · obtain rfl := Segment.key.inj hname
      obtain rfl := Option.some.inj hwv
      exact ⟨fields, rfl, w, hw, hPv⟩
    · exact absurd hindex (by simp)
    · exact absurd hwildcard (by simp)
  · rintro ⟨fields, rfl, v, hv, hPv⟩
    exact ⟨v, by rw [Option.bind_some, resolve?_singleton_key, hv], hPv⟩

namespace Builtin

/-- A block that lets everyone in on port 22, as far as is known from its own attributes. -/
structure OpensSsh (block : Fields) : Prop where
  from_port : ∃ v, block.get? "from_port" = some v ∧ v.IsBelow 23
  to_port : ∃ v, block.get? "to_port" = some v ∧ v.IsAbove 21
  /-- Of an object only the keys matter, and these are always known. -/
  cidr_blocks : ∃ v, block.get? "cidr_blocks" = some v ∧
    v.contains (.string "0.0.0.0/0") = true ∧
    (v.hasIndeterminate = false ∨ ∃ fields, v = .object fields)

/-- The texts by which the rule looks for blocks, with the steps from the value of `ingress`. -/
def ways : List (String × Path) :=
  [("ingress", []), ("ingress[0]", [.index 0]), ("ingress[1]", [.index 1]),
    ("ingress[2]", [.index 2]), ("ingress[3]", [.index 3])]

/-- The rule denies that an ingress block is open, in any of the ways to reach one. -/
theorem condition_openSsh :
    openSsh.condition = .not (.any (ways.map fun way => opensSsh way.1)) := rfl

theorem parse?_of_mem_ways : ∀ way ∈ ways,
    .wildcard ∉ way.2 ∧
    Path.parse? (way.1 ++ ".from_port") = some (.key "ingress" :: (way.2 ++ [.key "from_port"])) ∧
    Path.parse? (way.1 ++ ".to_port") = some (.key "ingress" :: (way.2 ++ [.key "to_port"])) ∧
    Path.parse? (way.1 ++ ".cidr_blocks") =
      some (.key "ingress" :: (way.2 ++ [.key "cidr_blocks"])) := by
  decide +kernel

section Way

variable {attributes : Fields}

/-- The steps lead from the value of `ingress` to an open block. -/
def LeadToOpen (attributes : Fields) (steps : Path) : Prop :=
  ∃ block, (attributes.get? "ingress").bind (Path.resolve? steps) = some (.object block) ∧
    OpensSsh block

theorem find?_of_parse? {text name : String} {steps : Path} (hplain : .wildcard ∉ steps)
    (h : Path.parse? text = some (.key "ingress" :: (steps ++ [.key name]))) :
    Path.find? attributes text =
      ((attributes.get? "ingress").bind (Path.resolve? steps)).bind
        (Path.resolve? [.key name]) := by
  rw [Path.find?, h, Option.bind_some, Path.lookup?]
  cases attributes.get? "ingress" with
  | none => rfl
  | some v => exact Path.resolve?_append hplain _ v

/-- **Each way reads one block**: all three checks pass with certainty exactly if the way leads to
a block that is open by itself. -/
theorem opensSsh_pass_iff {way : String × Path} (hway : way ∈ ways) :
    (opensSsh way.1).verdict attributes = .pass ↔ LeadToOpen attributes way.2 := by
  obtain ⟨hplain, hfrom, hto, hcidr⟩ := parse?_of_mem_ways way hway
  rw [opensSsh, Condition.verdict_all_eq_pass_iff]
  simp only [List.forall_mem_cons, checking, Condition.verdict, Check.verdict]
  rw [find?_of_parse? hplain hfrom, find?_of_parse? hplain hto, find?_of_parse? hplain hcidr,
    Check.verdictOn_lessThan_iff (by decide +kernel),
    Check.verdictOn_greaterThan_iff (by decide +kernel), Check.verdictOn_contains_iff]
  rw [Path.exists_resolve?_key_iff fun v h =>
      Value.isIndeterminate_of_determinate (Value.IsBelow.hasIndeterminate_eq h),
    Path.exists_resolve?_key_iff fun v h =>
      Value.isIndeterminate_of_determinate (Value.IsAbove.hasIndeterminate_eq h),
    Path.exists_resolve?_key_iff fun v h => Value.isIndeterminate_of_contains h.1]
  constructor
  · rintro ⟨⟨block, htarget, hfrom⟩, ⟨_, hto', hto⟩, ⟨_, hcidr', hcidr⟩, -⟩
    -- the three blocks are one
    obtain rfl := Value.object.inj (Option.some.inj (htarget.symm.trans hto'))
    obtain rfl := Value.object.inj (Option.some.inj (htarget.symm.trans hcidr'))
    exact ⟨block, htarget, hfrom, hto, hcidr⟩
  · rintro ⟨block, htarget, hfrom, hto, hcidr⟩
    exact ⟨⟨block, htarget, hfrom⟩, ⟨block, htarget, hto⟩, ⟨block, htarget, hcidr⟩,
      List.forall_mem_nil _⟩

end Way

/-! ### The rule -/

/-- The ways to reach a block: directly, or as one of the first four of a list. -/
theorem exists_way_iff {Q : Path → Prop} :
    (∃ way ∈ ways, Q way.2) ↔ Q [] ∨ ∃ i < 4, Q [.index i] := by
  have hsteps : ways.map Prod.snd = [] :: (List.range 4).map fun i => [.index i] := rfl
  have hways : (∃ way ∈ ways, Q way.2) ↔ ∃ steps ∈ ways.map Prod.snd, Q steps := by
    constructor
    · rintro ⟨way, hway, hQ⟩
      exact ⟨way.2, List.mem_map_of_mem hway, hQ⟩
    · rintro ⟨_, hmem, hQ⟩
      obtain ⟨way, hway, rfl⟩ := List.mem_map.mp hmem
      exact ⟨way, hway, hQ⟩
  rw [hways, hsteps]
  simp

/-- Without strictness the rule is reported for a security group exactly if one of its ways leads to
an open block. -/
theorem reports_openSsh_iff {r : Resource} (hkind : r.kind = "aws_security_group") :
    (∃ v, openSsh.violation? false r = some v) ↔
      LeadToOpen r.attributes [] ∨ ∃ i < 4, LeadToOpen r.attributes [.index i] := by
  have happlies : openSsh.appliesTo r = true := by
    rw [Rule.appliesTo, hkind]
    rfl
  have hfails : (∃ v, openSsh.violation? false r = some v) ↔
      openSsh.condition.verdict r.attributes = .fail := by
    simp only [Rule.violation?_lenient_eq_some, happlies, true_and, exists_and_left,
      exists_eq, and_true]
  rw [hfails, condition_openSsh, Condition.verdict_not_eq_fail_iff,
    Condition.verdict_any_eq_pass_iff, ← exists_way_iff]
  constructor
  · rintro ⟨_, hmem, hpass⟩
    obtain ⟨way, hway, rfl⟩ := List.mem_map.mp hmem
    exact ⟨way, hway, (opensSsh_pass_iff hway).mp hpass⟩
  · rintro ⟨way, hway, hopen⟩
    exact ⟨_, List.mem_map_of_mem hway, (opensSsh_pass_iff hway).mpr hopen⟩

/-- A single block. -/
theorem reports_openSsh_object_iff {r : Resource} (hkind : r.kind = "aws_security_group")
    {block : Fields} (hingress : r.attributes.get? "ingress" = some (.object block)) :
    (∃ v, openSsh.violation? false r = some v) ↔ OpensSsh block := by
  simp only [reports_openSsh_iff hkind, LeadToOpen, hingress]
  constructor
  · rintro (⟨_, hblock, hopens⟩ | ⟨i, -, _, hblock, -⟩)
    · obtain rfl := Value.object.inj (Option.some.inj hblock)
      exact hopens
    · cases hblock
  · exact fun hopens => .inl ⟨block, rfl, hopens⟩

/-- Several blocks. -/
theorem reports_openSsh_list_iff {r : Resource} (hkind : r.kind = "aws_security_group")
    {items : List Value} (hingress : r.attributes.get? "ingress" = some (.list items)) :
    (∃ v, openSsh.violation? false r = some v) ↔
      ∃ block, .object block ∈ items.take 4 ∧ OpensSsh block := by
  simp only [reports_openSsh_iff hkind, LeadToOpen, hingress]
  constructor
  · rintro (⟨_, hblock, -⟩ | ⟨i, hi, block, hblock, hopens⟩)
    · cases hblock
    · rw [Option.bind_some, Path.resolve?_singleton_index] at hblock
      refine ⟨block, List.mem_of_getElem? (i := i) ?_, hopens⟩
      rw [List.getElem?_take_of_lt hi, hblock]
  · rintro ⟨block, hmem, hopens⟩
    obtain ⟨i, hi⟩ := List.mem_iff_getElem?.mp hmem
    rw [List.getElem?_take] at hi
    split_ifs at hi with hlt
    refine .inr ⟨i, hlt, block, ?_, hopens⟩
    rw [Option.bind_some, Path.resolve?_singleton_index, hi]

open Hcl (Scope Item)

/-- The blocks of a body, if none of them is generated. -/
theorem reports_openSsh_body_iff {r : Resource} (hkind : r.kind = "aws_security_group")
    {scope : Scope} {body : List Item} (hbody : r.attributes = Hcl.attributes scope body)
    (hblocks : Item.nestedNamed "ingress" body ≠ []) (hfixed : "ingress" ∉ Item.announced body) :
    (∃ v, openSsh.violation? false r = some v) ↔
      ∃ b ∈ (Item.nestedNamed "ingress" body).take 4, OpensSsh (Hcl.attributes scope b.body) := by
  have hingress := Hcl.get?_attributes scope body "ingress"
  rw [← hbody, Item.meaning?, if_neg hfixed] at hingress
  cases hnamed : Item.nestedNamed "ingress" body with
  | nil => exact absurd hnamed hblocks
  | cons b rest =>
    rw [hnamed] at hingress
    cases rest with
    | nil =>
      rw [reports_openSsh_object_iff hkind hingress]
      simp
    | cons b' rest =>
      rw [reports_openSsh_list_iff hkind hingress, ← List.map_take]
      constructor
      · rintro ⟨block, hmem, hopens⟩
        obtain ⟨c, hc, heq⟩ := List.mem_map.mp hmem
        obtain rfl := Value.object.inj heq
        exact ⟨c, hc, hopens⟩
      · rintro ⟨c, hc, hopens⟩
        exact ⟨_, List.mem_map_of_mem hc, hopens⟩

end Builtin

open Hcl (Scope Item)

/-- **The rule about open SSH means what it says.** Without strictness it is reported for a security
group exactly if one block among those that it looks at, the single one or the first four of
several, is open by itself: its own ports cover 22 and its own addresses include everyone, all of
which is known. This holds for whatever stands under `ingress` as an object or a list, and so for
every body with `ingress` blocks none of which is generated. -/
theorem open_ssh_is_reported_for_an_open_block {rule : Rule} (hrule : rule ∈ Builtin.rules)
    (hid : rule.id = "SG_001") {r : Resource} (hkind : r.kind = "aws_security_group") :
    (∀ block, r.attributes.get? "ingress" = some (.object block) →
      ((∃ v, rule.violation? false r = some v) ↔ Builtin.OpensSsh block)) ∧
    (∀ items, r.attributes.get? "ingress" = some (.list items) →
      ((∃ v, rule.violation? false r = some v) ↔
        ∃ block, .object block ∈ items.take 4 ∧ Builtin.OpensSsh block)) ∧
    (∀ (scope : Scope) (body : List Item), r.attributes = Hcl.attributes scope body →
      Item.nestedNamed "ingress" body ≠ [] → "ingress" ∉ Item.announced body →
      ((∃ v, rule.violation? false r = some v) ↔
        ∃ b ∈ (Item.nestedNamed "ingress" body).take 4,
          Builtin.OpensSsh (Hcl.attributes scope b.body))) := by
  have hnodup : (Builtin.rules.map Rule.id).Nodup := by decide
  obtain rfl : rule = Builtin.openSsh :=
    List.inj_on_of_nodup_map hnodup hrule (by simp [Builtin.rules]) hid
  exact ⟨fun block => Builtin.reports_openSsh_object_iff hkind,
    fun items => Builtin.reports_openSsh_list_iff hkind,
    fun scope body => Builtin.reports_openSsh_body_iff hkind⟩

/-- Four blocks, the last of which is open. Among the first three, the ports of one and the
addresses of another would be open together, and one would be open if its addresses were known to
be. -/
theorem open_ssh_is_reported_for_an_open_block_example :
    let inner (first last : Int64) (cidr : Hcl.Expr) : List Item :=
      [.attr "from_port" (.int first), .attr "to_port" (.int last),
        .attr "cidr_blocks" (.list [cidr])]
    let ingress (body : List Item) : Item := .block "ingress" [] body
    let office : Hcl.Expr := .text "10.0.0.0/8"
    let everyone : Hcl.Expr := .text "0.0.0.0/0"
    let «variable» : Hcl.Expr := .traversal (.variable "var") [.attr "cidr"]
    let closed : List Item :=
      [ingress (inner 22 22 office), .attr "name" (.text "web"), ingress (inner 443 443 everyone),
        ingress (inner 22 22 «variable»)]
    let group (body : List Item) : Resource :=
      ⟨"aws_security_group", "web", Hcl.attributes {} body, default⟩
    (∃ v, Builtin.openSsh.violation? false (group (closed ++ [ingress (inner 0 65535 everyone)])) =
        some v) ∧
      ¬ ∃ v, Builtin.openSsh.violation? false (group closed) = some v := by
  intro inner ingress office everyone «variable» closed group
  have hrule : Builtin.openSsh ∈ Builtin.rules := by simp [Builtin.rules]
  have hreports (body : List Item) :=
    (open_ssh_is_reported_for_an_open_block hrule rfl (r := group body) rfl).2.2 {} body rfl
  constructor
  · have hblocks : Item.nestedNamed "ingress" (closed ++ [ingress (inner 0 65535 everyone)]) =
        [⟨"ingress", [], inner 22 22 office⟩, ⟨"ingress", [], inner 443 443 everyone⟩,
          ⟨"ingress", [], inner 22 22 «variable»⟩, ⟨"ingress", [], inner 0 65535 everyone⟩] := rfl
    have hopens : Builtin.OpensSsh (Hcl.attributes {} (inner 0 65535 everyone)) :=
      ⟨⟨.int 0, rfl, (by decide : Int64.toInt 0 < 23)⟩,
        ⟨.int 65535, rfl, (by decide : 21 < Int64.toInt 65535)⟩,
        ⟨.list [.string "0.0.0.0/0"], rfl, rfl, .inl rfl⟩⟩
    refine (hreports _ (by simp [hblocks]) (by decide +kernel)).mpr
      ⟨⟨"ingress", [], inner 0 65535 everyone⟩, ?_, hopens⟩
    rw [hblocks]
    exact List.getLast_mem (List.cons_ne_nil _ _)
  · have hblocks : Item.nestedNamed "ingress" closed =
        [⟨"ingress", [], inner 22 22 office⟩, ⟨"ingress", [], inner 443 443 everyone⟩,
          ⟨"ingress", [], inner 22 22 «variable»⟩] := rfl
    rw [hreports closed (by simp [hblocks]) (by decide +kernel), hblocks]
    rintro ⟨b, hb, ⟨first, hfirst, hbelow⟩, -, ⟨cidr, hcidr, hcontains, hknown⟩⟩
    simp only [List.take, List.mem_cons, List.not_mem_nil, or_false] at hb
    rcases hb with rfl | rfl | rfl
    · obtain rfl : .list [.string "10.0.0.0/8"] = cidr := Option.some.inj hcidr
      exact absurd hcontains (by decide)
    · obtain rfl : .int 443 = first := Option.some.inj hfirst
      exact absurd hbelow (by decide : ¬ Int64.toInt 443 < 23)
    · obtain rfl : .list [.unknown] = cidr := Option.some.inj hcidr
      rcases hknown with hknown | ⟨fields, hfields⟩
      · exact absurd hknown (by decide)
      · cases hfields

end InfraPolicy
