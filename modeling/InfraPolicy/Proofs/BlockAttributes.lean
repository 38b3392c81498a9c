import InfraPolicy.Module.Attributes
import InfraPolicy.Proofs.FieldLookup
import InfraPolicy.Proofs.Grouping

/-!
# The attributes of a body, name by name

The items of a body are collected in three passes: attributes that are written, blocks by name, and
what generators announce. Here the outcome is told without the passes. A name stands for something
computed if a generator announces it, else for the blocks of this name, else for the attribute that
is written last under it (`Hcl.Item.meaning?`). The names stand in the order attributes, blocks,
generators, each where it first occurs.

For inserted pairs in general, the last pair with a key wins (`Fields.get?_insertAll_eq`).
-/

namespace InfraPolicy

/-! ### Pairs inserted one after another -/

namespace Fields

/-- Pairs in which a key determines the value. -/
theorem last?_map (f : String → Value) (names : List String) (key : String) :
    last? (names.map fun name => (name, f name)) key =
      if key ∈ names then some (f key) else none := by
  induction names with
  | nil => rfl
  | cons name rest ih =>
    rw [List.map_cons, last?_cons, ih]
    by_cases hname : name = key
    · subst hname
      by_cases hrest : name ∈ rest <;> simp [hrest]
    · simp [hname, Ne.symm hname]

theorem map_fst_map (f : String → Value) (names : List String) :
    (names.map fun name => (name, f name)).map Prod.fst = names := by
  rw [List.map_map]
  exact List.map_id names

/-- Keys that are inserted come after those that are there, each where it first occurs. -/
theorem keys_insertAll {fields : Fields} {seen : List String} (h : fields.keys = seen.eraseDups)
    (pairs : List (String × Value)) :
    (fields.insertAll pairs).keys = (seen ++ pairs.map Prod.fst).eraseDups :=
  keys_foldl (fun fields p => keys_insert fields p.1 p.2) h pairs

end Fields

namespace Hcl

/-! ### Items of a body -/

namespace Item

/-- The blocks inside a body that stand for themselves. -/
def nested (body : List Item) : List Block :=
  (blocks body).filter fun b => b.name ≠ "dynamic"

/-- The blocks with a name, in order. -/
def nestedNamed (name : String) (body : List Item) : List Block :=
  (nested body).filter fun b => b.name = name

/-- The names that generators announce by their first labels, in order. -/
def announced (body : List Item) : List String :=
  ((blocks body).filter fun b => b.name = "dynamic").filterMap fun b => b.labels.head?

/-- What a name stands for in a body. -/
def meaning? (scope : Scope) (body : List Item) (name : String) : Option Value :=
  if name ∈ announced body then some .computed
  else
    match nestedNamed name body with
    | [] => ((attrs body).filter fun p => p.1 = name).getLast?.map fun p => scope.eval p.2
    | [b] => some (.object (attributes scope b.body))
    | several => some (.list (several.map fun b => .object (attributes scope b.body)))

end Item

theorem generated_eq (body : List Item) : generated body = Item.announced body := by
  induction body with
  | nil => rfl
  | cons item rest ih =>
    cases item with
    | attr name e => exact ih
    | block name labels body =>
      rw [generated, ih, Item.announced, Item.announced, Item.blocks, List.filter_cons]
      by_cases hname : name = "dynamic"
      · cases labels <;> simp [hname, generatorName, List.filterMap_cons]
      · simp [hname, generatorName]

/-- The objects of a body are those of its nested blocks, with the attributes that these have in
turn. -/
theorem blockValues_eq (scope : Scope) (body : List Item) :
    blockValues scope body =
      (Item.nested body).map fun b => (b.name, .object (attributes scope b.body)) := by
  induction body with
  | nil => rfl
  | cons item rest ih =>
    rw [blockValues, ih]
    cases item with
    | attr name e => rfl
    | block name labels body =>
      rw [blockValue?, Item.nested, Item.nested, Item.blocks, List.filter_cons]
      by_cases hname : name = "dynamic"
      · simp [hname, generatorName]
      · simp [hname, generatorName, attributes]

/-! ### Groups of blocks -/

theorem addToGroup_eq (name : String) (v : Value) (groups : List (String × List Value)) :
    addToGroup name v groups = addUnder name v groups := by
  induction groups with
  | nil => rfl
  | cons g rest ih => rw [addToGroup, addUnder, ih]

theorem groupByName_eq (pairs : List (String × Value)) :
    groupByName pairs = (pairs.map Prod.fst).eraseDups.map fun name =>
      (name, (pairs.filter fun p => p.1 = name).map Prod.snd) := by
  rw [groupByName, ← foldl_addUnder]
  simp only [addToGroup_eq]

/-- The groups of the blocks of a body: one for each name, in order of first occurrence. -/
theorem groups_eq (scope : Scope) (body : List Item) :
    ((groupByName (blockValues scope body)).map fun g => (g.1, groupValue g.2)) =
      ((Item.nested body).map Block.name).eraseDups.map fun name =>
        (name, groupValue ((Item.nestedNamed name body).map fun b =>
          .object (attributes scope b.body))) := by
  rw [groupByName_eq, blockValues_eq, List.map_map, List.map_map]
  refine List.map_congr_left fun name _ => ?_
  rw [Function.comp_apply, List.filter_map, List.map_map]
  rfl

theorem Item.nestedNamed_eq_nil_iff {name : String} {body : List Item} :
    Item.nestedNamed name body = [] ↔ name ∉ (Item.nested body).map Block.name := by
  simp [Item.nestedNamed]

/-! ### The whole body -/

/-- **Look-up in the attributes of a body** finds what the name stands for there. -/
theorem get?_attributes (scope : Scope) (body : List Item) (name : String) :
    (attributes scope body).get? name = Item.meaning? scope body name := by
  have hattrs : Fields.last? (attrValues scope body) name =
      ((Item.attrs body).filter fun p => p.1 = name).getLast?.map fun p => scope.eval p.2 := by
    rw [Fields.last?, attrValues, List.filter_map, List.getLast?_map, Option.map_map]
    rfl
  rw [attributes, assemble, Fields.ofList, Fields.get?_insertAll_eq, Fields.get?_insertAll_eq,
    Fields.get?_insertAll_eq, hattrs, groups_eq, Fields.last?_map, Fields.last?_map, generated_eq,
    Fields.get?_nil, Option.or_none, Item.meaning?]
  by_cases hannounced : name ∈ Item.announced body
  · rw [if_pos hannounced, if_pos hannounced, Option.some_or]
  · rw [if_neg hannounced, if_neg hannounced, Option.none_or]
    cases hblocks : Item.nestedNamed name body with
    | nil =>
      have hnone := Item.nestedNamed_eq_nil_iff.mp hblocks
      rw [if_neg (mt List.mem_eraseDups.mp hnone), Option.none_or]
    | cons b rest =>
      have hmem : name ∈ ((Item.nested body).map Block.name).eraseDups := by
        by_contra hmem
        simp [Item.nestedNamed_eq_nil_iff.mpr (mt List.mem_eraseDups.mpr hmem)] at hblocks
      rw [if_pos hmem, Option.some_or]
      cases rest <;> rfl

/-- The names of attributes, of blocks and of what is announced, in this order. -/
theorem keys_attributes (scope : Scope) (body : List Item) :
    (attributes scope body).keys =
      ((Item.attrs body).map Prod.fst ++ (Item.nested body).map Block.name ++
        Item.announced body).eraseDups := by
  have hnone : Fields.keys [] = ([] : List String).eraseDups := rfl
  have hattrs : (Fields.ofList (attrValues scope body)).keys =
      ((Item.attrs body).map Prod.fst).eraseDups := by
    rw [Fields.ofList, Fields.keys_insertAll hnone, attrValues, List.map_map]
    rfl
  have hgroups := Fields.keys_insertAll hattrs
    ((groupByName (blockValues scope body)).map fun g => (g.1, groupValue g.2))
  rw [groups_eq, Fields.map_fst_map, eraseDups_append_eraseDups] at hgroups
  rw [attributes, assemble, groups_eq, Fields.keys_insertAll hgroups, Fields.map_fst_map,
    generated_eq]

/-- **The attributes of a body account for its items**, for each of them once and in order. The
names are those of attributes in the order of the text, then those of nested blocks by first
occurrence, then those that generators announce, and a name that comes again keeps its first place.
Under each name stands what it means in the body, where the objects of nested blocks hold the
attributes of their own bodies. -/
theorem attributes_account_for_items (scope : Scope) (body : List Item) :
    (attributes scope body).keys =
      ((Item.attrs body).map Prod.fst ++ (Item.nested body).map Block.name ++
        Item.announced body).eraseDups ∧
    (attributes scope body).keys.Nodup ∧
    ∀ name, (attributes scope body).get? name = Item.meaning? scope body name := by
  refine ⟨keys_attributes scope body, ?_, get?_attributes scope body⟩
  rw [keys_attributes]
  exact nodup_eraseDups _

/-- A name that is written twice, two blocks of one name of which the second holds a generator, and
two more generators, one of them without a label. -/
theorem attributes_account_for_items_example :
    let body : List Item :=
      [.attr "name" (.text "a"), .block "dynamic" ["ingress"] [.attr "port" (.int 22)],
        .block "egress" [] [.attr "port" (.int 80)], .attr "name" (.text "b"),
        .block "egress" [] [.block "dynamic" ["rule"] [], .attr "port" (.int 443)],
        .block "dynamic" [] []]
    (attributes {} body).keys = ["name", "egress", "ingress"] ∧
      (attributes {} body).get? "name" = some (.string "b") ∧
      (attributes {} body).get? "egress" =
        some (.list [.object [("port", .int 80)],
          .object [("port", .int 443), ("rule", .computed)]]) ∧
      (attributes {} body).get? "ingress" = some .computed ∧
      (attributes {} body).get? "dynamic" = none := by
  intro body
  obtain ⟨hkeys, -, hget⟩ := attributes_account_for_items {} body
  exact ⟨hkeys.trans (by decide +kernel), (hget "name").trans rfl, (hget "egress").trans rfl,
    (hget "ingress").trans rfl, (hget "dynamic").trans rfl⟩

end Hcl

end InfraPolicy
