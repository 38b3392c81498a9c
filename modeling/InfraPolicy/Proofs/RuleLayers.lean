import InfraPolicy.Project.Checker
import InfraPolicy.Proofs.Grouping
import InfraPolicy.Proofs.Outcomes

/-!
# Layers of rules

Rules come in layers, and a rule takes the place of the one with the same identifier in the layers
before. What comes out of this is told here without the merging: the place of a rule is decided by
the **first** layer that has its identifier (`Rule.ids_merge`), and all the rest of it by the
**last** (`Rule.mem_merge`).

A layer never repeats an identifier, since definitions that do are refused
(`RuleDef.nodup_ids_of_compileAll`), and this is what makes merging associative: a layer that
repeated one would bring back the earlier of its two rules when it is merged with a later layer
first.
-/

namespace InfraPolicy

namespace Rule

/-- The identifiers of rules, in order. -/
def ids (rules : List Rule) : List String :=
  rules.map Rule.id

@[simp] theorem ids_nil : ids [] = [] := rfl

@[simp] theorem ids_cons (rule : Rule) (rest : List Rule) :
    ids (rule :: rest) = rule.id :: ids rest := rfl

theorem id_mem_ids {rule : Rule} {rules : List Rule} (h : rule ∈ rules) : rule.id ∈ ids rules :=
  List.mem_map_of_mem h

/-! ### One rule -/

variable {rule other : Rule} {rules base overlay : List Rule}

/-- A rule adds its identifier at the end, unless it is there. -/
theorem ids_put (rule : Rule) (rules : List Rule) :
    ids (put rule rules) = if rule.id ∈ ids rules then ids rules else ids rules ++ [rule.id] := by
  induction rules with
  | nil => rfl
  | cons r rest ih =>
    rw [put]
    by_cases hr : r.id = rule.id
    · rw [if_pos hr, ids_cons, ids_cons, if_pos (by rw [hr]; exact List.mem_cons_self), hr]
    · rw [if_neg hr, ids_cons, ids_cons, ih]
      by_cases hrest : rule.id ∈ ids rest
      · rw [if_pos hrest, if_pos (List.mem_cons_of_mem _ hrest)]
      · have hnew : rule.id ∉ r.id :: ids rest := by
          rw [List.mem_cons, not_or]
          exact ⟨Ne.symm hr, hrest⟩
        rw [if_neg hrest, if_neg hnew, List.cons_append]

/-- Putting a rule in its place keeps identifiers distinct. -/
theorem nodup_ids_put (rule : Rule) (h : (ids rules).Nodup) : (ids (put rule rules)).Nodup := by
  rw [ids_put]
  split_ifs with hmem
  · exact h
  · rw [← List.concat_eq_append]
    exact List.Nodup.concat hmem h

/-- A rule that is put among others is there, and of the others those with another identifier
are. -/
theorem mem_put (h : (ids rules).Nodup) :
    other ∈ put rule rules ↔ other = rule ∨ (other ∈ rules ∧ other.id ≠ rule.id) := by
  induction rules with
  | nil => simp [put]
  | cons r rest ih =>
    rw [ids_cons, List.nodup_cons] at h
    rw [put]
    by_cases hr : r.id = rule.id
    · -- the rest has no second rule with this identifier
      have hrest : ∀ q ∈ rest, q.id ≠ rule.id := fun q hq heq => h.1 (by
        rw [hr, ← heq]
        exact id_mem_ids hq)
      rw [if_pos hr, List.mem_cons, List.mem_cons]
      constructor
      · rintro (rfl | hmem)
        · exact .inl rfl
        · exact .inr ⟨.inr hmem, hrest other hmem⟩
      · rintro (rfl | ⟨rfl | hmem, hne⟩)
        · exact .inl rfl
        · exact absurd hr hne
        · exact .inr hmem
    · rw [if_neg hr, List.mem_cons, List.mem_cons, ih h.2]
      constructor
      · rintro (rfl | rfl | ⟨hmem, hne⟩)
        · exact .inr ⟨.inl rfl, hr⟩
        · exact .inl rfl
        · exact .inr ⟨.inr hmem, hne⟩
      · rintro (rfl | ⟨rfl | hmem, hne⟩)
        · exact .inr (.inl rfl)
        · exact .inl rfl
        · exact .inr (.inr ⟨hmem, hne⟩)

/-- Of two rules with one identifier the later one counts. -/
theorem put_put_of_id_eq (h : other.id = rule.id) (rules : List Rule) :
    put rule (put other rules) = put rule rules := by
  induction rules with
  | nil => simp [put, h]
  | cons r rest ih =>
    by_cases hr : r.id = rule.id
    · simp [put, h, hr]
    · have hother : r.id ≠ other.id := by rwa [h]
      simp only [put, if_neg hr, if_neg hother, ih]

/-- Rules with different identifiers can be put in either order, if the place of one of them is
known already. -/
theorem put_comm (hne : rule.id ≠ other.id) (hmem : rule.id ∈ ids rules) :
    put rule (put other rules) = put other (put rule rules) := by
  induction rules with
  | nil => simp at hmem
  | cons r rest ih =>
    by_cases hr : r.id = rule.id
    · have hother : r.id ≠ other.id := by rwa [hr]
      simp only [put, if_pos hr, if_neg hother, if_neg hne]
    · have hrest : rule.id ∈ ids rest := List.mem_of_ne_of_mem (Ne.symm hr) hmem
      by_cases hother : r.id = other.id
      · simp only [put, if_pos hother, if_neg (Ne.symm hne), if_neg hr]
      · simp only [put, if_neg hother, if_neg hr, ih hrest]

/-! ### One layer over another -/

@[simp] theorem merge_nil (base : List Rule) : merge base [] = base := rfl

theorem merge_cons (base : List Rule) (rule : Rule) (rest : List Rule) :
    merge base (rule :: rest) = merge (put rule base) rest := rfl

theorem nodup_ids_merge (h : (ids base).Nodup) (overlay : List Rule) :
    (ids (merge base overlay)).Nodup := by
  induction overlay generalizing base with
  | nil => exact h
  | cons rule rest ih => exact ih (nodup_ids_put rule h)

/-- **The first occurrence decides the place**: if the identifiers so far are those that were seen
in order of first occurrence, then they are so after another layer. -/
theorem ids_merge {seen : List String} (h : ids base = seen.eraseDups) (overlay : List Rule) :
    ids (merge base overlay) = (seen ++ ids overlay).eraseDups :=
  keys_foldl (fun rules rule => ids_put rule rules) h overlay

/-- **The last occurrence decides the content**: a layer keeps its rules, and of those below it the
ones that it does not redefine stay as they are. -/
theorem mem_merge (hbase : (ids base).Nodup) (hoverlay : (ids overlay).Nodup) :
    rule ∈ merge base overlay ↔ rule ∈ overlay ∨ (rule ∈ base ∧ rule.id ∉ ids overlay) := by
  induction overlay generalizing base with
  | nil => simp
  | cons r rest ih =>
    rw [ids_cons, List.nodup_cons] at hoverlay
    rw [merge_cons, ih (nodup_ids_put r hbase) hoverlay.2, mem_put hbase, ids_cons]
    simp only [List.mem_cons, not_or]
    constructor
    · rintro (hrest | ⟨rfl | ⟨hmem, hne⟩, hnot⟩)
      · exact .inl (.inr hrest)
      · exact .inl (.inl rfl)
      · exact .inr ⟨hmem, hne, hnot⟩
    · rintro ((rfl | hrest) | ⟨hmem, hne, hnot⟩)
      · exact .inr ⟨.inl rfl, hoverlay.1⟩
      · exact .inl hrest
      · exact .inr ⟨.inr ⟨hmem, hne⟩, hnot⟩

/-- A rule whose place is known and which no later rule redefines can be put before them. -/
theorem merge_put (hmem : rule.id ∈ ids base) (hnot : rule.id ∉ ids overlay) :
    merge (put rule base) overlay = put rule (merge base overlay) := by
  induction overlay generalizing base with
  | nil => rfl
  | cons r rest ih =>
    rw [ids_cons, List.mem_cons, not_or] at hnot
    have hput : rule.id ∈ ids (put r base) := by
      rw [ids_put]
      split_ifs
      · exact hmem
      · exact List.mem_append_left _ hmem
    rw [merge_cons, merge_cons, ← put_comm hnot.1 hmem, ih hput hnot.2]

/-- To redefine a rule in a layer and then merge the layer is to merge it and then redefine the
rule. -/
theorem merge_put_right (hoverlay : (ids overlay).Nodup) (rule : Rule) (base : List Rule) :
    merge base (put rule overlay) = put rule (merge base overlay) := by
  induction overlay generalizing base with
  | nil => rfl
  | cons r rest ih =>
    rw [ids_cons, List.nodup_cons] at hoverlay
    rw [put, merge_cons]
    by_cases hr : r.id = rule.id
    · have hmem : rule.id ∈ ids (put r base) := by
        rw [ids_put, ← hr]
        split_ifs with hbase
        · exact hbase
        · exact List.mem_append_right _ List.mem_cons_self
      rw [if_pos hr, merge_cons, ← merge_put hmem (by rw [← hr]; exact hoverlay.1),
        put_put_of_id_eq hr]
    · rw [if_neg hr, merge_cons, ih hoverlay.2]

/-- **Merging is associative**, if the layer in the middle repeats no identifier. -/
theorem merge_assoc {b : List Rule} (hb : (ids b).Nodup) (a c : List Rule) :
    merge (merge a b) c = merge a (merge b c) := by
  induction c generalizing b with
  | nil => rfl
  | cons rule rest ih =>
    rw [merge_cons, merge_cons, ← ih (nodup_ids_put rule hb), merge_put_right hb]

/-! ### All layers -/

theorem nodup_ids_foldl_merge (layers : List (List Rule)) :
    (ids (layers.foldl merge [])).Nodup := by
  induction layers using List.reverseRecOn with
  | nil => exact List.nodup_nil
  | append_singleton layers layer ih =>
    rw [List.foldl_append]
    exact nodup_ids_merge ih layer

/-- The identifiers of all layers, each where it first occurs. -/
theorem ids_foldl_merge (layers : List (List Rule)) :
    ids (layers.foldl merge []) = (layers.flatMap ids).eraseDups := by
  induction layers using List.reverseRecOn with
  | nil => rfl
  | append_singleton layers layer ih =>
    rw [List.foldl_append, List.flatMap_append, List.flatMap_singleton]
    exact ids_merge ih layer

/-- A rule of the outcome is a rule of some layer after which no layer redefines it. -/
theorem mem_foldl_merge {layers : List (List Rule)} (h : ∀ layer ∈ layers, (ids layer).Nodup) :
    rule ∈ layers.foldl merge [] ↔
      ∃ before layer after, layers = before ++ layer :: after ∧ rule ∈ layer ∧
        ∀ later ∈ after, rule.id ∉ ids later := by
  induction layers using List.reverseRecOn with
  | nil => simp
  | append_singleton layers last ih =>
    have hlast : (ids last).Nodup := h last (List.mem_append_right _ List.mem_cons_self)
    have hlayers : ∀ layer ∈ layers, (ids layer).Nodup :=
      fun layer hlayer => h layer (List.mem_append_left _ hlayer)
    rw [List.foldl_append, List.foldl_cons, List.foldl_nil,
      mem_merge (nodup_ids_foldl_merge layers) hlast, ih hlayers]
    constructor
    · rintro (hmem | ⟨⟨before, layer, after, rfl, hmem, hafter⟩, hnot⟩)
      · exact ⟨layers, last, [], rfl, hmem, by simp⟩
      · refine ⟨before, layer, after ++ [last], by simp, hmem, fun later hlater => ?_⟩
        rcases List.mem_append.mp hlater with hlater | hlater
        · exact hafter later hlater
        · rw [List.mem_singleton.mp hlater]
          exact hnot
    · rintro ⟨before, layer, after, heq, hmem, hafter⟩
      -- the layer is the last one, or the last one comes after it
      rcases List.eq_nil_or_concat after with rfl | ⟨after, later, rfl⟩
      · obtain ⟨-, hlayer⟩ := List.append_inj' heq rfl
        left
        rwa [List.singleton_inj.mp hlayer]
      · rw [List.concat_eq_append, ← List.cons_append, ← List.append_assoc] at heq
        obtain ⟨rfl, hlater⟩ := List.append_inj' heq rfl
        rw [List.singleton_inj.mp hlater]
        refine .inr ⟨⟨before, layer, after, rfl, hmem, fun l hl => hafter l ?_⟩, hafter later ?_⟩
        · simp [hl]
        · simp

end Rule

/-! ### Layers repeat no identifier -/

/-- The rules of a batch have distinct identifiers, none of which is taken before. -/
theorem RuleDef.nodup_ids_of_compileFrom {index : Nat} {seen : List String} {defs : List RuleDef}
    {rules : List Rule} (h : compileFrom index seen defs = .ok rules) :
    (Rule.ids rules).Nodup ∧ ∀ id ∈ Rule.ids rules, id ∉ seen := by
  induction defs generalizing index seen rules with
  | nil =>
    obtain rfl := Except.ok.inj h
    simp
  | cons d rest ih =>
    rw [compileFrom] at h
    cases hd : d.compile index with
    | error e => rw [hd] at h; cases h
    | ok rule =>
      rw [hd] at h
      dsimp only at h
      split_ifs at h with hseen
      cases hrest : compileFrom (index + 1) (rule.id :: seen) rest with
      | error e => rw [hrest] at h; cases h
      | ok rules =>
        rw [hrest] at h
        obtain rfl := Except.ok.inj h
        obtain ⟨hnodup, hnot⟩ := ih hrest
        refine ⟨?_, ?_⟩
        · rw [Rule.ids_cons, List.nodup_cons]
          exact ⟨fun hmem => hnot _ hmem List.mem_cons_self, hnodup⟩
        · rw [Rule.ids_cons, List.forall_mem_cons]
          refine ⟨by simpa using hseen, fun id hid hmem => ?_⟩
          exact hnot id hid (List.mem_cons_of_mem _ hmem)

/-- Definitions that repeat an identifier are refused. -/
theorem RuleDef.nodup_ids_of_compileAll {defs : List RuleDef} {rules : List Rule}
    (h : compileAll defs = .ok rules) : (Rule.ids rules).Nodup :=
  (nodup_ids_of_compileFrom h).1

theorem RuleSetDef.nodup_ids_of_compile {d : RuleSetDef} {set : RuleSet}
    (h : d.compile = .ok set) : (Rule.ids set.rules).Nodup := by
  cases hrules : RuleDef.compileAll d.rules with
  | error e =>
    simp only [compile, hrules] at h
    split at h
    · cases h
    · split at h <;> cases h
  | ok rules =>
    have hset : set.rules = rules := by
      simp only [compile, hrules] at h
      split at h
      · rw [← Except.ok.inj h]
      · split at h
        · rw [← Except.ok.inj h]
        · cases h
    rw [hset]
    exact RuleDef.nodup_ids_of_compileAll hrules

theorem RuleSetDef.nodup_ids_of_load {source : String} {d : RuleSetDef} {set : RuleSet}
    (h : d.load source = .ok set) : (Rule.ids set.rules).Nodup := by
  rw [load] at h
  split at h
  · next compiled hcompiled =>
    obtain rfl := Except.ok.inj h
    exact nodup_ids_of_compile hcompiled
  · cases h
  · cases h

namespace RuleFile

theorem nodup_ids_of_loadYaml {source content : String} {set : RuleSet}
    (h : loadYaml source content = .ok set) : (Rule.ids set.rules).Nodup := by
  rw [loadYaml] at h
  split_ifs at h
  · rw [← Except.ok.inj h]
    exact List.nodup_nil
  · split at h
    · exact RuleSetDef.nodup_ids_of_load h
    · cases h

theorem nodup_ids_of_loadHcl {source content : String} {set : RuleSet}
    (h : loadHcl source content = .ok set) : (Rule.ids set.rules).Nodup := by
  rw [loadHcl] at h
  split at h
  · cases h
  · next body _ =>
    cases hdefs : definitionsOf source {} body with
    | error e => rw [hdefs] at h; cases h
    | ok d =>
      rw [hdefs] at h
      exact RuleSetDef.nodup_ids_of_load h

/-- A rule file repeats no identifier, whatever its format. -/
theorem nodup_ids_of_load {read : FileReader} {path : String} {set : RuleSet}
    (h : load read path = .ok set) : (Rule.ids set.rules).Nodup := by
  rw [load] at h
  split at h
  · cases htext : read.text path with
    | error e => rw [htext] at h; cases h
    | ok content => rw [htext] at h; exact nodup_ids_of_loadYaml h
  · cases htext : read.text path with
    | error e => rw [htext] at h; cases h
    | ok content => rw [htext] at h; exact nodup_ids_of_loadHcl h
  · cases h

theorem nodup_ids_of_forall₂ {read : FileReader} {paths : List String} {sets : List RuleSet}
    (h : List.Forall₂ (fun path set => load read path = .ok set) paths sets) :
    ∀ set ∈ sets, (Rule.ids set.rules).Nodup := by
  induction h with
  | nil => simp
  | cons hload _ ih => exact List.forall_mem_cons.mpr ⟨nodup_ids_of_load hload, ih⟩

end RuleFile

/-! ### The rules of a checker -/

namespace CheckerOptions

variable {o : CheckerOptions} {read : FileReader}

theorem nodup_ids_builtinLayer (o : CheckerOptions) : (Rule.ids o.builtinLayer).Nodup := by
  rw [builtinLayer]
  split_ifs
  · exact List.nodup_nil
  · decide +kernel

/-- The layers of options are the built-in rules, the configuration and the rule files. -/
theorem layers_eq_ok_iff {layers : List (List Rule)} :
    o.layers read = .ok layers ↔
      ∃ config sets, RuleDef.compileAll o.configRules = .ok config ∧
        List.Forall₂ (fun path set => RuleFile.load read path = .ok set) o.ruleFiles sets ∧
        layers = o.builtinLayer :: config :: sets.map RuleSet.rules := by
  rw [CheckerOptions.layers, configLayer]
  cases hconfig : RuleDef.compileAll o.configRules with
  | error e =>
    constructor
    · intro h
      cases h
    · rintro ⟨config, sets, h, -⟩
      cases h
  | ok config =>
    simp only [← mapM_eq_ok_iff]
    cases hfiles : o.ruleFiles.mapM (RuleFile.load read) with
    | error e =>
      constructor
      · intro h
        cases h
      · rintro ⟨_, sets, -, h, -⟩
        cases h
    | ok sets =>
      constructor
      · intro h
        exact ⟨config, sets, rfl, rfl, (Except.ok.inj h).symm⟩
      · rintro ⟨_, _, hconfig', hsets, rfl⟩
        rw [← Except.ok.inj hconfig', ← Except.ok.inj hsets]
        rfl

/-- No layer of options repeats an identifier. -/
theorem nodup_ids_of_mem_layers {layers : List (List Rule)} (h : o.layers read = .ok layers) :
    ∀ layer ∈ layers, (Rule.ids layer).Nodup := by
  obtain ⟨config, sets, hconfig, hsets, rfl⟩ := layers_eq_ok_iff.mp h
  have hfiles := RuleFile.nodup_ids_of_forall₂ hsets
  rw [List.forall_mem_cons, List.forall_mem_cons, List.forall_mem_map]
  exact ⟨o.nodup_ids_builtinLayer, RuleDef.nodup_ids_of_compileAll hconfig, hfiles⟩

/-- There are no layers exactly if the configuration or one of the rule files cannot be read. -/
theorem exists_layers_eq_error_iff :
    (∃ e, o.layers read = .error e) ↔
      (∃ e, RuleDef.compileAll o.configRules = .error e) ∨
        ∃ path ∈ o.ruleFiles, ∃ e, RuleFile.load read path = .error e := by
  rw [CheckerOptions.layers, configLayer]
  cases hconfig : RuleDef.compileAll o.configRules with
  | error e => exact ⟨fun _ => .inl ⟨e, rfl⟩, fun _ => ⟨.rule e, rfl⟩⟩
  | ok config =>
    cases hfiles : o.ruleFiles.mapM (RuleFile.load read) with
    | error e =>
      obtain ⟨before, path, after, hsplit, -, hpath⟩ := mapM_eq_error_iff.mp hfiles
      refine ⟨fun _ => .inr ⟨path, ?_, e, hpath⟩, fun _ => ⟨e, rfl⟩⟩
      rw [hsplit]
      exact List.mem_append_right _ List.mem_cons_self
    | ok sets =>
      have hok := exists_mapM_eq_ok_iff.mp ⟨sets, hfiles⟩
      constructor
      · rintro ⟨e, h⟩
        cases h
      · rintro (⟨e, h⟩ | ⟨path, hmem, e, hpath⟩)
        · cases h
        · obtain ⟨set, hset⟩ := hok path hmem
          rw [hpath] at hset
          cases hset

end CheckerOptions

namespace Checker

variable {o : CheckerOptions} {read : FileReader}

/-- A checker is made from the merged layers. -/
theorem ofOptions_eq_ok_iff {checker : Checker} :
    ofOptions read o = .ok checker ↔
      ∃ layers, o.layers read = .ok layers ∧
        checker = ⟨layers.foldl Rule.merge [], o.policy, o.valuesFile⟩ := by
  rw [ofOptions]
  cases o.layers read with
  | error e =>
    constructor
    · intro h
      cases h
    · rintro ⟨layers, h, -⟩
      cases h
  | ok layers =>
    constructor
    · intro h
      exact ⟨layers, rfl, (Except.ok.inj h).symm⟩
    · rintro ⟨_, h, rfl⟩
      rw [← Except.ok.inj h]
      rfl

/-- If a layer fails to load there is no checker. -/
theorem ofOptions_eq_error_iff {e : Error} :
    ofOptions read o = .error e ↔ o.layers read = .error e := by
  rw [ofOptions]
  cases o.layers read with
  | error e' =>
    constructor <;>
    · intro h
      cases h
      rfl
  | ok layers => exact ⟨nofun, nofun⟩

end Checker

/-- **Layers override by identifier.** Layers of which none repeats an identifier, merged one after
another, give rules with distinct identifiers: those of all layers in the order in which they first
occur, each with the rule of the last layer that has it. Merging is associative. The rules of a
checker are such a merge, of the built-in rules unless they are left out, the rules of the
configuration, a rule file and further rule files, and none of these layers repeats an identifier;
if one of them cannot be read, there is no checker. -/
theorem layers_override_by_id :
    (∀ layers : List (List Rule), (∀ layer ∈ layers, (Rule.ids layer).Nodup) →
      (Rule.ids (layers.foldl Rule.merge [])).Nodup ∧
      Rule.ids (layers.foldl Rule.merge []) = (layers.flatMap Rule.ids).eraseDups ∧
      ∀ rule, rule ∈ layers.foldl Rule.merge [] ↔
        ∃ before layer after, layers = before ++ layer :: after ∧ rule ∈ layer ∧
          ∀ later ∈ after, rule.id ∉ Rule.ids later) ∧
    (∀ a b c : List Rule, (Rule.ids b).Nodup →
      Rule.merge (Rule.merge a b) c = Rule.merge a (Rule.merge b c)) ∧
    ∀ (read : FileReader) (policy : Policy) (configRules : List RuleDef) (custom : Option String)
        (extra : List String) (valuesFile : Option String),
      let files := custom.toList ++ extra
      let made := Checker.ofOptions read ⟨policy, configRules, files, valuesFile⟩
      (∀ checker, made = .ok checker ↔
        ∃ config sets layers, RuleDef.compileAll configRules = .ok config ∧
          List.Forall₂ (fun path set => RuleFile.load read path = .ok set) files sets ∧
          layers = (if policy.disableBuiltin then [] else Builtin.rules) ::
            config :: sets.map RuleSet.rules ∧
          (∀ layer ∈ layers, (Rule.ids layer).Nodup) ∧
          checker = ⟨layers.foldl Rule.merge [], policy, valuesFile⟩) ∧
      ((∃ e, made = .error e) ↔
        (∃ e, RuleDef.compileAll configRules = .error e) ∨
          ∃ path ∈ files, ∃ e, RuleFile.load read path = .error e) := by
  refine ⟨fun layers h => ?_, fun a b c hb => Rule.merge_assoc hb a c, ?_⟩
  · exact ⟨Rule.nodup_ids_foldl_merge layers, Rule.ids_foldl_merge layers,
      fun rule => Rule.mem_foldl_merge h⟩
  · intro read policy configRules custom extra valuesFile files made
    refine ⟨fun checker => Checker.ofOptions_eq_ok_iff.trans ⟨?_, ?_⟩, ?_⟩
    · rintro ⟨layers, hlayers, rfl⟩
      have hnodup := CheckerOptions.nodup_ids_of_mem_layers hlayers
      obtain ⟨config, sets, hconfig, hsets, rfl⟩ := CheckerOptions.layers_eq_ok_iff.mp hlayers
      exact ⟨config, sets, _, hconfig, hsets, rfl, hnodup, rfl⟩
    · rintro ⟨config, sets, layers, hconfig, hsets, rfl, -, rfl⟩
      exact ⟨_, CheckerOptions.layers_eq_ok_iff.mpr ⟨config, sets, hconfig, hsets, rfl⟩, rfl⟩
    · simp only [made, Checker.ofOptions_eq_error_iff]
      exact CheckerOptions.exists_layers_eq_error_iff

/-- Three layers, of which the last one redefines a rule of the first, and a configuration that is
refused since its only rule has no identifier. -/
theorem layers_override_by_id_example :
    let rule (id name : String) : Rule :=
      ⟨id, name, "", .error, "aws_s3_bucket", .all [], "", "", []⟩
    let first := [rule "A" "first a", rule "B" "first b"]
    let second := [rule "C" "second c"]
    let third := [rule "A" "third a", rule "D" "third d"]
    let merged := [first, second, third].foldl Rule.merge []
    (∀ layer ∈ [first, second, third], (Rule.ids layer).Nodup) ∧
      Rule.ids merged = ["A", "B", "C", "D"] ∧ rule "A" "third a" ∈ merged ∧
      Rule.merge (Rule.merge first second) third = Rule.merge first (Rule.merge second third) ∧
      ∃ e, Checker.ofOptions (fun _ => .error .notFound) ⟨{}, [{}], [], none⟩ = .error e := by
  intro rule first second third merged
  have hlayers : ∀ layer ∈ [first, second, third], (Rule.ids layer).Nodup := by decide
  obtain ⟨hmerge, hassoc, hchecker⟩ := layers_override_by_id
  obtain ⟨-, hids, hmem⟩ := hmerge [first, second, third] hlayers
  refine ⟨hlayers, ?_, ?_, hassoc first second third (by decide), ?_⟩
  · rw [hids]
    decide
  · exact (hmem _).mpr ⟨[first, second], third, [], rfl, List.mem_cons_self, by simp⟩
  · exact (hchecker _ {} [{}] none [] none).2.mpr (.inl ⟨⟨"#0", .missing .id⟩, by rfl⟩)

end InfraPolicy
