import InfraPolicy.Proofs.ConditionNodes
import InfraPolicy.Proofs.RuleLayers
import InfraPolicy.Proofs.SortedKeys
import Mathlib.Data.List.DropRight
import Mathlib.Data.List.Forall2
import Mathlib.Order.Bounds.Defs

/-!
# Batches of definitions

What a single definition of a rule needs is said part by part (`RuleDef.Meets`), and the parts are
looked at in a fixed order: a definition that is refused is refused for the first part that is not
as it should be, and otherwise the rule says what its definition says (`RuleDef.outcome_check`).

A batch of definitions becomes rules as a whole or not at all. If it is refused, it splits into
definitions that make a batch of their own, the one that is to blame, and others that nobody has
looked at (`RuleDef.compileFrom_cases`). So the one to blame has the least position that
is bad, by a part that is missing or by an identifier that is taken.
-/

namespace InfraPolicy

/-! ### Trimmed texts -/

namespace Text

variable {s : String}

/-- Nothing is left of a text exactly if it is blank. -/
theorem trim_eq_empty_iff : trim s = "" ↔ isBlankText s = true := by
  have hempty : trim s = "" ↔ ∀ c ∈ s.toList.dropWhile isBlank, isBlank c = true := by
    rw [trim, String.ofList_eq_empty_iff]
    exact List.rdropWhile_eq_nil_iff
  rw [hempty, isBlankText, List.all_eq_true]
  constructor
  · -- a character is among the blanks at the front, or among those that the end is trimmed of
    intro h c hc
    rw [← List.takeWhile_append_dropWhile (p := isBlank) (l := s.toList)] at hc
    rcases List.mem_append.mp hc with hc | hc
    · exact List.mem_takeWhile_imp hc
    · exact h c hc
  · exact fun h c hc => h c ((List.dropWhile_suffix isBlank).subset hc)

end Text

/-- A blank text names no severity. -/
theorem Severity.ofName?_of_isBlankText {text : String} (h : Text.isBlankText text = true) :
    ofName? text = none := by
  rw [ofName?, Text.trim_eq_empty_iff.mpr h]
  rfl

/-! ### The parts of a definition -/

/-- The parts that every rule must have, in the order in which they are looked at. -/
def RulePart.inOrder : List RulePart :=
  [.id, .name, .severity, .resourceType, .condition, .message]

/-- What is said of a part that is missing, under the name that rule files have for it. -/
def RulePart.missingText : RulePart → String
  | .id => "missing `id`"
  | .name => "missing `name`"
  | .severity => "missing `severity`"
  | .resourceType => "missing `resource_type`"
  | .condition => "missing `condition`"
  | .message => "missing `message`"

/-- A missing part is named as rule files name it. -/
theorem RuleFault.message_missing (part : RulePart) :
    (RuleFault.missing part).message = part.missingText := by
  cases part <;> decide

namespace RuleDef

variable {d : RuleDef} {part : RulePart} {fault : RuleFault} {rule : Rule}

/-- The text that a definition gives for a part; the condition is no text. -/
def text? (d : RuleDef) : RulePart → Option String
  | .id => some d.id
  | .name => some d.name
  | .severity => some d.severity
  | .resourceType => some d.resourceType
  | .condition => none
  | .message => some d.message

/-- A definition has what a rule needs of a part: a severity that is known, a condition that is
well formed, and otherwise a text that is not blank. -/
def Meets (d : RuleDef) : RulePart → Prop
  | .id => Text.isBlankText d.id = false
  | .name => Text.isBlankText d.name = false
  | .severity => ∃ severity, Severity.ofName? d.severity = some severity
  | .resourceType => Text.isBlankText d.resourceType = false
  | .condition => ∃ c condition, d.condition = some c ∧ c.compile = .ok condition
  | .message => Text.isBlankText d.message = false

/-- A definition has all parts that a rule needs. -/
def Valid (d : RuleDef) : Prop :=
  ∀ part, d.Meets part

/-- What is wrong with a part of a definition. -/
inductive Violates (d : RuleDef) : RulePart → RuleFault → Prop
  | blank (part : RulePart) (text : String) (htext : d.text? part = some text)
      (hblank : Text.isBlankText text = true) : Violates d part (.missing part)
  | unknownSeverity (hgiven : Text.isBlankText d.severity = false)
      (hunknown : Severity.ofName? d.severity = none) :
      Violates d .severity (.invalidSeverity d.severity)
  | noCondition (hnone : d.condition = none) : Violates d .condition (.missing .condition)
  | badCondition (c : ConditionDef) (e : ConditionError) (hc : d.condition = some c)
      (he : c.compile = .error e) : Violates d .condition (.condition e)

/-- A part with a fault is not as it should be. -/
theorem Violates.not_meets (h : d.Violates part fault) : ¬d.Meets part := by
  intro hmeets
  cases h with
  | blank part text htext hblank =>
    cases part with
    | severity =>
      obtain ⟨severity, hseverity⟩ := hmeets
      obtain rfl := Option.some.inj htext
      rw [Severity.ofName?_of_isBlankText hblank] at hseverity
      cases hseverity
    | condition => cases htext
    | _ =>
      obtain rfl := Option.some.inj htext
      exact Bool.false_ne_true (hmeets.symm.trans hblank)
  | unknownSeverity _ hunknown =>
    obtain ⟨severity, hseverity⟩ := hmeets
    rw [hunknown] at hseverity
    cases hseverity
  | noCondition hnone =>
    obtain ⟨c, _, hc, _⟩ := hmeets
    rw [hnone] at hc
    cases hc
  | badCondition c e hc he =>
    obtain ⟨c', condition, hc', hok⟩ := hmeets
    obtain rfl := Option.some.inj (hc.symm.trans hc')
    rw [he] at hok
    cases hok

/-- What is said of a part that is not as it should be. A condition is blamed by the address of the
node that is at fault. -/
inductive Complaint (d : RuleDef) : RulePart → String → Prop
  | blank (part : RulePart) (text : String) (htext : d.text? part = some text)
      (hblank : Text.isBlankText text = true) : Complaint d part part.missingText
  | unknownSeverity (hgiven : Text.isBlankText d.severity = false)
      (hunknown : Severity.ofName? d.severity = none) :
      Complaint d .severity
        ("invalid severity `" ++ d.severity ++ "` (expected error, warning or info)")
  | noCondition (hnone : d.condition = none) : Complaint d .condition "missing `condition`"
  | badCondition (c : ConditionDef) (e : ConditionError) (hc : d.condition = some c)
      (he : c.compile = .error e) :
      Complaint d .condition
        ("condition" ++ String.join (e.address.map fun i => ".conditions[" ++ toString i ++ "]") ++
          ": " ++ e.fault.message)

/-- The message of a fault is the complaint about its part. -/
theorem Violates.complaint (h : d.Violates part fault) : d.Complaint part fault.message := by
  cases h with
  | blank part text htext hblank =>
    rw [RuleFault.message_missing]
    exact .blank part text htext hblank
  | unknownSeverity hgiven hunknown => exact .unknownSeverity hgiven hunknown
  | noCondition hnone =>
    rw [RuleFault.message_missing]
    exact .noCondition hnone
  | badCondition c e hc he =>
    have hmessage : (RuleFault.condition e).message =
        ConditionError.addressText "condition" e.address ++ ": " ++ e.fault.message := rfl
    rw [hmessage, ConditionError.addressText_eq]
    exact .badCondition c e hc he

/-- The first part that is not as it should be, and what is wrong with it. -/
structure FirstViolated (d : RuleDef) (part : RulePart) (fault : RuleFault) : Prop where
  violates : d.Violates part fault
  earlier : ∃ before after, RulePart.inOrder = before ++ part :: after ∧
    ∀ other ∈ before, d.Meets other

/-- A rule says what its definition says. -/
structure Describes (d : RuleDef) (rule : Rule) : Prop where
  id : rule.id = Text.trim d.id
  name : rule.name = Text.trim d.name
  description : rule.description = Text.trim d.description
  severity : Severity.ofName? d.severity = some rule.severity
  resourceKind : rule.resourceKind = Text.trim d.resourceType
  condition : ∃ c, d.condition = some c ∧ c.compile = .ok rule.condition
  message : rule.message = d.message
  remediation : rule.remediation = Text.trim d.remediation
  tags_increasing : rule.tags.Pairwise (· < ·)
  mem_tags : ∀ t, t ∈ rule.tags ↔ t ≠ "" ∧ ∃ tag ∈ d.tags, Text.trim tag = t

/-- The tags of a rule are the trimmed ones that are not empty. -/
theorem mem_normalTags {tags : List String} {t : String} :
    t ∈ normalTags tags ↔ t ≠ "" ∧ ∃ tag ∈ tags, Text.trim tag = t := by
  rw [normalTags, Text.mem_sortedSet, List.mem_filter, List.mem_map, and_comm]
  simp

/-- What becomes of a definition: a rule that says the same, or the first fault in it. -/
inductive Outcome (d : RuleDef) : Except RuleFault Rule → Prop
  | made {rule : Rule} (hvalid : d.Valid) (hdescribes : d.Describes rule) : Outcome d (.ok rule)
  | refused {part : RulePart} {fault : RuleFault} (hfirst : d.FirstViolated part fault) :
      Outcome d (.error fault)

/-- **A definition becomes a rule that says the same, or is refused for its first fault.** -/
theorem outcome_check (d : RuleDef) : d.Outcome d.check := by
  unfold check
  -- what has been looked at before is kept as a fact about its part
  split
  · next hblank => exact .refused ⟨.blank .id _ rfl hblank, [], _, rfl, List.forall_mem_nil _⟩
  next hgiven =>
  have hid : d.Meets .id := Bool.eq_false_iff.mpr hgiven
  split
  · next hblank => exact .refused ⟨.blank .name _ rfl hblank, [.id], _, rfl, by simp [hid]⟩
  next hgiven =>
  have hname : d.Meets .name := Bool.eq_false_iff.mpr hgiven
  have hbefore : ∀ part ∈ [RulePart.id, .name], d.Meets part := by simp [hid, hname]
  split
  · next hblank => exact .refused ⟨.blank .severity _ rfl hblank, _, _, rfl, hbefore⟩
  next hgiven =>
  cases hofName : Severity.ofName? d.severity with
  | none =>
    have hviolates := Violates.unknownSeverity (Bool.eq_false_iff.mpr hgiven) hofName
    exact .refused ⟨hviolates, _, _, rfl, hbefore⟩
  | some severity =>
    have hseverity : d.Meets .severity := ⟨severity, hofName⟩
    dsimp only
    split
    · next hblank =>
      exact .refused ⟨.blank .resourceType _ rfl hblank, [.id, .name, .severity], _, rfl,
        by simp [hid, hname, hseverity]⟩
    next hgiven =>
    have hkind : d.Meets .resourceType := Bool.eq_false_iff.mpr hgiven
    have hbefore : ∀ part ∈ [RulePart.id, .name, .severity, .resourceType], d.Meets part := by
      simp [hid, hname, hseverity, hkind]
    cases hc : d.condition with
    | none => exact .refused ⟨.noCondition hc, _, _, rfl, hbefore⟩
    | some c =>
      dsimp only
      cases hcompile : c.compile with
      | error e => exact .refused ⟨.badCondition c e hc hcompile, _, _, rfl, hbefore⟩
      | ok condition =>
        have hcondition : d.Meets .condition := ⟨c, condition, hc, hcompile⟩
        dsimp only
        split
        · next hblank =>
          exact .refused ⟨.blank .message _ rfl hblank,
            [.id, .name, .severity, .resourceType, .condition], _, rfl,
            by simp [hid, hname, hseverity, hkind, hcondition]⟩
        next hgiven =>
        have hmessage : d.Meets .message := Bool.eq_false_iff.mpr hgiven
        refine .made (fun part => ?_) ⟨rfl, rfl, rfl, hofName, rfl, ⟨c, hc, hcompile⟩, rfl, rfl,
          Text.pairwise_sortedSet _, fun t => mem_normalTags⟩
        cases part with
        | id => exact hid
        | name => exact hname
        | severity => exact hseverity
        | resourceType => exact hkind
        | condition => exact hcondition
        | message => exact hmessage

theorem outcome_of_eq {result : Except RuleFault Rule} (h : d.check = result) : d.Outcome result :=
  h ▸ outcome_check d

theorem describes_of_check (h : d.check = .ok rule) : d.Describes rule := by
  cases outcome_of_eq h with
  | made _ hdescribes => exact hdescribes

/-- A definition becomes a rule exactly if it has all parts. -/
theorem exists_check_iff : (∃ rule, d.check = .ok rule) ↔ d.Valid := by
  constructor
  · rintro ⟨rule, h⟩
    cases outcome_of_eq h with
    | made hvalid => exact hvalid
  · intro hvalid
    cases h : d.check with
    | ok rule => exact ⟨rule, rfl⟩
    | error fault =>
      cases outcome_of_eq h with
      | refused hfirst => exact absurd (hvalid _) hfirst.violates.not_meets

/-- The blame goes by the identifier, or by the position where there is none. -/
theorem label_eq (index : Nat) (d : RuleDef) :
    d.label index =
      if Text.isBlankText d.id = true then "#" ++ toString index else Text.trim d.id := by
  have hempty : (Text.trim d.id).isEmpty = true ↔ Text.isBlankText d.id = true := by
    rw [String.isEmpty_iff, Text.trim_eq_empty_iff]
  simp only [label, hempty]
  rfl

/-! ### Definitions in a row -/

variable {defs : List RuleDef} {rules : List Rule} {index : Nat} {seen : List String}

/-- The identifiers of definitions, as their rules have them. -/
def ids (defs : List RuleDef) : List String :=
  defs.map fun d => Text.trim d.id

/-- What is wrong with a definition where the identifiers `taken` belong to others. -/
inductive Refused (taken : List String) (d : RuleDef) : RuleFault → Prop
  | invalid {part : RulePart} {fault : RuleFault} (hfirst : d.FirstViolated part fault) :
      Refused taken d fault
  | duplicate (hvalid : d.Valid) (htaken : Text.trim d.id ∈ taken) : Refused taken d .duplicate

theorem Refused.mono {taken taken' : List String} (h : d.Refused taken fault)
    (hsubset : taken ⊆ taken') : d.Refused taken' fault := by
  cases h with
  | invalid hfirst => exact .invalid hfirst
  | duplicate hvalid htaken => exact .duplicate hvalid (hsubset htaken)

/-- Whether the definition lacks a part decides what it is refused for. -/
theorem Refused.cases_valid {taken : List String} (h : d.Refused taken fault) :
    (¬d.Valid ∧ ∃ part, d.FirstViolated part fault) ∨
      (d.Valid ∧ Text.trim d.id ∈ taken ∧ fault = .duplicate) := by
  cases h with
  | @invalid part _ hfirst =>
    exact .inl ⟨fun hvalid => hfirst.violates.not_meets (hvalid part), part, hfirst⟩
  | duplicate hvalid htaken => exact .inr ⟨hvalid, htaken, rfl⟩

/-- **One definition of a batch**: it is refused, whatever comes after it, or it becomes a rule and
its identifier is taken for those after it. -/
theorem compileFrom_step (index : Nat) (seen : List String) (d : RuleDef) :
    (∃ fault, d.Refused seen fault ∧
      ∀ rest, compileFrom index seen (d :: rest) = .error ⟨d.label index, fault⟩) ∨
    ∃ rule, d.check = .ok rule ∧ ∀ rest, compileFrom index seen (d :: rest) =
      (compileFrom (index + 1) (Text.trim d.id :: seen) rest).map (rule :: ·) := by
  cases hd : d.check with
  | error fault =>
    cases outcome_of_eq hd with
    | refused hfirst =>
      refine .inl ⟨fault, .invalid hfirst, fun rest => ?_⟩
      rw [compileFrom, compile, hd]
      rfl
  | ok rule =>
    have hid := (describes_of_check hd).id
    have hvalid : d.Valid := exists_check_iff.mp ⟨rule, hd⟩
    have hcons : ∀ rest, compileFrom index seen (d :: rest) =
        if seen.contains (Text.trim d.id) then .error ⟨Text.trim d.id, .duplicate⟩
        else (compileFrom (index + 1) (Text.trim d.id :: seen) rest).map (rule :: ·) := by
      intro rest
      rw [← hid, compileFrom, compile, hd]
      rfl
    by_cases hseen : seen.contains (Text.trim d.id) = true
    · refine .inl ⟨.duplicate, .duplicate hvalid (List.contains_iff_mem.mp hseen), fun rest => ?_⟩
      rw [hcons, if_pos hseen, label_eq, if_neg (Bool.eq_false_iff.mp (hvalid .id))]
    · refine .inr ⟨rule, rfl, fun rest => ?_⟩
      rw [hcons, if_neg hseen]

/-- **A whole batch**: it becomes rules one by one, or some definitions at its front are a batch
that is compiled and the next one is to blame. -/
theorem compileFrom_cases (index : Nat) (seen : List String) (defs : List RuleDef) :
    (∃ rules, compileFrom index seen defs = .ok rules ∧
      List.Forall₂ (fun d rule => d.check = .ok rule) defs rules) ∨
    ∃ front d back rules fault, defs = front ++ d :: back ∧
      compileFrom index seen front = .ok rules ∧ d.Refused (ids front ++ seen) fault ∧
      compileFrom index seen defs = .error ⟨d.label (index + front.length), fault⟩ := by
  induction defs generalizing index seen with
  | nil => exact .inl ⟨[], rfl, .nil⟩
  | cons d rest ih =>
    obtain ⟨fault, hrefused, herror⟩ | ⟨rule, hd, hcons⟩ := compileFrom_step index seen d
    · exact .inr ⟨[], d, rest, [], fault, rfl, rfl, hrefused, herror rest⟩
    · -- the rest is compiled from the next index, where the identifier of `d` is taken as well
      obtain ⟨rules, hrules, hrel⟩ |
          ⟨front, d', back, rules, fault, rfl, hfront, hrefused, herror⟩ :=
        ih (index + 1) (Text.trim d.id :: seen)
      · refine .inl ⟨rule :: rules, ?_, .cons hd hrel⟩
        rw [hcons, hrules]
        rfl
      · refine .inr ⟨d :: front, d', back, rule :: rules, fault, rfl, ?_, ?_, ?_⟩
        · rw [hcons, hfront]
          rfl
        · refine hrefused.mono fun id hmem => ?_
          simpa [ids, or_left_comm] using hmem
        · rw [hcons, herror, List.length_cons, Nat.add_right_comm, Nat.add_assoc]
          rfl

theorem forall₂_of_compileFrom (h : compileFrom index seen defs = .ok rules) :
    List.Forall₂ (fun d rule => d.check = .ok rule) defs rules := by
  obtain ⟨rules', hrules, hrel⟩ | ⟨_, _, _, _, _, _, _, _, herror⟩ :=
    compileFrom_cases index seen defs
  · obtain rfl := Except.ok.inj (hrules.symm.trans h)
    exact hrel
  · rw [herror] at h
    cases h

/-! ### Batches -/

/-- A position of a batch is bad if its definition lacks a part, or if an earlier one has its
identifier. -/
def IsBad (defs : List RuleDef) (i : Nat) : Prop :=
  ∃ d, defs[i]? = some d ∧
    (¬d.Valid ∨ ∃ earlier ∈ defs.take i, Text.trim earlier.id = Text.trim d.id)

/-- Definitions that have all parts and distinct identifiers are nowhere bad. -/
theorem not_isBad (hvalid : ∀ d ∈ defs, d.Valid) (hnodup : (ids defs).Nodup) (i : Nat) :
    ¬IsBad defs i := by
  rintro ⟨d, hd, hinvalid | ⟨earlier, hearlier, hid⟩⟩
  · exact hinvalid (hvalid d (List.mem_of_getElem? hd))
  · have hmem : d ∈ defs.drop i := by
      refine List.mem_of_getElem? (i := 0) ?_
      rw [List.getElem?_drop, Nat.add_zero, hd]
    rw [ids, ← List.take_append_drop i defs, List.map_append, List.nodup_append] at hnodup
    exact hnodup.2.2 _ (List.mem_map_of_mem hearlier) _ (List.mem_map_of_mem hmem) hid

/-- Whether a position is bad is decided by what comes before it. -/
theorem isBad_append_left {front back : List RuleDef} {i : Nat} (hi : i < front.length) :
    IsBad (front ++ back) i ↔ IsBad front i := by
  rw [IsBad, IsBad, List.getElem?_append_left hi, List.take_append_of_le_length hi.le]

/-- A batch that is compiled is as it should be. -/
theorem valid_and_nodup_of_compileAll (h : compileAll defs = .ok rules) :
    (∀ d ∈ defs, d.Valid) ∧ (ids defs).Nodup := by
  have hrel := forall₂_of_compileFrom h
  have hids : ids defs = Rule.ids rules :=
    map_eq_map_of_forall₂ hrel fun d rule hd => (describes_of_check hd).id.symm
  constructor
  · intro d hd
    obtain ⟨i, hi⟩ := List.mem_iff_getElem?.mp hd
    have hrule := option_rel_getElem? hrel i
    rw [hi] at hrule
    generalize rules[i]? = found at hrule
    cases hrule with
    | some hcheck => exact exists_check_iff.mp ⟨_, hcheck⟩
  · rw [hids]
    exact nodup_ids_of_compileAll h

/-- **The first bad position** is to blame if a batch is refused. -/
theorem isLeast_of_compileAll_error {e : RuleError} (h : compileAll defs = .error e) :
    ∃ i d, defs[i]? = some d ∧ IsLeast {i | IsBad defs i} i ∧
      d.Refused (ids (defs.take i)) e.fault ∧ e.label = d.label i := by
  obtain ⟨rules, hrules, -⟩ | ⟨front, d, back, rules, fault, rfl, hfront, hrefused, herror⟩ :=
    compileFrom_cases 0 [] defs
  · rw [compileAll, hrules] at h
    cases h
  rw [List.append_nil] at hrefused
  obtain rfl := Except.error.inj (herror.symm.trans h)
  have hd : (front ++ d :: back)[front.length]? = some d := by simp
  have htake : (front ++ d :: back).take front.length = front := by simp
  refine ⟨front.length, d, hd, ⟨⟨d, hd, ?_⟩, fun k hk => ?_⟩, htake.symm ▸ hrefused, ?_⟩
  · rw [htake]
    exact hrefused.cases_valid.imp And.left fun h => List.mem_map.mp h.2.1
  · -- the definitions before it are a batch of their own
    by_contra hlt
    obtain ⟨hvalid, hnodup⟩ := valid_and_nodup_of_compileAll hfront
    exact not_isBad hvalid hnodup k ((isBad_append_left (Nat.lt_of_not_le hlt)).mp hk)
  · rw [Nat.zero_add]

/-- **A batch is compiled as a whole, or its first bad definition is to blame.** Definitions become
rules, one for one, exactly if each has all parts and no identifier repeats. Otherwise the error is
that of the least bad position: it is named by the identifier, or by the position where there is
none, and its message is the complaint about the first part that the definition lacks, or else that
the identifier is taken. -/
theorem batch_compiles_or_blames_first_bad (defs : List RuleDef) :
    ((∃ rules, compileAll defs = .ok rules) ↔ (∀ d ∈ defs, d.Valid) ∧ (ids defs).Nodup) ∧
    (∀ rules, compileAll defs = .ok rules → List.Forall₂ Describes defs rules) ∧
    ∀ e, compileAll defs = .error e →
      ∃ i d, defs[i]? = some d ∧ IsLeast {i | IsBad defs i} i ∧
        e.label = (if Text.isBlankText d.id = true then "#" ++ toString i else Text.trim d.id) ∧
        e.message = "Rule error (" ++ e.label ++ "): " ++ e.fault.message ∧
        (¬d.Valid → ∃ part, d.FirstViolated part e.fault ∧ d.Complaint part e.fault.message) ∧
        (d.Valid → e.fault = .duplicate ∧ e.fault.message = "duplicate rule id") := by
  refine ⟨⟨fun ⟨rules, h⟩ => valid_and_nodup_of_compileAll h, fun ⟨hvalid, hnodup⟩ => ?_⟩, ?_, ?_⟩
  · cases h : compileAll defs with
    | ok rules => exact ⟨rules, rfl⟩
    | error e =>
      obtain ⟨i, _, _, hleast, _⟩ := isLeast_of_compileAll_error h
      exact absurd hleast.1 (not_isBad hvalid hnodup i)
  · intro rules h
    exact (forall₂_of_compileFrom h).imp fun d rule hd => describes_of_check hd
  · intro e h
    obtain ⟨i, d, hd, hleast, hrefused, hlabel⟩ := isLeast_of_compileAll_error h
    refine ⟨i, d, hd, hleast, hlabel.trans (label_eq i d), rfl, ?_⟩
    obtain ⟨hinvalid, part, hfirst⟩ | ⟨hvalid, -, hfault⟩ := hrefused.cases_valid
    · exact ⟨fun _ => ⟨part, hfirst, hfirst.violates.complaint⟩, fun h => absurd h hinvalid⟩
    · refine ⟨absurd hvalid, fun _ => ⟨hfault, ?_⟩⟩
      rw [hfault]
      rfl

/-- Three definitions of which the first one alone would do. The second one has a severity that is
not known; that its message is empty and its identifier is taken comes later, and nobody looks at
the third one. -/
theorem batch_compiles_or_blames_first_bad_example :
    let d : RuleDef :=
      { id := " R1 ", name := "ACL", severity := " Warn ", resourceType := "bucket"
        condition := some { path := some "acl", operator := "exists" }
        message := " no ACL ", tags := ["s3 ", "", "acl", " s3"] }
    let defs := [d, { d with id := "R1", severity := "high", message := "" }, { d with id := " " }]
    let e : RuleError := ⟨"R1", .invalidSeverity "high"⟩
    (d.Valid ∧ ∃ rule, compileAll [d] = .ok [rule] ∧ d.Describes rule ∧ rule.tags = ["acl", "s3"]) ∧
      compileAll defs = .error e ∧
      e.message = "Rule error (R1): invalid severity `high` (expected error, warning or info)" ∧
      ∃ i d', defs[i]? = some d' ∧ IsLeast {i | IsBad defs i} i ∧
        d'.FirstViolated .severity (.invalidSeverity "high") ∧
        d'.Complaint .severity "invalid severity `high` (expected error, warning or info)" := by
  intro d defs e
  have hone : compileAll [d] = .ok [⟨"R1", "ACL", "", .warning, "bucket",
      .check ⟨"acl", .exists, none, none⟩, " no ACL ", "", ["acl", "s3"]⟩] := by
    simp only [d]
    rfl
  have hfail : compileAll defs = .error e := by
    simp only [defs, d, e]
    rfl
  obtain ⟨haccepts, hdescribes, -⟩ := batch_compiles_or_blames_first_bad [d]
  obtain ⟨-, -, hblames⟩ := batch_compiles_or_blames_first_bad defs
  obtain ⟨i, d', hd', hleast, -, hmessage, hinvalid, hduplicate⟩ := hblames e hfail
  have hfault : e.fault.message = "invalid severity `high` (expected error, warning or info)" := by
    decide
  refine ⟨⟨(haccepts.mp ⟨_, hone⟩).1 d List.mem_cons_self, _, hone, ?_, rfl⟩, hfail, ?_, i, d', hd',
    hleast, ?_⟩
  · cases hdescribes _ hone with
    | cons hrule _ => exact hrule
  · rw [hmessage, hfault]
    decide
  · have hnot : ¬d'.Valid := fun hvalid => by cases (hduplicate hvalid).1
    obtain ⟨part, hfirst, hcomplaint⟩ := hinvalid hnot
    rw [hfault] at hcomplaint
    -- only a severity can be at fault in this way
    obtain rfl : part = .severity := by
      have hviolates := hfirst.violates
      generalize hhigh : e.fault = fault at hviolates
      cases hviolates with
      | unknownSeverity => rfl
      | _ => cases hhigh
    exact ⟨hfirst, hcomplaint⟩

end RuleDef

end InfraPolicy
