import InfraPolicy.Proofs.ReportRoundTrip
import Mathlib.Data.List.Lex
import Mathlib.Data.List.Permutation
import Mathlib.Data.Prod.Lex
import Mathlib.Data.String.Basic

/-!
# What the console lists

Violations are listed by severity, then by the components of the name of their file, then by line
and column (`Violation.MayPrecede`). The comparison that they are sorted by is that of a linear
order, the lexicographic one on `Violation.rankAndPlace` (`Violation.listedBefore_iff`), so that
sorting them makes sense: it only puts them into another order, in which no violation stands before
one that should precede it, and those that nothing tells apart stay in theirs
(`Console.filter_sorted`). What is printed are the lines of each violation (`Console.join_entries`).

Names of files are compared by components and not as texts, so `a/b.tf` precedes `a-b.tf`, and two
names may stand for the same components.
-/

namespace InfraPolicy

/-! ### The order of violations -/

namespace PathName

/-- Where a component stands among all components. -/
def Component.place : Component → ℕ ×ₗ String
  | .root => toLex (0, "")
  | .current => toLex (1, "")
  | .parent => toLex (2, "")
  | .name s => toLex (3, s)

/-- Components are compared by their places. -/
theorem Component.compare_eq_lt_iff {a b : Component} : a.compare b = .lt ↔ a.place < b.place := by
  cases a <;> cases b <;>
    simp [Component.compare, Component.place, Component.rank, Prod.Lex.toLex_lt_toLex,
      compare_lt_iff_lt, -String.lt_iff_ltb]

theorem Component.compare_eq_eq_iff {a b : Component} : a.compare b = .eq ↔ a.place = b.place := by
  cases a <;> cases b <;>
    simp [Component.compare, Component.place, Component.rank]

/-- Where a name stands among all names: by its components, from the first to the last. -/
def place (path : String) : List (ℕ ×ₗ String) :=
  (components path).map Component.place

/-- Names are compared by the places of their components, as words are. -/
theorem compareComponents_eq_lt_iff {as bs : List Component} :
    compareComponents as bs = .lt ↔ as.map Component.place < bs.map Component.place := by
  induction as generalizing bs with
  | nil => cases bs <;> simp [compareComponents]
  | cons a as ih =>
    cases bs with
    | nil => simp [compareComponents]
    | cons b bs =>
      rw [compareComponents, Ordering.then_eq_lt, List.map_cons, List.map_cons,
        List.cons_lt_cons_iff, ih, Component.compare_eq_lt_iff, Component.compare_eq_eq_iff]

theorem compareComponents_eq_eq_iff {as bs : List Component} :
    compareComponents as bs = .eq ↔ as.map Component.place = bs.map Component.place := by
  induction as generalizing bs with
  | nil => cases bs <;> simp [compareComponents]
  | cons a as ih =>
    cases bs with
    | nil => simp [compareComponents]
    | cons b bs =>
      rw [compareComponents, Ordering.then_eq_eq, List.map_cons, List.map_cons,
        List.cons_eq_cons, ih, Component.compare_eq_eq_iff]

theorem Component.place_injective : Function.Injective Component.place := by
  intro a b
  cases a <;> cases b <;> simp [Component.place]

/-- Two names have one place if their components are the same, however they are spelled. -/
theorem place_eq_iff {a b : String} : place a = place b ↔ components a = components b :=
  (List.map_injective_iff.mpr Component.place_injective).eq_iff

end PathName

namespace Violation

/-- The place of a violation, by file, line and column. -/
def place (v : Violation) : List (ℕ ×ₗ String) ×ₗ ℕ ×ₗ ℕ :=
  toLex (PathName.place v.location.file, toLex (v.location.line, v.location.column))

/-- A violation may stand before another one that is not more severe and, if it is as severe, has no
earlier place. -/
def MayPrecede (v w : Violation) : Prop :=
  v.severity.AtLeast w.severity ∧ (v.severity = w.severity → v.place ≤ w.place)

instance (v w : Violation) : Decidable (v.MayPrecede w) :=
  inferInstanceAs (Decidable (_ ∧ (_ → _)))

/-- What a violation is listed by: its severity, and its place. -/
def rankAndPlace (v : Violation) : ℕ ×ₗ List (ℕ ×ₗ String) ×ₗ ℕ ×ₗ ℕ :=
  toLex (v.severity.rank, v.place)

/-- What may precede what is the order of severity and place. -/
theorem mayPrecede_iff {v w : Violation} : v.MayPrecede w ↔ v.rankAndPlace ≤ w.rankAndPlace := by
  rw [MayPrecede, ← Severity.rank_le_rank_iff, ← Severity.rank_inj, rankAndPlace, rankAndPlace,
    Prod.Lex.toLex_le_toLex, le_iff_lt_or_eq]
  constructor
  · rintro ⟨hlt | heq, hplace⟩
    · exact .inl hlt
    · exact .inr ⟨heq, hplace heq⟩
  · rintro (hlt | ⟨heq, hplace⟩)
    · exact ⟨.inl hlt, fun heq => absurd heq hlt.ne⟩
    · exact ⟨.inr heq, fun _ => hplace⟩

/-- The comparison is that of severity and place. -/
theorem listedBefore_iff {v w : Violation} :
    v.listedBefore w = true ↔ v.rankAndPlace ≤ w.rankAndPlace := by
  have hline : ((Ord.compare v.location.line w.location.line).then
      (Ord.compare v.location.column w.location.column)).isLE = true ↔
        toLex (v.location.line, v.location.column) ≤
          toLex (w.location.line, w.location.column) := by
    rw [Ordering.isLE_then_iff_or, Prod.Lex.toLex_le_toLex, compare_lt_iff_lt, compare_eq_iff_eq,
      Nat.isLE_compare]
  have hplace : (v.location.compare w.location).isLE = true ↔ v.place ≤ w.place := by
    rw [Location.compare, Ordering.isLE_then_iff_or, place, place, Prod.Lex.toLex_le_toLex, hline,
      PathName.compare, PathName.compareComponents_eq_lt_iff,
      PathName.compareComponents_eq_eq_iff]
    rfl
  rw [listedBefore, compare, Ordering.isLE_then_iff_or, rankAndPlace, rankAndPlace,
    Prod.Lex.toLex_le_toLex, hplace, compare_lt_iff_lt, compare_eq_iff_eq]

theorem listedBefore_trans (u v w : Violation) (huv : u.listedBefore v = true)
    (hvw : v.listedBefore w = true) : u.listedBefore w = true := by
  rw [listedBefore_iff] at huv hvw ⊢
  exact huv.trans hvw

theorem listedBefore_total (v w : Violation) : (v.listedBefore w || w.listedBefore v) = true := by
  rw [Bool.or_eq_true, listedBefore_iff, listedBefore_iff]
  exact le_total _ _

/-- Are two violations of the same severity, and at the same place of the same file? -/
def isLevelWith (v w : Violation) : Bool :=
  v.severity == w.severity &&
    PathName.components v.location.file == PathName.components w.location.file &&
    v.location.line == w.location.line && v.location.column == w.location.column

/-- Violations are level where the order does not tell them apart. -/
theorem isLevelWith_iff {v w : Violation} :
    v.isLevelWith w = true ↔ v.rankAndPlace = w.rankAndPlace := by
  simp only [isLevelWith, rankAndPlace, place, Bool.and_eq_true, beq_iff_eq,
    EmbeddingLike.apply_eq_iff_eq, Prod.mk.injEq, Severity.rank_inj, PathName.place_eq_iff,
    and_assoc]

/-- The lines about a violation. The severity takes the same width for all, what is undecided is
marked, there is a line about the remediation if there is one, and an empty line comes last. -/
def lines (v : Violation) : List String :=
  let tag :=
    match v.severity with
    | .error => "[ERROR]  "
    | .warning => "[WARNING]"
    | .info => "[INFO]   "
  let marker := if v.indeterminate then " (indeterminate)" else ""
  let fix := v.remediation.map fun text => "            fix: " ++ text
  ["  " ++ tag ++ " " ++ v.ruleId ++ " " ++ v.message ++ marker,
    "            at " ++ v.resourceType ++ "." ++ v.resourceName ++
      " (" ++ v.location.file ++ ":" ++ toString v.location.line ++ ")"] ++
    fix.toList ++ [""]

end Violation

/-! ### The sorted list -/

namespace Console

/-- Sorting loses nothing and adds nothing. -/
theorem sorted_perm (vs : List Violation) : (sorted vs).Perm vs :=
  List.mergeSort_perm vs Violation.listedBefore

/-- No violation stands before one that should precede it. -/
theorem pairwise_sorted (vs : List Violation) : (sorted vs).Pairwise Violation.MayPrecede :=
  (List.pairwise_mergeSort Violation.listedBefore_trans Violation.listedBefore_total vs).imp
    fun h => Violation.mayPrecede_iff.mpr (Violation.listedBefore_iff.mp h)

/-- Violations that the order does not tell apart stay in theirs. -/
theorem filter_sorted (vs : List Violation) (v : Violation) :
    (sorted vs).filter (·.isLevelWith v) = vs.filter (·.isLevelWith v) := by
  have hlevel : (vs.filter (·.isLevelWith v)).Pairwise (Violation.listedBefore · · = true) := by
    refine List.pairwise_of_forall_mem_list fun a ha b hb => ?_
    have ha := Violation.isLevelWith_iff.mp (List.mem_filter.mp ha).2
    have hb := Violation.isLevelWith_iff.mp (List.mem_filter.mp hb).2
    exact Violation.listedBefore_iff.mpr (ha.trans hb.symm).le
  have hsub : (vs.filter (·.isLevelWith v)).Sublist (sorted vs) :=
    List.sublist_mergeSort Violation.listedBefore_trans Violation.listedBefore_total hlevel
      List.filter_sublist
  -- Nothing else of the sorted list is level with `v`, as it has no more such entries.
  have hfilter : (vs.filter (·.isLevelWith v)).Sublist ((sorted vs).filter (·.isLevelWith v)) := by
    simpa only [List.filter_filter, Bool.and_self] using hsub.filter (·.isLevelWith v)
  exact (hfilter.eq_of_length ((sorted_perm vs).filter _).length_eq.symm).symm

/-- The text of an entry is that of its lines. -/
theorem entry_eq (v : Violation) : entry v = String.join (v.lines.map (· ++ "\n")) := by
  have hplace : "\n            at " = "\n" ++ "            at " := by decide
  have hentry : entry v =
      "  " ++ tag v.severity ++ " " ++ v.ruleId ++ " " ++ v.message ++
      (if v.indeterminate then " (indeterminate)" else "") ++ "\n            at " ++
      (v.resourceType ++ "." ++ v.resourceName ++ " (" ++ v.location.file ++ ":" ++
        toString v.location.line ++ ")") ++ "\n" ++
      (v.remediation.elim "" fun text => "            fix: " ++ text ++ "\n") ++ "\n" := by
    obtain ⟨_, _, _, _, _, _, _, remediation, _⟩ := v
    cases remediation <;> rfl
  rw [hentry, hplace]
  cases hfix : v.remediation <;> cases hseverity : v.severity <;>
    simp only [Violation.lines, hfix, hseverity, tag, Option.elim, Option.map, Option.toList,
      List.map, List.cons_append, List.nil_append, String.join_cons, String.join_nil,
      String.append_empty, String.empty_append, String.append_assoc]

/-- The entries in a row are the lines in a row. -/
theorem join_entries (vs : List Violation) :
    String.join (vs.map entry) = String.join ((vs.flatMap Violation.lines).map (· ++ "\n")) := by
  induction vs with
  | nil => rfl
  | cons v vs ih =>
    rw [List.map_cons, String.join_cons, List.flatMap_cons, List.map_append, String.join_append, ih,
      entry_eq]

/-- The last line in one piece. -/
theorem summary_eq (r : CheckResult) :
    summary r =
      s!"  Scanned {r.filesScanned} file(s), {r.resourcesFound} resource(s), " ++
      s!"{r.rulesEvaluated} rule(s) in {r.milliseconds} ms\n\n" := by
  have hcomma : " resource(s), " = " resource(s)" ++ ", " := by decide
  have htext : ∀ s : String, toString s = s := fun _ => rfl
  have hsummary : summary r =
      "  Scanned " ++ (s!"{r.filesScanned} file(s), {r.resourcesFound} resource(s)") ++ ", " ++
        s!"{r.rulesEvaluated}" ++ " rule(s) in " ++ s!"{r.milliseconds}" ++ " ms\n\n" := rfl
  simp only [hsummary, hcomma, htext, String.append_assoc]

theorem render_of_ne_nil {r : CheckResult} (h : r.violations ≠ []) :
    r.render .console = s!"\n  {r.violations.length} violation(s) found:\n\n" ++
      String.join ((sorted r.violations).map entry) ++ tallies r ++ summary r :=
  if_neg (by simpa using h)

theorem countP_sorted (r : CheckResult) (severity : Severity) :
    (sorted r.violations).countP (·.severity == severity) = r.count severity :=
  (sorted_perm r.violations).countP_eq _

end Console

/-! ### The whole report -/

/-- **The console shows each violation once, in order, with tallies that match.** Above the line on
the scan stand the number of violations and the lines about each, sorted by severity, file, line and
column, where violations that are equal in all of these keep the order that they had. Below them
stand the counts of each severity. They count the violations listed, they add up to the number above
them, and the report in JSON has the same counts in its summary. -/
theorem console_lists_each_violation_once (r : CheckResult) (h : r.violations ≠ []) :
    ∃ (listed : List Violation) (total errors warnings info : ℕ),
      r.render .console = s!"\n  {total} violation(s) found:\n\n" ++
        String.join ((listed.flatMap Violation.lines).map (· ++ "\n")) ++
        s!"  Errors: {errors}, warnings: {warnings}, info: {info}\n" ++
        (s!"  Scanned {r.filesScanned} file(s), {r.resourcesFound} resource(s), " ++
          s!"{r.rulesEvaluated} rule(s) in {r.milliseconds} ms\n\n") ∧
      listed.Perm r.violations ∧ listed.Pairwise Violation.MayPrecede ∧
      (∀ v, listed.filter (·.isLevelWith v) = r.violations.filter (·.isLevelWith v)) ∧
      total = r.violations.length ∧ errors + warnings + info = total ∧
      listed.countP (·.severity == .error) = errors ∧
      listed.countP (·.severity == .warning) = warnings ∧
      listed.countP (·.severity == .info) = info ∧
      ∃ report summary, Json.parse? (r.render .json) = some report ∧
        report.member? "summary" = some summary ∧
        (summary.member? "errors").bind Json.nat? = some errors ∧
        (summary.member? "warnings").bind Json.nat? = some warnings ∧
        (summary.member? "info").bind Json.nat? = some info := by
  refine ⟨Console.sorted r.violations, r.violations.length, r.count .error, r.count .warning,
    r.count .info, ?_, Console.sorted_perm _, Console.pairwise_sorted _, Console.filter_sorted _,
    rfl, r.count_add_count_add_count, Console.countP_sorted r _, Console.countP_sorted r _,
    Console.countP_sorted r _, r.toJson, r.summaryJson, Json.parse?_prettyText r.hasNoFloat_toJson,
    ?_, ?_, ?_, ?_⟩
  · rw [Console.render_of_ne_nil h, Console.join_entries, Console.summary_eq]
    rfl
  all_goals simp [CheckResult.toJson, CheckResult.summaryJson, Json.member?, Json.lookup, Json.nat?]

/-- Violations of all severities, one of them with a remediation and one undecided. Two have names
of one file in two spellings, and a third name sorts after them although its text sorts before. -/
theorem console_lists_each_violation_once_example :
    let dashed : Violation :=
      { ruleId := "R1", ruleName := "first", severity := .warning, resourceType := "aws_instance"
        resourceName := "web", location := { file := "a-b.tf", line := 1, column := 1 }
        message := "is open", remediation := none }
    let doubled : Violation :=
      { dashed with location := { file := "a//b.tf", line := 7, column := 1 }, ruleId := "R2" }
    let nested : Violation :=
      { doubled with
        location := { file := "a/b.tf", line := 7, column := 1 }, indeterminate := true }
    let severe : Violation := { dashed with severity := .error, remediation := some "close it" }
    let mild : Violation := { doubled with severity := .info }
    let r : CheckResult :=
      { violations := [mild, dashed, doubled, severe, nested], filesScanned := 3 }
    r.violations ≠ [] ∧
    r.render .console = "\n  5 violation(s) found:\n\n" ++
      "  [ERROR]   R1 is open\n            at aws_instance.web (a-b.tf:1)\n" ++
      "            fix: close it\n\n" ++
      "  [WARNING] R2 is open\n            at aws_instance.web (a//b.tf:7)\n\n" ++
      "  [WARNING] R2 is open (indeterminate)\n            at aws_instance.web (a/b.tf:7)\n\n" ++
      "  [WARNING] R1 is open\n            at aws_instance.web (a-b.tf:1)\n\n" ++
      "  [INFO]    R2 is open\n            at aws_instance.web (a//b.tf:7)\n\n" ++
      "  Errors: 1, warnings: 3, info: 1\n" ++
      "  Scanned 3 file(s), 0 resource(s), 0 rule(s) in 0 ms\n\n" := by
  intro dashed doubled nested severe mild r
  have hne : r.violations ≠ [] := by simp only [r, ne_eq, reduceCtorEq, not_false_eq_true]
  obtain ⟨listed, total, errors, warnings, info, hrender, hperm, hsorted, hlevel, htotal, -,
    herrors, hwarnings, hinfo, -⟩ := console_lists_each_violation_once r hne
  have hlisted : ∀ l ∈ [mild, dashed, doubled, severe, nested].permutations',
      l.Pairwise Violation.MayPrecede →
      l.filter (·.isLevelWith nested) = [doubled, nested] →
      l = [severe, doubled, nested, dashed, mild] := by
    simp only [dashed, doubled, nested, severe, mild]
    decide +kernel
  have hnested : r.violations.filter (·.isLevelWith nested) = [doubled, nested] := by
    simp only [r, dashed, doubled, nested, severe, mild]
    decide +kernel
  obtain rfl := hlisted listed (List.mem_permutations'.mpr hperm) hsorted
    ((hlevel nested).trans hnested)
  rw [htotal, ← herrors, ← hwarnings, ← hinfo] at hrender
  refine ⟨hne, hrender.trans ?_⟩
  simp only [r, dashed, doubled, nested, severe, mild]
  decide +kernel

end InfraPolicy
