import InfraPolicy.Proofs.JsonText
import InfraPolicy.Report.Render
import Mathlib.Data.List.Basic

/-!
# Reports that are read back

A report in JSON holds all of the violations: reading its text and decoding the `violations` in it
gives the list that was reported, in its order, whatever stands in the texts of the violations. The
decoder is more lenient than the encoder: it knows severities in any case and spelling, allows
fields to be missing and takes arrays for objects. So a round trip is proved for each kind of record
by its own fields, and the texts are left to `Json.parse?_prettyText`.

A line and a column are numbers of 64 bits, and the decoder refuses larger ones.
-/

namespace InfraPolicy

/-! ### Decoding what was encoded -/

/-- A place whose line and column are numbers of 64 bits. -/
def Location.Fits (l : Location) : Prop :=
  l.line < Number.twoTo 64 ∧ l.column < Number.twoTo 64

instance (l : Location) : Decidable l.Fits :=
  inferInstanceAs (Decidable (_ ∧ _))

/-- The name of a severity is read back. -/
theorem Severity.ofName?_name (s : Severity) : Severity.ofName? s.name = some s := by
  cases s <;> decide +kernel

theorem Location.number?_int {n : Nat} (h : n < Number.twoTo 64) :
    Location.number? (.int n) = some n := by
  simp [Location.number?, Json.nat?, h]

/-- A place whose numbers fit 64 bits is read back. -/
theorem Location.ofJson?_toJson {l : Location} (h : l.Fits) :
    Location.ofJson? l.toJson = some l := by
  have hline := Location.number?_int h.1
  have hcolumn := Location.number?_int h.2
  simp [Location.ofJson?, Location.toJson, Json.member?, Json.lookup, Json.string?, hline, hcolumn]

/-- A violation is read back with all its fields. -/
theorem Violation.ofJson?_toJson {v : Violation} (h : v.location.Fits) :
    Violation.ofJson? v.toJson = some v := by
  obtain ⟨ruleId, ruleName, severity, kind, name, location, message, remediation, mark⟩ := v
  have hlocation := Location.ofJson?_toJson h
  have hseverity := Severity.ofName?_name severity
  -- A missing remediation is written as null and read as missing.
  cases remediation <;>
    simp [Violation.ofJson?, Violation.toJson, Json.member?, Json.lookup, Violation.ofFields?,
      Json.string?, hlocation, hseverity, Violation.optionalText?, Violation.optionalMark?,
      Json.bool?]

theorem Violation.listOfJson?_map_toJson {vs : List Violation} (h : ∀ v ∈ vs, v.location.Fits) :
    Violation.listOfJson? (.array (vs.map Violation.toJson)) = some vs := by
  have hdecode : (vs.map Violation.toJson).mapM Violation.ofJson? = some vs := by
    induction vs with
    | nil => rfl
    | cons v vs ih =>
      have hv := Violation.ofJson?_toJson (h v List.mem_cons_self)
      have hvs := ih fun w hw => h w (List.mem_cons_of_mem v hw)
      simp [hv, hvs]
  exact hdecode

/-! ### Reports are written without floats -/

theorem Violation.hasNoFloat_toJson (v : Violation) : v.toJson.hasNoFloat = true := by
  cases hremediation : v.remediation <;>
    simp [Violation.toJson, Location.toJson, Json.hasNoFloat, Json.membersHaveNoFloat, hremediation]

/-- A report has no number with a point, so its text is read back exactly. -/
theorem CheckResult.hasNoFloat_toJson (r : CheckResult) : r.toJson.hasNoFloat = true := by
  have hviolations : ∀ vs : List Violation, Json.haveNoFloat (vs.map Violation.toJson) = true := by
    intro vs
    induction vs with
    | nil => rfl
    | cons v vs ih => rw [List.map_cons, Json.haveNoFloat, v.hasNoFloat_toJson, ih]; rfl
  simp [CheckResult.toJson, CheckResult.summaryJson, Json.hasNoFloat, Json.membersHaveNoFloat,
    hviolations]

/-! ### Counts -/

/-- Every violation is counted in exactly one of the three counts. -/
theorem CheckResult.count_add_count_add_count (r : CheckResult) :
    r.count .error + r.count .warning + r.count .info = r.violations.length := by
  simp only [CheckResult.count]
  induction r.violations with
  | nil => rfl
  | cons v vs ih =>
    simp only [List.countP_cons, List.length_cons, ← ih]
    cases v.severity <;> simp <;> omega

/-! ### The whole report -/

/-- **A report in JSON loses nothing.** Its text is a document, the violations in it decode to the
violations of the result in their order, and the three counts of its summary add up to their
number. -/
theorem report_loses_nothing (r : CheckResult) (h : ∀ v ∈ r.violations, v.location.Fits) :
    ∃ report, Json.parse? (r.render .json) = some report ∧
      (report.member? "violations").bind Violation.listOfJson? = some r.violations ∧
      ∃ summary errors warnings info, report.member? "summary" = some summary ∧
        (summary.member? "errors").bind Json.nat? = some errors ∧
        (summary.member? "warnings").bind Json.nat? = some warnings ∧
        (summary.member? "info").bind Json.nat? = some info ∧
        errors + warnings + info = r.violations.length := by
  refine ⟨r.toJson, Json.parse?_prettyText r.hasNoFloat_toJson, ?_, r.summaryJson, r.count .error,
    r.count .warning, r.count .info, ?_, ?_, ?_, ?_, r.count_add_count_add_count⟩
  · have hmember : r.toJson.member? "violations" =
        some (.array (r.violations.map Violation.toJson)) := by
      simp [CheckResult.toJson, Json.member?, Json.lookup]
    rw [hmember, Option.bind_some, Violation.listOfJson?_map_toJson h]
  · simp [CheckResult.toJson, Json.member?, Json.lookup]
  all_goals simp [CheckResult.summaryJson, Json.member?, Json.lookup, Json.nat?]

/-- Texts with quotes, backslashes, control characters and letters beyond the basic plane, the
largest line, and a remediation that is missing and one that is empty. -/
theorem report_loses_nothing_example :
    let first : Violation :=
      { ruleId := "SG\\001", ruleName := "say \"no\"", severity := .warning
        resourceType := "aws_security_group", resourceName := "web\n\t\x00\x1f"
        location := { file := "C:\\main.tf", line := 18446744073709551615, column := 0 }
        message := "Größe 𝔸 \u007f", remediation := none, indeterminate := true }
    let second : Violation :=
      { first with severity := .info, remediation := some "", indeterminate := false }
    let r : CheckResult := { violations := [first, second, first], filesScanned := 1 }
    (∀ v ∈ r.violations, v.location.Fits) ∧
    ∃ report, Json.parse? (r.render .json) = some report ∧
      (report.member? "violations").bind Violation.listOfJson? = some [first, second, first] ∧
      ∃ summary errors warnings info, report.member? "summary" = some summary ∧
        (summary.member? "errors").bind Json.nat? = some errors ∧
        (summary.member? "warnings").bind Json.nat? = some warnings ∧
        (summary.member? "info").bind Json.nat? = some info ∧
        errors + warnings + info = 3 := by
  intro first second r
  have hfits : ∀ v ∈ r.violations, v.location.Fits := by decide +kernel
  exact ⟨hfits, report_loses_nothing r hfits⟩

end InfraPolicy
