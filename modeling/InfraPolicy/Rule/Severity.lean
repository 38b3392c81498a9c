import InfraPolicy.Text.Blank
import InfraPolicy.Unicode.CaseMapping

/-!
# Severities

How grave a violation is. An error is the most severe and ranks first.
-/

namespace InfraPolicy

/-- The levels of severity, the most severe first. -/
inductive Severity where
  | error
  | warning
  | info
deriving DecidableEq, Repr, Inhabited

namespace Severity

/-- The name of a level as rule files and reports spell it. -/
def name : Severity → String
  | .error => "error"
  | .warning => "warning"
  | .info => "info"

/-- The most severe ranks lowest. -/
def rank : Severity → Nat
  | .error => 0
  | .warning => 1
  | .info => 2

/-- Read a severity, in any case and with blanks around it; warnings have a short name too. -/
def ofName? (text : String) : Option Severity :=
  match Unicode.lower (Text.trim text) with
  | "error" => some .error
  | "warning" | "warn" => some .warning
  | "info" => some .info
  | _ => none

/-- At least as severe as the threshold. -/
def meets (s threshold : Severity) : Bool :=
  s.rank ≤ threshold.rank

/-! ### The order of severities -/

/-- One severity is at least as severe as another: only an error is as severe as an error, anything
but an info is as severe as a warning, and everything is as severe as an info. -/
def AtLeast (s threshold : Severity) : Prop :=
  (threshold = .error → s = .error) ∧ (threshold = .warning → s ≠ .info)

instance (s threshold : Severity) : Decidable (s.AtLeast threshold) :=
  inferInstanceAs (Decidable (_ ∧ _))

/-- Errors rank before warnings, and warnings before infos. -/
theorem rank_le_rank_iff {s t : Severity} : s.rank ≤ t.rank ↔ s.AtLeast t := by
  cases s <;> cases t <;> decide

example : rank .error < rank .warning ∧ rank .warning < rank .info := by decide

/-- No two severities rank alike. -/
theorem rank_inj {s t : Severity} : s.rank = t.rank ↔ s = t := by
  cases s <;> cases t <;> decide

end Severity

end InfraPolicy
