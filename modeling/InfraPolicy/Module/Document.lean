import InfraPolicy.Error
import InfraPolicy.Hcl.Parser
import InfraPolicy.Hcl.Scope
import InfraPolicy.Resource.Location

/-!
# Source documents

A source file by its blocks, each with the place where it begins, and what the blocks declare:
variables with default values, and locals with expressions.
-/

namespace InfraPolicy

/-- A source file, taken apart into its blocks. -/
structure Document where
  file : String
  blocks : List (Location × Hcl.Block)
deriving Inhabited

namespace Document

/-- The blocks among located items. -/
def blocksOf (file : String) (content : List Char) :
    List (Nat × Hcl.Item) → List (Location × Hcl.Block)
  | [] => []
  | (offset, .block name labels body) :: rest =>
    (Location.ofOffset file content offset, ⟨name, labels, body⟩) :: blocksOf file content rest
  | (_, .attr ..) :: rest => blocksOf file content rest

/-- Read the content of a file. -/
def parse (file content : String) : Except Error Document :=
  let cs := content.toList
  match Hcl.parseItems? cs with
  | some items => .ok ⟨file, blocksOf file cs items⟩
  | none => .error (.parse file)

/-- A block comes from an item, and stands where the item does. -/
theorem exists_of_mem_blocksOf {file : String} {content : List Char}
    {items : List (Nat × Hcl.Item)} {p : Location × Hcl.Block}
    (h : p ∈ blocksOf file content items) :
    ∃ q ∈ items, p.1 = Location.ofOffset file content q.1 ∧
      q.2 = .block p.2.name p.2.labels p.2.body := by
  induction items with
  | nil => simp [blocksOf] at h
  | cons q rest ih =>
    obtain ⟨offset, item⟩ := q
    cases item with
    | attr name e =>
      obtain ⟨q, hq, hblock⟩ := ih h
      exact ⟨q, List.mem_cons_of_mem _ hq, hblock⟩
    | block name labels body =>
      rcases List.mem_cons.mp h with rfl | h
      · exact ⟨_, List.mem_cons_self, rfl, rfl⟩
      · obtain ⟨q, hq, hblock⟩ := ih h
        exact ⟨q, List.mem_cons_of_mem _ hq, hblock⟩

theorem exists_items_of_parse {file content : String} {d : Document}
    (h : parse file content = .ok d) :
    ∃ items, Hcl.parseItems? content.toList = some items ∧
      d = ⟨file, blocksOf file content.toList items⟩ := by
  rw [parse] at h
  cases hitems : Hcl.parseItems? content.toList with
  | none => simp [hitems] at h
  | some items =>
    rw [hitems] at h
    cases h
    exact ⟨items, rfl, rfl⟩

/-- The default that a variable block gives to the variable it is labelled with. -/
def default? (b : Hcl.Block) : Option (String × Value) := do
  let name ← b.labels.head?
  let e ← (Hcl.Item.attrs b.body).lookup "default"
  return (name, ({} : Hcl.Scope).eval e)

/-- The variables that have a default, with their defaults. -/
def defaults (d : Document) : List (String × Value) :=
  d.blocks.filterMap fun (_, b) => if b.name == "variable" then default? b else none

/-- The locals with their expressions. -/
def localDefs (d : Document) : List (String × Hcl.Expr) :=
  d.blocks.flatMap fun (_, b) => if b.name == "locals" then Hcl.Item.attrs b.body else []

end Document

/-- The variables that the body of a values file assigns. -/
def assignedValues (body : List Hcl.Item) : Fields :=
  Fields.ofList ((Hcl.Item.attrs body).map fun (name, e) => (name, ({} : Hcl.Scope).eval e))

/-- Read the content of a values file. -/
def parseValues (file content : String) : Except Error Fields :=
  match Hcl.parseBody? content with
  | some body => .ok (assignedValues body)
  | none => .error (.parse file)

end InfraPolicy
