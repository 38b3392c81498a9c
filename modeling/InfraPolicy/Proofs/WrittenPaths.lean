import InfraPolicy.Proofs.QuotedKeys

/-!
# Paths that are written and read back

A path that begins with a plain name can be written down: a dot stands before each further name, and
all other steps are put in brackets. A key that is no plain name is written in quotes, unless it has
a dot or a closing bracket in it, and a key that fits both ways is written either way. A value of
`Path.Written` says which way was taken at each step, so that it has one path and one text.

The reader cuts the text at its dots first and looks for brackets in each part afterwards. But it
need not be followed through the whole text: a step that is put behind a text continues the path
that is read from it (`Path.Spells.step`), and steps are put behind a text one by one
(`Path.Spells.steps`).
-/

namespace InfraPolicy

namespace Path

/-! ### Writing -/

/-- A step in one of the ways to write it behind other steps. -/
inductive WrittenStep where
  /-- `.name` -/
  | plain (name : String) (isPlainName : IsPlainName name)
  /-- `["key"]` -/
  | quoted (key : String) (dot_notMem : '.' ∉ key.toList) (close_notMem : ']' ∉ key.toList)
  /-- `[n]` -/
  | index (n : Nat) (lt : n < Number.twoTo 64)
  /-- `[*]` -/
  | wildcard
deriving DecidableEq, Repr

namespace WrittenStep

/-- The step that is written. -/
def segment : WrittenStep → Segment
  | .plain name _ => .key name
  | .quoted key _ _ => .key key
  | .index n _ => .index n
  | .wildcard => .wildcard

/-- The text of a step, with the dot before a name or the brackets around anything else. -/
def text : WrittenStep → String
  | .plain name _ => "." ++ name
  | .quoted key _ _ => "[\"" ++ key ++ "\"]"
  | .index n _ => "[" ++ toString n ++ "]"
  | .wildcard => "[*]"

end WrittenStep

/-- A path in one of the ways to write it: a plain name, with no dot before it, and more steps. -/
structure Written where
  first : String
  isPlainName : IsPlainName first
  steps : List WrittenStep
deriving DecidableEq, Repr

namespace Written

/-- The path that is written. -/
def path (w : Written) : Path :=
  .key w.first :: w.steps.map WrittenStep.segment

/-- The text of a path, step by step. -/
def text (w : Written) : String :=
  w.first ++ String.join (w.steps.map WrittenStep.text)

end Written

/-! ### Reading -/

namespace Spells

variable {text : String} {path : Path}

/-- An index continues a path. -/
theorem index (h : Spells text path) {n : Nat} (hn : n < Number.twoTo 64) :
    Spells (text ++ ("[" ++ toString n ++ "]")) (path ++ [.index n]) := by
  have hlist : (toString n).toList = Nat.toDigits 10 n := Nat.toList_repr
  have hdigit : ∀ {c}, c ∈ (toString n).toList → Number.isDigit c = true := fun hc =>
    Number.isDigit_of_mem_toDigits (hlist ▸ hc)
  refine h.bracket (fun hc => absurd (hdigit hc) (by decide))
    (fun hc => absurd (hdigit hc) (by decide)) ?_
  rw [hlist, Segment.parseBracket?_toDigits hn]

/-- A wildcard continues a path. -/
theorem wildcard (h : Spells text path) : Spells (text ++ "[*]") (path ++ [.wildcard]) := by
  have hstar : Segment.parseBracket? "*".toList = some .wildcard := by decide +kernel
  exact h.bracket (by decide +kernel) (by decide +kernel) hstar

/-- Whatever a text spells, a step that is written behind it continues. -/
theorem step (h : Spells text path) (step : WrittenStep) :
    Spells (text ++ step.text) (path ++ [step.segment]) := by
  cases step with
  | plain name hname => exact h.dot hname.spells
  | quoted key hdot hclose => exact h.quoted hdot hclose
  | index n hn => exact h.index hn
  | wildcard => exact h.wildcard

/-- Steps one behind the other continue a path one by one. -/
theorem steps (h : Spells text path) (steps : List WrittenStep) :
    Spells (text ++ String.join (steps.map WrittenStep.text))
      (path ++ steps.map WrittenStep.segment) := by
  induction steps generalizing text path with
  | nil => simpa using h
  | cons step steps ih =>
    -- the first step is taken as a part of the text that the others stand behind
    rw [List.map_cons, List.map_cons, String.join_cons, ← String.append_assoc,
      List.append_cons path]
    exact ih (h.step step)

end Spells

/-- A written path is spelled by its text. -/
theorem Written.spells (w : Written) : Spells w.text w.path :=
  w.isPlainName.spells.steps w.steps

end Path

/-- **A path that is written is read back.** The text of a path that begins with a plain name and
goes on with any number of plain names, keys in quotes, indices below `2 ^ 64` and wildcards, in any
order, spells exactly this path, whatever blanks are put before and behind it. -/
theorem written_path_is_read_back (w : Path.Written) {before after : String}
    (hbefore : Text.isBlankText before = true) (hafter : Text.isBlankText after = true) :
    Path.parse? (before ++ w.text ++ after) = some w.path := by
  rw [Path.parse?_append_append hbefore hafter, w.spells.parse?_eq]

/-- Keys in quotes with blanks, a quote and a bracket in them and with nothing in them, the greatest
index, a name with a closing bracket in it, and blanks of several kinds around the text. -/
theorem written_path_is_read_back_example :
    let w : Path.Written :=
      { first := "tags"
        isPlainName := by decide +kernel
        steps :=
          [.quoted " a [\"b " (by decide +kernel) (by decide +kernel),
            .quoted "" (by decide +kernel) (by decide +kernel), .wildcard,
            .index 18446744073709551615 (by decide), .plain "x]y z" (by decide +kernel),
            .plain "tags" (by decide +kernel), .index 0 (by decide)] }
    Text.isBlankText "\t " = true ∧ Text.isBlankText "\u2003\n" = true ∧
      w.text = "tags[\" a [\"b \"][\"\"][*][18446744073709551615].x]y z.tags[0]" ∧
      Path.parse? ("\t " ++ w.text ++ "\u2003\n") =
        some [.key "tags", .key " a [\"b ", .key "", .wildcard, .index 18446744073709551615,
          .key "x]y z", .key "tags", .index 0] := by
  intro w
  have hbefore : Text.isBlankText "\t " = true := by decide +kernel
  have hafter : Text.isBlankText "\u2003\n" = true := by decide +kernel
  refine ⟨hbefore, hafter, ?_, written_path_is_read_back w hbefore hafter⟩
  decide +kernel

end InfraPolicy
