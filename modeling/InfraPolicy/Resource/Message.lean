import InfraPolicy.Resource.Basic
import InfraPolicy.Text.Blank
import InfraPolicy.Text.Search

/-!
# Messages about resources

The message of a rule is a template: a name between double braces, blanks around it allowed,
stands for a property of the resource. A template with a name that is not known, or with double
braces that enclose no name, is taken as it stands.
-/

namespace InfraPolicy.Message

/-- A character of a placeholder's name. -/
def isNameChar (c : Char) : Bool :=
  ('a' ≤ c && c ≤ 'z') || ('A' ≤ c && c ≤ 'Z') || c == '_'

/-- A placeholder at the front of a text: its name, which may be empty, and what comes after. -/
def placeholder? : List Char → Option (List Char × List Char)
  | '{' :: '{' :: rest =>
    let body := rest.dropWhile Text.isBlank
    match (body.dropWhile isNameChar).dropWhile Text.isBlank with
    | '}' :: '}' :: after => some (body.takeWhile isNameChar, after)
    | _ => none
  | _ => none

theorem length_dropWhile_le (p : Char → Bool) (cs : List Char) :
    (cs.dropWhile p).length ≤ cs.length :=
  (List.dropWhile_suffix p).length_le

/-- What comes after a placeholder is shorter. -/
theorem length_lt_of_placeholder? {cs name after : List Char}
    (h : placeholder? cs = some (name, after)) : after.length < cs.length := by
  unfold placeholder? at h
  split at h
  · next rest =>
    dsimp only at h
    split at h
    · next tail heq =>
      simp only [Option.some.injEq, Prod.mk.injEq] at h
      have h₁ := length_dropWhile_le Text.isBlank
        ((rest.dropWhile Text.isBlank).dropWhile isNameChar)
      have h₂ := length_dropWhile_le isNameChar (rest.dropWhile Text.isBlank)
      have h₃ := length_dropWhile_le Text.isBlank rest
      rw [heq] at h₁
      simp only [List.length_cons, h.2] at h₁ ⊢
      omega
    · exact absurd h (by simp)
  · exact absurd h (by simp)

/-- A template cut at its placeholders: each with the text before it, then the text after the
last. -/
structure Template where
  placeholders : List (List Char × List Char)
  last : List Char
deriving Repr, Inhabited

namespace Template

/-- A template with a character more at its front. -/
def push (c : Char) : Template → Template
  | ⟨[], last⟩ => ⟨[], c :: last⟩
  | ⟨(text, name) :: rest, last⟩ => ⟨(c :: text, name) :: rest, last⟩

/-- Cut a text at its placeholders, from left to right. -/
def ofChars (cs : List Char) : Template :=
  match h : placeholder? cs with
  | some (name, after) =>
    have : after.length < cs.length := length_lt_of_placeholder? h
    let rest := ofChars after
    ⟨([], name) :: rest.placeholders, rest.last⟩
  | none =>
    match cs with
    | [] => ⟨[], []⟩
    | c :: rest => (ofChars rest).push c
termination_by cs.length

end Template

/-- The property of a resource that a placeholder names. -/
def property? (r : Resource) (name : List Char) : Option String :=
  if name = "resource_name".toList then some r.name
  else if name = "resource_type".toList then some r.kind
  else if name = "file".toList then some r.location.file
  else if name = "line".toList then some (toString r.location.line)
  else none

/-- No double brace, neither opening nor closing. -/
def isPlain (cs : List Char) : Bool :=
  !Text.hasInfix cs ['{', '{'] && !Text.hasInfix cs ['}', '}']

/-- Fill in placeholders; there is no answer if a name is unknown or a text between has double
braces. -/
def fill? (r : Resource) (last : List Char) : List (List Char × List Char) → Option (List Char)
  | [] => if isPlain last then some last else none
  | (text, name) :: rest =>
    if isPlain text then
      match property? r name, fill? r last rest with
      | some value, some filled => some (text ++ value.toList ++ filled)
      | _, _ => none
    else none

/-- The message that a template gives for a resource. -/
def render (template : String) (r : Resource) : String :=
  let t := Template.ofChars template.toList
  match fill? r t.last t.placeholders with
  | some filled => String.ofList filled
  | none => template

end InfraPolicy.Message
