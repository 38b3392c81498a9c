import InfraPolicy.Value.Basic

/-!
# The syntax of HCL

A body is a list of items: attributes, each with an expression, and blocks, each with labels and a
body of its own.

The expressions that a static reading cannot evaluate are kept for their shape only. In particular
operators stand in the order of the text, whatever their precedence.
-/

namespace InfraPolicy.Hcl

mutual

/-- An expression. -/
inductive Expr where
  | null
  | bool (b : Bool)
  | int (n : Int64)
  | float (x : Binary64)
  /-- Text without interpolations. -/
  | text (s : String)
  | list (items : List Expr)
  /-- Keys and values. A key that is a lone variable stands for its name. -/
  | object (items : List (Expr × Expr))
  /-- Text with interpolations or directives, or a here-document. -/
  | template (parts : List Part)
  /-- Text whose parts are no template once they are put together. -/
  | unreadable
  | variable (name : String)
  /-- Steps from what an expression stands for into its inside. -/
  | traversal (root : Expr) (steps : List Step)
  | paren (inner : Expr)
  | call (name : String) (arguments : List Expr)
  | conditional (test yes no : Expr)
  | operation (sign : String) (operands : List Expr)
  /-- A list or an object made from the items of a collection. -/
  | comprehension (collection : Expr) (results : List Expr)

/-- A step into a value. -/
inductive Step where
  | attr (name : String)
  | index (e : Expr)
  /-- An index after a dot. -/
  | legacyIndex (n : Nat)
  /-- Over all items of a list. -/
  | splat

/-- A part of a template. -/
inductive Part where
  | text (s : String)
  | interpolation (e : Expr)
  /-- A condition or a loop over parts of the template. -/
  | directive (arguments : List Expr) (parts : List Part)

end

instance : Inhabited Expr := ⟨.null⟩

instance : Inhabited Step := ⟨.splat⟩

instance : Inhabited Part := ⟨.text ""⟩

/-- An item of a body. -/
inductive Item where
  | attr (name : String) (value : Expr)
  | block (name : String) (labels : List String) (body : List Item)
deriving Inhabited

/-- A block. -/
structure Block where
  name : String
  labels : List String
  body : List Item
deriving Inhabited

namespace Item

/-- The attributes of a body, in order. -/
def attrs : List Item → List (String × Expr)
  | [] => []
  | .attr name value :: rest => (name, value) :: attrs rest
  | .block .. :: rest => attrs rest

/-- The blocks of a body, in order. -/
def blocks : List Item → List Block
  | [] => []
  | .attr .. :: rest => blocks rest
  | .block name labels body :: rest => ⟨name, labels, body⟩ :: blocks rest

end Item

/-! ### Equality of expressions -/

mutual

/-- Are two expressions written alike, up to blanks and comments? -/
def Expr.same : Expr → Expr → Bool
  | .null, .null => true
  | .bool a, .bool b => a == b
  | .int a, .int b => a == b
  | .float a, .float b => a.eqv b
  | .text a, .text b => a == b
  | .list a, .list b => Expr.sameList a b
  | .object a, .object b => Expr.sameItems a b
  | .template a, .template b => Part.sameList a b
  | .unreadable, .unreadable => true
  | .variable a, .variable b => a == b
  | .traversal a s, .traversal b t => Expr.same a b && Step.sameList s t
  | .paren a, .paren b => Expr.same a b
  | .call f a, .call g b => f == g && Expr.sameList a b
  | .conditional a b c, .conditional x y z => Expr.same a x && Expr.same b y && Expr.same c z
  | .operation s a, .operation t b => s == t && Expr.sameList a b
  | .comprehension a s, .comprehension b t => Expr.same a b && Expr.sameList s t
  | _, _ => false

/-- Are the expressions of two lists written alike, one by one? -/
def Expr.sameList : List Expr → List Expr → Bool
  | [], [] => true
  | a :: as, b :: bs => Expr.same a b && Expr.sameList as bs
  | _, _ => false

/-- Are the items of two objects written alike, one by one? -/
def Expr.sameItems : List (Expr × Expr) → List (Expr × Expr) → Bool
  | [], [] => true
  | (k, a) :: as, (l, b) :: bs => Expr.same k l && Expr.same a b && Expr.sameItems as bs
  | _, _ => false

/-- Are two steps of a reference written alike? -/
def Step.same : Step → Step → Bool
  | .attr a, .attr b => a == b
  | .index a, .index b => Expr.same a b
  | .legacyIndex a, .legacyIndex b => a == b
  | .splat, .splat => true
  | _, _ => false

def Step.sameList : List Step → List Step → Bool
  | [], [] => true
  | a :: as, b :: bs => Step.same a b && Step.sameList as bs
  | _, _ => false

/-- Are two parts of a text written alike? -/
def Part.same : Part → Part → Bool
  | .text a, .text b => a == b
  | .interpolation a, .interpolation b => Expr.same a b
  | .directive a p, .directive b q => Expr.sameList a b && Part.sameList p q
  | _, _ => false

def Part.sameList : List Part → List Part → Bool
  | [], [] => true
  | a :: as, b :: bs => Part.same a b && Part.sameList as bs
  | _, _ => false

end

end InfraPolicy.Hcl
