import ApiBindings.Template.Value

/-!
What templates are made of.
-/

namespace ApiBindings.Template

inductive Operator
  | or
  | and
  | equal
  | notEqual
  | isIn
  | isNotIn
  | add
  | concat
  deriving DecidableEq

inductive Expr
  | const (v : Value)
  | name (n : String)
  | field (e : Expr) (n : String)
  | item (e key : Expr)
  | list (items : List Expr)
  | map (members : List (Expr × Expr))
  | not (e : Expr)
  | negate (e : Expr)
  | binary (op : Operator) (a b : Expr)
  | ifElse (test yes : Expr) (no : Option Expr)
  | filter (n : String) (e : Expr) (arguments : List Expr)

/-- What values are assigned to: a name, a field, or several targets for the items of a list. -/
inductive Target
  | name (n : String)
  | field (e : Expr) (n : String)
  | list (targets : List Target)

inductive Node
  | text (s : String)
  | output (e : Expr)
  | ifElse (test : Expr) (yes no : List Node)
  | loop (target : Target) (e : Expr) (test : Option Expr) (body ifEmpty : List Node)
  | set (target : Target) (e : Expr)
  | capture (target : Target) (filters : List (String × List Expr)) (body : List Node)
  | embed (e : Expr) (ignoreMissing : Bool)

/-- Words and signs inside a tag. `broken` stands where the text cannot be cut any further. -/
inductive Token
  | word (s : String)
  | text (s : String)
  | int (n : Nat)
  | float (x : Float)
  | sign (s : String)
  | broken (e : TemplateError)

/-- A template cut at its tags. A tag without an end has a broken token as its last one, and is the
last part. -/
inductive Segment
  | text (s : String)
  | output (tokens : List Token)
  | block (tokens : List Token)
  | broken (e : TemplateError)

end ApiBindings.Template
