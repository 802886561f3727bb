import ApiBindings.Proofs.Outcome
import ApiBindings.Proofs.Template.Lookup

/-!
Forms of values. A form tells what is known of a value in two runs of a
template: that it is the same in both, that it is a list of items of one form,
a record of one kind. A catalogue tells the forms of the fields of a kind.
An expression has a form if it asks nothing of a value that its form does not
promise; its values in the two runs are then alike.
-/

namespace ApiBindings.Template

/-- Of a hidden value nothing is known. A defined value is the same in both runs
and is not the undefined one; `loop` is what two loops tell about the same
round. -/
inductive Form (K : Type)
  | hidden
  | same
  | defined
  | loop
  | list (item : Form K)
  | record (kind : K)
  deriving DecidableEq

/-- What a template asks for: the levels below it, the forms of the names that
it uses, and the templates that it embeds. -/
structure Signature (K : Type) where
  levels : Nat
  names : List (String × Form K)
  embeds : List String

/-- The fields of each kind of record that are not just the same in both runs,
and the signatures of templates. -/
structure Catalog (K : Type) where
  fields : K → List (String × Form K)
  signature? : String → Option (Signature K)

variable {K : Type}

def Catalog.field (catalog : Catalog K) (kind : K) (n : String) : Form K :=
  (Entries.find? n (catalog.fields kind)).getD .same

def Form.isPlain : Form K → Bool
  | .same => true
  | .defined => true
  | _ => false

def Form.sameIf (b : Bool) : Option (Form K) := if b then some .same else none

theorem Form.sameIf_eq_some {b : Bool} {f : Form K} :
    sameIf b = some f ↔ b = true ∧ f = .same := by
  cases b <;> simp [sameIf, eq_comm]

/-- The form of a field. The neighbours of an item in its loop have none. -/
def Form.field? (catalog : Catalog K) (n : String) :
    Form K → Option (Form K)
  | .defined => some .same
  | .loop => if n = "previtem" ∨ n = "nextitem" then none else some .same
  | .record kind => some (catalog.field kind n)
  | _ => none

/-! Operators and filters that work on any values. -/

def Operator.isTotal : Operator → Bool
  | .isIn => false
  | .isNotIn => false
  | .add => false
  | _ => true

def totalFilters : List String :=
  ["escape_jsdoc", "string_literal", "upper", "lower"]

mutual
/-- The parts of an expression have to be plain, unless it is a field. -/
def Expr.form? (catalog : Catalog K) (env : List (String × Form K)) :
    Expr → Option (Form K)
  | .const _ => some .same
  | .name n => Entries.find? n env
  | .field e n => (e.form? catalog env).bind (Form.field? catalog n)
  | .not e => Form.sameIf ((e.form? catalog env).any Form.isPlain)
  | .binary op a b =>
    Form.sameIf (op.isTotal && (a.form? catalog env).any Form.isPlain &&
      (b.form? catalog env).any Form.isPlain)
  | .ifElse test yes no =>
    Form.sameIf ((test.form? catalog env).any Form.isPlain &&
      (yes.form? catalog env).any Form.isPlain &&
      (elseForm? catalog env no).any Form.isPlain)
  | .filter n e [] =>
    Form.sameIf (totalFilters.contains n &&
      (e.form? catalog env).any Form.isPlain)
  | _ => none

def elseForm? (catalog : Catalog K) (env : List (String × Form K)) :
    Option Expr → Option (Form K)
  | none => some .same
  | some e => e.form? catalog env
end

def Expr.isPlain (catalog : Catalog K) (env : List (String × Form K))
    (e : Expr) : Bool :=
  (e.form? catalog env).any Form.isPlain

/-- Values in two runs. A list goes item by item here, since `List.Forall₂` does
not take the relation that is being defined. -/
inductive Alike (catalog : Catalog K) : Form K → Value → Value → Prop
  | hidden (v w : Value) : Alike catalog .hidden v w
  | same (v : Value) : Alike catalog .same v v
  | defined {v : Value} (known : v ≠ .undefined) : Alike catalog .defined v v
  | loop {items others : List Value} (i : Nat)
      (same : items.length = others.length) :
      Alike catalog .loop (loopObject items i) (loopObject others i)
  | list {item : Form K} {items others : List Value}
      (same : items.length = others.length)
      (related : ∀ i h₁ h₂,
        Alike catalog item (items.get ⟨i, h₁⟩) (others.get ⟨i, h₂⟩)) :
      Alike catalog (.list item) (.list items) (.list others)
  | record {kind : K} {members others : List (Value × Value)}
      (related : ∀ n, Alike catalog (catalog.field kind n)
        ((Value.member? (.text n) members).getD .undefined)
        ((Value.member? (.text n) others).getD .undefined)) :
      Alike catalog (.record kind) (.map members) (.map others)

/-- What two scopes hold under the names of an environment is alike. -/
def Fits (catalog : Catalog K) (env : List (String × Form K))
    (s t : Scope) : Prop :=
  ∀ n f, Entries.find? n env = some f →
    Alike catalog f (s.lookup n) (t.lookup n)

section Values

variable {catalog : Catalog K} {f g : Form K} {v w : Value} {n : String}

theorem Alike.eq_of_isPlain (alike : Alike catalog f v w)
    (plain : f.isPlain = true) : v = w := by
  cases alike with
  | same | defined => rfl
  | hidden | loop | list | record => nomatch plain

theorem Alike.of_items {items others : List Value}
    (related : List.Forall₂ (Alike catalog f) items others) :
    Alike catalog (.list f) (.list items) (.list others) := by
  obtain ⟨same, related⟩ := List.forall₂_iff_get.mp related
  exact .list same related

theorem Alike.map_self {α : Type} {value : α → Value}
    (alike : ∀ x, Alike catalog f (value x) (value x)) (xs : List α) :
    Alike catalog (.list f) (.list (xs.map value)) (.list (xs.map value)) :=
  .of_items (by
    rw [List.forall₂_map_left_iff, List.forall₂_map_right_iff,
      List.forall₂_same]
    exact fun x _ => alike x)

theorem Alike.items (alike : Alike catalog (.list f) v w) :
    ∃ items others, v = .list items ∧ w = .list others ∧
      List.Forall₂ (Alike catalog f) items others := by
  cases alike with
  | list same related =>
      exact ⟨_, _, rfl, rfl, List.forall₂_iff_get.mpr ⟨same, related⟩⟩

theorem Alike.of_fields {kind : K} {fields others : List (String × Value)}
    (known : ∀ e ∈ catalog.fields kind,
      Alike catalog e.2 (Value.given e.1 fields) (Value.given e.1 others))
    (same : ∀ n, Entries.find? n (catalog.fields kind) = none →
      Value.given n fields = Value.given n others) :
    Alike catalog (.record kind) (.ofFields fields) (.ofFields others) := by
  rw [Value.ofFields_eq, Value.ofFields_eq]
  refine .record fun n => ?_
  rw [Value.getD_member?_foldl_putMember, Value.getD_member?_foldl_putMember,
    Catalog.field]
  cases listed : Entries.find? n (catalog.fields kind) with
  | none =>
      rw [same n listed]
      exact .same _
  | some f => exact known (n, f) (Entries.mem_of_find? listed)

theorem Value.field_ok (known : v ≠ .undefined) (n : String) :
    ∃ x, v.field n = .ok x := by
  cases v with
  | undefined => exact absurd rfl known
  | _ => exact ⟨_, rfl⟩

theorem field_loopObject {items others : List Value} (i : Nat)
    (same : items.length = others.length)
    (inside : ¬ (n = "previtem" ∨ n = "nextitem")) :
    ∃ x, (loopObject items i).field n = .ok x ∧
      (loopObject others i).field n = .ok x := by
  obtain ⟨previous, next⟩ := not_or.mp inside
  refine ⟨_, rfl, ?_⟩
  simp [loopObject, Value.field, Value.fieldOf, List.find?_cons, same,
    Ne.symm previous, Ne.symm next]

theorem Alike.field (alike : Alike catalog f v w)
    (known : f.field? catalog n = some g) :
    ∃ x y, v.field n = .ok x ∧ w.field n = .ok y ∧ Alike catalog g x y := by
  cases alike with
  | hidden | same | list => nomatch known
  | defined present =>
      obtain ⟨x, read⟩ := Value.field_ok present n
      obtain rfl : Form.same = g := Option.some.inj known
      exact ⟨x, x, read, read, .same x⟩
  | loop i same =>
      rw [Form.field?] at known
      split at known
      next => nomatch known
      next inside =>
        obtain ⟨x, left, right⟩ := field_loopObject i same inside
        obtain rfl := Option.some.inj known
        exact ⟨x, x, left, right, .same x⟩
  | record related =>
      obtain rfl := Option.some.inj known
      exact ⟨_, _, rfl, rfl, related n⟩

theorem applyOperator_ok {op : Operator} (total : op.isTotal = true)
    (v w : Value) : ∃ x, applyOperator op v w = .ok x := by
  cases op with
  | isIn | isNotIn | add => nomatch total
  | _ => exact ⟨_, rfl⟩

theorem applyFilter_ok (total : n ∈ totalFilters) (v : Value) :
    ∃ x, applyFilter n v [] = .ok x := by
  simp only [totalFilters, List.mem_cons, List.not_mem_nil, or_false] at total
  rcases total with rfl | rfl | rfl | rfl <;> exact ⟨_, rfl⟩

end Values

section Expressions

variable {catalog : Catalog K} {env : List (String × Form K)} {s t : Scope}

def EvalAlike (catalog : Catalog K) (f : Form K)
    (x y : Except TemplateError Value) : Prop :=
  ∃ v w, x = .ok v ∧ y = .ok w ∧ Alike catalog f v w

theorem EvalAlike.same {x y : Except TemplateError Value} {o : Option (Form K)}
    (alike : ∀ f, o = some f → EvalAlike catalog f x y)
    (plain : o.any Form.isPlain = true) :
    ∃ v, x = .ok v ∧ y = .ok v := by
  obtain ⟨f, known, plain⟩ := (Option.any_eq_true _ _).mp plain
  obtain ⟨v, w, left, right, related⟩ := alike f known
  cases related.eq_of_isPlain plain
  exact ⟨v, left, right⟩

theorem EvalAlike.of_same {x y : Except TemplateError Value}
    (same : ∃ v, x = .ok v ∧ y = .ok v) : EvalAlike catalog .same x y := by
  obtain ⟨v, left, right⟩ := same
  exact ⟨v, v, left, right, .same v⟩

mutual
theorem Expr.eval_alike (fits : Fits catalog env s t) :
    ∀ (e : Expr) (f : Form K), e.form? catalog env = some f →
      EvalAlike catalog f (e.eval s) (e.eval t)
  | .const v, f, known => by
      obtain rfl := Option.some.inj known
      exact .of_same ⟨v, rfl, rfl⟩
  | .name n, f, known => ⟨_, _, rfl, rfl, fits n f known⟩
  | .field e n, f, known => by
      rw [Expr.form?, Option.bind_eq_some_iff] at known
      obtain ⟨inner, known, read⟩ := known
      obtain ⟨v, w, left, right, alike⟩ := e.eval_alike fits inner known
      obtain ⟨x, y, first, second, related⟩ := alike.field read
      refine ⟨x, y, ?_, ?_, related⟩
      · rw [Expr.eval, left, Outcome.ok_bind, first]
      · rw [Expr.eval, right, Outcome.ok_bind, second]
  | .not e, f, known => by
      obtain ⟨plain, rfl⟩ := Form.sameIf_eq_some.mp known
      obtain ⟨v, left, right⟩ := EvalAlike.same (e.eval_alike fits) plain
      refine .of_same ⟨.bool !v.isTrue, ?_, ?_⟩
      · rw [Expr.eval, left, Outcome.ok_bind]
        rfl
      · rw [Expr.eval, right, Outcome.ok_bind]
        rfl
  | .binary op a b, f, known => by
      obtain ⟨plain, rfl⟩ := Form.sameIf_eq_some.mp known
      simp only [Bool.and_eq_true] at plain
      obtain ⟨⟨total, first⟩, second⟩ := plain
      obtain ⟨v, leftV, rightV⟩ := EvalAlike.same (a.eval_alike fits) first
      obtain ⟨w, leftW, rightW⟩ := EvalAlike.same (b.eval_alike fits) second
      obtain ⟨x, applied⟩ := applyOperator_ok total v w
      refine .of_same ⟨if op.decidedBy v then v else x, ?_, ?_⟩
      · rw [Expr.eval, leftV, leftW, Outcome.ok_bind, Outcome.ok_bind, applied]
        split <;> rfl
      · rw [Expr.eval, rightV, rightW, Outcome.ok_bind, Outcome.ok_bind,
          applied]
        split <;> rfl
  | .ifElse test yes no, f, known => by
      obtain ⟨plain, rfl⟩ := Form.sameIf_eq_some.mp known
      simp only [Bool.and_eq_true] at plain
      obtain ⟨⟨tested, first⟩, second⟩ := plain
      obtain ⟨v, leftV, rightV⟩ := EvalAlike.same (test.eval_alike fits) tested
      have yes := EvalAlike.same (yes.eval_alike fits) first
      have no := EvalAlike.same (evalElse_alike fits no) second
      refine .of_same ?_
      rw [Expr.eval, Expr.eval, leftV, rightV, Outcome.ok_bind, Outcome.ok_bind]
      cases v.isTrue with
      | true => exact yes
      | false => exact no
  | .filter n e [], f, known => by
      obtain ⟨plain, rfl⟩ := Form.sameIf_eq_some.mp known
      rw [Bool.and_eq_true, List.contains_iff_mem] at plain
      obtain ⟨v, left, right⟩ := EvalAlike.same (e.eval_alike fits) plain.2
      obtain ⟨x, applied⟩ := applyFilter_ok plain.1 v
      refine .of_same ⟨x, ?_, ?_⟩
      · rw [Expr.eval, left, Outcome.ok_bind, evalItems, Outcome.ok_bind,
          applied]
      · rw [Expr.eval, right, Outcome.ok_bind, evalItems, Outcome.ok_bind,
          applied]
  | .filter _ _ (_ :: _), _, known | .item _ _, _, known | .list _, _, known
  | .map _, _, known | .negate _, _, known => by nomatch known

theorem evalElse_alike (fits : Fits catalog env s t) :
    ∀ (no : Option Expr) (f : Form K), elseForm? catalog env no = some f →
      EvalAlike catalog f (evalElse s no) (evalElse t no)
  | none, f, known => by
      obtain rfl := Option.some.inj known
      exact .of_same ⟨.undefined, rfl, rfl⟩
  | some e, f, known => e.eval_alike fits f known
end

theorem Expr.eval_same {e : Expr} (fits : Fits catalog env s t)
    (plain : e.isPlain catalog env = true) :
    ∃ v, e.eval s = .ok v ∧ e.eval t = .ok v :=
  EvalAlike.same (e.eval_alike fits) plain

end Expressions

end ApiBindings.Template
