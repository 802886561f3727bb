import ApiBindings.Template.Parser
import ApiBindings.Text.Quoted

/-!
Running templates. Variables live in frames, one for the template and one for each loop around the
place; an embedded template works on the frames of the place where it stands.
-/

namespace ApiBindings.Template

abbrev Frame := List (String × Value)

/-- The frames, the innermost first, and the values given to the template. -/
structure Scope where
  frames : List Frame
  context : List (Value × Value)

namespace Scope

def start (context : List (Value × Value)) : Scope := ⟨[[]], context⟩

def find? (s : Scope) (name : String) : Option Value :=
  (s.frames.findSome? (Entries.find? name)).orElse fun _ => Value.member? (.text name) s.context

/-- Names that stand for themselves as long as no value has been given to them. -/
def builtIn : List String := ["range", "dict", "debug", "namespace"]

def lookup (s : Scope) (name : String) : Value :=
  match s.find? name with
  | some v => v
  | none => if builtIn.contains name then .object name [] else .undefined

def assign (s : Scope) (name : String) (v : Value) : Scope :=
  match s.frames with
  | [] => { s with frames := [[(name, v)]] }
  | f :: fs => { s with frames := Entries.put name v f :: fs }

def push (s : Scope) : Scope := { s with frames := [] :: s.frames }

def pop (s : Scope) : Scope := { s with frames := s.frames.tail }

end Scope

/-- Keeps the end of a comment from ending it. -/
def escapeComment (s : String) : String :=
  String.ofList (Text.replaceAll ['*', '/'] ['*', '\\', '/'] s.toList)

def length (v : Value) : Except TemplateError Value :=
  match v with
  | .text s => .ok (.int s.toList.length)
  | .list items => .ok (.int items.length)
  | .map members => .ok (.int members.length)
  | _ => .error .invalidOperation

/-- The separator is left out as long as the result is empty. -/
def joinValues (sep : String) (items : List Value) : String :=
  items.foldl (fun s v => (if s = "" then s else s ++ sep) ++ v.print) ""

/-- An argument that is undefined or none counts as not given. -/
def given? : Value → Option Value
  | .undefined => none
  | .none => none
  | v => some v

def join (v : Value) (arguments : List Value) : Except TemplateError Value :=
  let joined (sep : String) : Except TemplateError Value :=
    match v.iterate? with
    | some items => .ok (.text (joinValues sep items))
    | none => .error .invalidOperation
  match arguments with
  | [] => joined ""
  | [sep] => joined ((given? sep).elim "" Value.print)
  | _ => .error .tooManyArguments

/-- Another value for an undefined one, or for any that does not hold if that is asked for. -/
def default (v : Value) (arguments : List Value) : Except TemplateError Value :=
  let substitute (lax : Bool) (other : Option Value) : Value :=
    match v with
    | .undefined => other.getD (.text "")
    | v => if lax && !v.isTrue then other.getD (.text "") else v
  match arguments with
  | [] => .ok (substitute false none)
  | [other] => .ok (substitute false (given? other))
  | other :: lax :: more => do
    let lax ←
      match given? lax with
      | none => pure false
      | some (.bool lax) => pure lax
      | some _ => throw .invalidOperation
    if more.isEmpty then return substitute lax (given? other) else throw .tooManyArguments

def textFilter (change : String → String) (v : Value) (arguments : List Value) :
    Except TemplateError Value :=
  if arguments.isEmpty then .ok (.text (change v.print)) else .error .tooManyArguments

def applyFilter (name : String) (v : Value) (arguments : List Value) :
    Except TemplateError Value :=
  match name with
  | "escape_jsdoc" => textFilter escapeComment v arguments
  | "string_literal" => textFilter Text.quote v arguments
  | "upper" => textFilter (fun s => String.ofList (Text.upperAll s.toList)) v arguments
  | "lower" => textFilter (fun s => String.ofList (Text.lowerAll s.toList)) v arguments
  | "length" => if arguments.isEmpty then length v else .error .tooManyArguments
  | "join" => join v arguments
  | "default" => default v arguments
  | name => .error (.unknownFilter name)

/-- Operators that need both operands. -/
def applyOperator (op : Operator) (a b : Value) : Except TemplateError Value :=
  match op with
  | .equal => .ok (.bool (a.eq b))
  | .notEqual => .ok (.bool !(a.eq b))
  | .isIn => b.contains a
  | .isNotIn => (b.contains a).map fun v => .bool !v.isTrue
  | .add => a.add b
  | .concat => .ok (.text (a.print ++ b.print))
  | .or => .ok (if a.isTrue then a else b)
  | .and => .ok (if a.isTrue then b else a)

/-- Whether the first operand decides alone. -/
def Operator.decidedBy (op : Operator) (a : Value) : Bool :=
  match op with
  | .or => a.isTrue
  | .and => !a.isTrue
  | _ => false

mutual
def Expr.eval (s : Scope) : Expr → Except TemplateError Value
  | .const v => .ok v
  | .name n => .ok (s.lookup n)
  | .field e n => do (← e.eval s).field n
  | .item e key => do
    let v ← e.eval s
    v.item (← key.eval s)
  | .list items => (evalItems s items).map .list
  | .map members => (evalMembers s members).map .ofMembers
  | .not e => do return .bool !(← e.eval s).isTrue
  | .negate e => do (← e.eval s).negate
  | .binary op a b => do
    let v ← a.eval s
    if op.decidedBy v then return v else applyOperator op v (← b.eval s)
  | .ifElse test yes no => do
    if (← test.eval s).isTrue then yes.eval s else evalElse s no
  | .filter n e arguments => do
    let v ← e.eval s
    applyFilter n v (← evalItems s arguments)

def evalElse (s : Scope) : Option Expr → Except TemplateError Value
  | none => .ok .undefined
  | some e => e.eval s

def evalItems (s : Scope) : List Expr → Except TemplateError (List Value)
  | [] => .ok []
  | e :: es => do
    let v ← e.eval s
    return v :: (← evalItems s es)

def evalMembers (s : Scope) : List (Expr × Expr) → Except TemplateError (List (Value × Value))
  | [] => .ok []
  | (key, value) :: members => do
    let k ← key.eval s
    let v ← value.eval s
    return (k, v) :: (← evalMembers s members)
end

def applyFilters (s : Scope) (filters : List (String × List Expr)) (v : Value) :
    Except TemplateError Value :=
  filters.foldlM (fun v (name, arguments) => do applyFilter name v (← evalItems s arguments)) v

def unpack (v : Value) (n : Nat) : Except TemplateError (List Value) :=
  let parts : Option (List Value) :=
    match v with
    | .list items => some items
    | .map members => some (members.map Prod.fst)
    | _ => none
  match parts with
  | some vs => if vs.length = n then .ok vs else .error .cannotUnpack
  | none => .error .cannotUnpack

mutual
def Target.store (s : Scope) (v : Value) : Target → Except TemplateError Scope
  | .name n => .ok (s.assign n v)
  | .field e _ => do
    let _ ← e.eval s
    throw .invalidOperation
  | .list targets => do storeAll s (← unpack v targets.length) targets

def storeAll (s : Scope) (vs : List Value) : List Target → Except TemplateError Scope
  | [] => .ok s
  | target :: targets =>
    match vs with
    | [] => .ok s
    | v :: vs => do storeAll (← target.store s v) vs targets
end

def loopObject (items : List Value) (i : Nat) : Value :=
  let n := items.length
  .object s!"<loop {i}/{n}>"
    [("index", .int (i + 1)), ("index0", .int i), ("first", .bool (i = 0)),
      ("last", .bool (i + 1 = n)), ("length", .int n), ("revindex", .int (n - i : Nat)),
      ("revindex0", .int (n - i - 1 : Nat)), ("depth", .int 1), ("depth0", .int 0),
      ("previtem", if i = 0 then .undefined else items[i - 1]?.getD .undefined),
      ("nextitem", items[i + 1]?.getD .undefined)]

def keptItems (target : Target) (test : Option Expr) (s : Scope) (items : List Value) :
    Except TemplateError (List Value) :=
  match test with
  | none => .ok items
  | some test => items.filterM fun v => do return (← test.eval (← target.store s v)).isTrue

abbrev Output := Except TemplateError (Scope × String)

/-- The levels that templates may be nested: a loop takes one, an embedded template ten. -/
def depthLimit : Nat := 499

def embedCost : Nat := 10

/-- Runs a template by its name, with the levels that are left; nothing if there is no such
template. -/
abbrev Embed := Nat → String → Option (Scope → Output)

def rounds (target : Target) (items : List Value) (body : Scope → Output) (s : Scope) : Output :=
  items.zipIdx.foldlM (fun (s, text) (v, i) => do
    let s ← target.store (s.assign "loop" (loopObject items i)) v
    let (s, more) ← body s
    return (s, text ++ more)) (s, "")

def firstOf (embed : Embed) (levels : Nat) (ignoreMissing : Bool) (missing : Option String)
    (s : Scope) : List Value → Output
  | [] =>
    match missing with
    | some name => if ignoreMissing then .ok (s, "") else .error (.notFound name)
    | none => .ok (s, "")
  | .text name :: names =>
    match embed levels name with
    | some run => run s
    | none => firstOf embed levels ignoreMissing (some name) s names
  | _ => .error .invalidOperation

/-- A template may be named alone or in a list of alternatives. -/
def embedded (embed : Embed) (levels : Nat) (ignoreMissing : Bool) (name : Value) (s : Scope) :
    Output :=
  let names :=
    match name with
    | .list names => names
    | .map members => members.map Prod.fst
    | name => [name]
  firstOf embed levels ignoreMissing none s names

mutual
def Node.run (embed : Embed) (levels : Nat) (s : Scope) : Node → Output
  | .text t => .ok (s, t)
  | .output e => do return (s, (← e.eval s).print)
  | .set target e => do return (← target.store s (← e.eval s), "")
  | .capture target filters body => do
    let (s, text) ← runAll embed levels s body
    return (← target.store s (← applyFilters s filters (.text text)), "")
  | .embed e ignoreMissing => do embedded embed levels ignoreMissing (← e.eval s) s
  | .ifElse test yes no => do
    if (← test.eval s).isTrue then runAll embed levels s yes else runAll embed levels s no
  | .loop target e test body ifEmpty => do
    match (← e.eval s).iterate? with
    | none => .error .invalidOperation
    | some items =>
      match levels with
      | 0 => .error .invalidOperation
      | levels + 1 =>
        let items ← keptItems target test s.push items
        let (inner, text) ← rounds target items (runBody embed levels body) s.push
        if items.isEmpty then runAll embed (levels + 1) inner.pop ifEmpty
        else return (inner.pop, text)

def runAll (embed : Embed) (levels : Nat) (s : Scope) : List Node → Output
  | [] => .ok (s, "")
  | node :: nodes => do
    let (s, text) ← node.run embed levels s
    let (s, more) ← runAll embed levels s nodes
    return (s, text ++ more)

def runBody (embed : Embed) (levels : Nat) (body : List Node) (s : Scope) : Output :=
  runAll embed levels s body
end

abbrev Library := List (String × List Node)

/-- A failure inside an embedded template is known by that only. -/
def Library.embed (library : Library) : Nat → Embed
  | 0, _, name => (Entries.find? name library).map fun _ _ => .error .invalidOperation
  | nesting + 1, levels, name =>
    (Entries.find? name library).map fun nodes s =>
      if levels < embedCost then .error .invalidOperation
      else
        match runAll (library.embed nesting) (levels - embedCost) s nodes with
        | .ok result => .ok result
        | .error _ => .error .insideInclude

def Library.render (library : Library) (name : String) (context : List (Value × Value)) :
    Except TemplateError String :=
  match Entries.find? name library with
  | none => .error (.notFound name)
  | some nodes =>
    (runAll (library.embed (depthLimit / embedCost + 1)) depthLimit (Scope.start context) nodes).map
      Prod.snd

end ApiBindings.Template
