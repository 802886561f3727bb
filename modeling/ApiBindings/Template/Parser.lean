import ApiBindings.Template.Segments

/-!
Reading templates. Operators bind, from the loosest to the tightest: `or`, `and`, `not`,
comparisons, `+`, `~`, and then the parts that follow a value. The first fault of a text is the one
that is told. Expressions, values and tags may be nested up to a limit: each takes one unit of the
`room` around it.
-/

namespace ApiBindings.Template

abbrev Reading (α : Type) := α × List Token

/-- The fault of tokens that do not go on as they have to. -/
def unexpected {α : Type} : List Token → Except TemplateError α
  | .broken e :: _ => .error e
  | _ => .error .malformed

def passSign (s : String) (tokens : List Token) : Except TemplateError (List Token) :=
  match tokens with
  | .sign t :: rest => if s = t then .ok rest else .error .malformed
  | tokens => unexpected tokens

def passWord (w : String) (tokens : List Token) : Except TemplateError (List Token) :=
  match tokens with
  | .word v :: rest => if w = v then .ok rest else .error .malformed
  | tokens => unexpected tokens

def passEnd (tokens : List Token) : Except TemplateError Unit :=
  if tokens.isEmpty then .ok () else unexpected tokens

def readName : List Token → Except TemplateError (Reading String)
  | .word w :: rest => .ok (w, rest)
  | tokens => unexpected tokens

/-- The room inside an expression, a value or a tag. -/
def inner (room : Nat) : Except TemplateError Nat :=
  match room with
  | 0 => .error .malformed
  | room + 1 => .ok room

def operator? : Nat → List Token → Option (Operator × List Token)
  | 0, .word "or" :: rest => some (.or, rest)
  | 1, .word "and" :: rest => some (.and, rest)
  | 3, .sign "==" :: rest => some (.equal, rest)
  | 3, .sign "!=" :: rest => some (.notEqual, rest)
  | 3, .word "in" :: rest => some (.isIn, rest)
  | 3, .word "not" :: .word "in" :: rest => some (.isNotIn, rest)
  | 4, .sign "+" :: rest => some (.add, rest)
  | 5, .sign "~" :: rest => some (.concat, rest)
  | _, _ => none

def constant? (word : String) : Option Value :=
  if word = "true" ∨ word = "True" then some (.bool true)
  else if word = "false" ∨ word = "False" then some (.bool false)
  else if word = "none" ∨ word = "None" then some .none
  else none

/-- Names that cannot be assigned to. -/
def isReserved (word : String) : Bool :=
  (constant? word).isSome || word = "loop" || word = "self"

/-- Texts that stand one after the other are one text. -/
def joinTexts (s : String) : List Token → String × List Token
  | .text t :: rest => joinTexts (s ++ t) rest
  | rest => (s, rest)

/-- The name of a filter, of one word or of several with points between them. -/
def readDotted (name : String) : List Token → Except TemplateError (Reading String)
  | .sign "." :: .word w :: rest => readDotted (name ++ "." ++ w) rest
  | .sign "." :: rest => unexpected rest
  | rest => .ok (name, rest)

/-- Passes over the comma between two parts. -/
def passComma (last : String) (first : Bool) (tokens : List Token) :
    Except TemplateError (List Token) :=
  match tokens with
  | .sign s :: _ => if first || s = last then .ok tokens else passSign "," tokens
  | tokens => if first then .ok tokens else unexpected tokens

mutual
/-- An expression with its conditions. Here and below each call uses up one unit of `fuel`. -/
def readExpr (room : Nat) (tokens : List Token) : Nat → Except TemplateError (Reading Expr)
  | 0 => .error .malformed
  | fuel + 1 => do readConditional (← inner room) tokens fuel
termination_by structural fuel => fuel

def readConditional (room : Nat) (tokens : List Token) : Nat → Except TemplateError (Reading Expr)
  | 0 => .error .malformed
  | fuel + 1 => do
    let (e, rest) ← readLevel room 0 tokens fuel
    readConditions room e rest fuel
termination_by structural fuel => fuel

def readConditions (room : Nat) (e : Expr) (tokens : List Token) :
    Nat → Except TemplateError (Reading Expr)
  | 0 => .error .malformed
  | fuel + 1 =>
    match tokens with
    | .word "if" :: rest => do
      let (test, rest) ← readLevel room 0 rest fuel
      match rest with
      | .word "else" :: rest =>
        let (no, rest) ← readConditional room rest fuel
        readConditions room (.ifElse test e (some no)) rest fuel
      | rest => readConditions room (.ifElse test e none) rest fuel
    | rest => .ok (e, rest)
termination_by structural fuel => fuel

def readLevel (room level : Nat) (tokens : List Token) : Nat → Except TemplateError (Reading Expr)
  | 0 => .error .malformed
  | fuel + 1 =>
    match level, tokens with
    | 6, tokens => readUnary room tokens fuel
    | 2, .word "not" :: rest => do
      let (e, rest) ← readLevel room 2 rest fuel
      return (.not e, rest)
    | level, tokens => do
      let (e, rest) ← readLevel room (level + 1) tokens fuel
      readOperators room level e rest fuel
termination_by structural fuel => fuel

def readOperators (room level : Nat) (e : Expr) (tokens : List Token) :
    Nat → Except TemplateError (Reading Expr)
  | 0 => .error .malformed
  | fuel + 1 =>
    match operator? level tokens, level, tokens with
    | some (op, rest), _, _ => do
      let (right, rest) ← readLevel room (level + 1) rest fuel
      readOperators room level (.binary op e right) rest fuel
    | none, 3, .word "not" :: rest => unexpected rest
    | none, _, tokens => .ok (e, tokens)
termination_by structural fuel => fuel

def readUnary (room : Nat) (tokens : List Token) : Nat → Except TemplateError (Reading Expr)
  | 0 => .error .malformed
  | fuel + 1 => do
    let (e, rest) ← readNegated room tokens fuel
    let (e, rest) ← readParts room e rest fuel
    readFilters room e rest fuel
termination_by structural fuel => fuel

def readNegated (room : Nat) (tokens : List Token) : Nat → Except TemplateError (Reading Expr)
  | 0 => .error .malformed
  | fuel + 1 =>
    match tokens with
    | .sign "-" :: rest => do
      let (e, rest) ← readNegated room rest fuel
      return (.negate e, rest)
    | tokens => do readPrimary (← inner room) tokens fuel
termination_by structural fuel => fuel

def readPrimary (room : Nat) (tokens : List Token) : Nat → Except TemplateError (Reading Expr)
  | 0 => .error .malformed
  | fuel + 1 =>
    match tokens with
    | .word w :: rest => .ok ((constant? w).elim (.name w) .const, rest)
    | .text s :: rest =>
      let (s, rest) := joinTexts s rest
      .ok (.const (.text s), rest)
    | .int n :: rest => .ok (.const (.int n), rest)
    | .float x :: rest => .ok (.const (.float x), rest)
    | .sign "(" :: .sign ")" :: rest => .ok (.list [], rest)
    | .sign "(" :: rest => do
      let (e, rest) ← readExpr room rest fuel
      match rest with
      | .sign "," :: rest =>
        let (items, rest) ← readItems room ")" true rest fuel
        return (.list (e :: items), rest)
      | rest => return (e, ← passSign ")" rest)
    | .sign "[" :: rest => do
      let (items, rest) ← readItems room "]" true rest fuel
      return (.list items, rest)
    | .sign "\x7b" :: rest => do
      let (members, rest) ← readMembers room true rest fuel
      return (.map members, rest)
    | tokens => unexpected tokens
termination_by structural fuel => fuel

/-- Fields and items of a value; a field may be named by a whole number. -/
def readParts (room : Nat) (e : Expr) (tokens : List Token) :
    Nat → Except TemplateError (Reading Expr)
  | 0 => .error .malformed
  | fuel + 1 =>
    match tokens with
    | .sign "." :: .int n :: rest => readParts room (.item e (.const (.int n))) rest fuel
    | .sign "." :: rest => do
      let (name, rest) ← readName rest
      readParts room (.field e name) rest fuel
    | .sign "[" :: rest => do
      let (key, rest) ← readExpr room rest fuel
      readParts room (.item e key) (← passSign "]" rest) fuel
    | rest => .ok (e, rest)
termination_by structural fuel => fuel

def readFilters (room : Nat) (e : Expr) (tokens : List Token) :
    Nat → Except TemplateError (Reading Expr)
  | 0 => .error .malformed
  | fuel + 1 =>
    match tokens with
    | .sign "|" :: rest => do
      let ((name, arguments), rest) ← readFilter room rest fuel
      readFilters room (.filter name e arguments) rest fuel
    | rest => .ok (e, rest)
termination_by structural fuel => fuel

def readFilter (room : Nat) (tokens : List Token) :
    Nat → Except TemplateError (Reading (String × List Expr))
  | 0 => .error .malformed
  | fuel + 1 => do
    let (word, rest) ← readName tokens
    let (name, rest) ← readDotted word rest
    match rest with
    | .sign "(" :: rest =>
      let (arguments, rest) ← readItems room ")" true rest fuel
      return ((name, arguments), rest)
    | rest => return ((name, []), rest)
termination_by structural fuel => fuel

def readItems (room : Nat) (last : String) (first : Bool) (tokens : List Token) :
    Nat → Except TemplateError (Reading (List Expr))
  | 0 => .error .malformed
  | fuel + 1 => do
    let tokens ← passComma last first tokens
    match passSign last tokens with
    | .ok rest => return ([], rest)
    | .error _ =>
      let (e, rest) ← readExpr room tokens fuel
      let (es, rest) ← readItems room last false rest fuel
      return (e :: es, rest)
termination_by structural fuel => fuel

def readMembers (room : Nat) (first : Bool) (tokens : List Token) :
    Nat → Except TemplateError (Reading (List (Expr × Expr)))
  | 0 => .error .malformed
  | fuel + 1 => do
    let tokens ← passComma "\x7d" first tokens
    match passSign "\x7d" tokens with
    | .ok rest => return ([], rest)
    | .error _ =>
      let (key, rest) ← readExpr room tokens fuel
      let (value, rest) ← readExpr room (← passSign ":" rest) fuel
      let (members, rest) ← readMembers room false rest fuel
      return ((key, value) :: members, rest)
termination_by structural fuel => fuel
end

/-- Enough for any expression of these tokens. -/
def exprFuel (tokens : List Token) : Nat := 16 * tokens.length + 16

def readWhole (room : Nat) (tokens : List Token) : Except TemplateError Expr := do
  let (e, rest) ← readExpr room tokens (exprFuel tokens)
  passEnd rest
  return e

def readFree (tokens : List Token) : Except TemplateError (Reading String) := do
  let (name, rest) ← readName tokens
  if isReserved name then throw .malformed
  return (name, rest)

mutual
def readTargets (tokens : List Token) : Nat → Except TemplateError (Reading Target)
  | 0 => .error .malformed
  | fuel + 1 => do
    let (targets, isList, rest) ← readTargetList tokens fuel
    match targets, isList with
    | [target], false => return (target, rest)
    | targets, _ => return (.list targets, rest)

def readTargetList (tokens : List Token) :
    Nat → Except TemplateError (List Target × Bool × List Token)
  | 0 => .error .malformed
  | fuel + 1 =>
    match tokens with
    | [] => .ok ([], false, [])
    | .word "in" :: _ => .ok ([], false, tokens)
    | .sign ")" :: _ => .ok ([], false, tokens)
    | tokens => do
      let (target, rest) ←
        match tokens with
        | .sign "(" :: rest => do
          let (target, rest) ← readTargets rest fuel
          pure (target, ← passSign ")" rest)
        | tokens => do
          let (name, rest) ← readFree tokens
          pure (Target.name name, rest)
      match rest with
      | .sign "," :: rest =>
        let (targets, _, rest) ← readTargetList rest fuel
        return (target :: targets, true, rest)
      | rest => return ([target], false, rest)
end

def readFieldTarget (e : Expr) (n : String) : List Token → Except TemplateError (Reading Target)
  | .sign "." :: .word m :: rest => readFieldTarget (.field e n) m rest
  | .sign "." :: rest => unexpected rest
  | rest => .ok (.field e n, rest)

def readTarget (tokens : List Token) : Except TemplateError (Reading Target) := do
  let (name, rest) ← readFree tokens
  match rest with
  | .sign "." :: rest =>
    let (n, rest) ← readName rest
    readFieldTarget (.name name) n rest
  | rest => return (.name name, rest)

/-- Filters with bars between them, up to the end of the tag. -/
def readFilterChain (room : Nat) (tokens : List Token) :
    Nat → Except TemplateError (List (String × List Expr))
  | 0 => .error .malformed
  | fuel + 1 => do
    let (filter, rest) ← readFilter room tokens fuel
    if rest.isEmpty then return [filter]
    else return filter :: (← readFilterChain room (← passSign "|" rest) fuel)

/-- What is assigned: a value, or the text up to an end tag after some filters. -/
inductive Assigned
  | value (e : Expr)
  | text (filters : List (String × List Expr))

def readValue (room : Nat) (tokens : List Token) : Except TemplateError Assigned := do
  return .value (← readWhole room (← passSign "=" tokens))

def readAssignment (room : Nat) (tokens : List Token) :
    Except TemplateError (Target × Assigned) :=
  match tokens with
  | .sign "(" :: rest => do
    let (target, rest) ← readTargets rest (exprFuel rest)
    return (target, ← readValue room (← passSign ")" rest))
  | tokens => do
    let (target, rest) ← readTarget tokens
    match rest with
    | [] => return (target, .text [])
    | .sign "|" :: rest =>
      return (target, .text (← readFilterChain room rest (exprFuel rest)))
    | rest => return (target, ← readValue room rest)

def readLoopTest (room : Nat) : List Token → Except TemplateError (Reading (Option Expr))
  | .word "if" :: rest => do
    let (test, rest) ← readExpr room rest (exprFuel rest)
    return (some test, rest)
  | rest => .ok (none, rest)

/-- The targets of a loop, what it goes through, and its condition. -/
def readLoopHead (room : Nat) (tokens : List Token) :
    Except TemplateError (Target × Expr × Option Expr) := do
  let (target, rest) ← readTargets tokens (exprFuel tokens)
  let rest ← passWord "in" rest
  let (e, rest) ← readLevel room 0 rest (exprFuel rest)
  let (test, rest) ← readLoopTest room rest
  match rest with
  | .word "recursive" :: rest => passEnd rest
  | rest => passEnd rest
  return (target, e, test)

/-- The words that tell whether values are shared, which they always are. -/
def passSharing : List Token → Except TemplateError (List Token)
  | .word "with" :: rest => passWord "context" rest
  | .word "without" :: rest => passWord "context" rest
  | rest => .ok rest

def readEmbed (room : Nat) (tokens : List Token) : Except TemplateError Node := do
  let (e, rest) ← readExpr room tokens (exprFuel tokens)
  match ← passSharing rest with
  | .word "ignore" :: rest =>
    passEnd (← passSharing (← passWord "missing" rest))
    return .embed e true
  | rest =>
    passEnd rest
    return .embed e false

/-- How a group of nodes ends: with the template, or with a tag of this word and these tokens. -/
abbrev Ending := Option (String × List Token)

def passEnding (word : String) : Ending → Except TemplateError Unit
  | some (w, tokens) => if w = word then passEnd tokens else .error .malformed
  | none => .error .malformed

mutual
/-- Nodes up to the end of the template or to a tag with one of the words. -/
def readNodes (room : Nat) (words : List String) (segments : List Segment) :
    Nat → Except TemplateError (List Node × Ending × List Segment)
  | 0 => .error .malformed
  | fuel + 1 =>
    match segments with
    | [] => .ok ([], none, [])
    | .broken e :: _ => .error e
    | .text s :: rest => do
      let (nodes, ending, rest) ← readNodes room words rest fuel
      return (.text s :: nodes, ending, rest)
    | .output tokens :: rest => do
      let e ← readWhole room tokens
      let (nodes, ending, rest) ← readNodes room words rest fuel
      return (.output e :: nodes, ending, rest)
    | .block tokens :: rest => do
      let (word, tokens) ← readName tokens
      if words.contains word then return ([], some (word, tokens), rest)
      else
        let (node, rest) ← readTag (← inner room) word tokens rest fuel
        let (nodes, ending, rest) ← readNodes room words rest fuel
        return (node :: nodes, ending, rest)
termination_by structural fuel => fuel

def readBody (room : Nat) (word : String) (segments : List Segment) :
    Nat → Except TemplateError (List Node × List Segment)
  | 0 => .error .malformed
  | fuel + 1 => do
    let (nodes, ending, rest) ← readNodes room [word] segments fuel
    passEnding word ending
    return (nodes, rest)
termination_by structural fuel => fuel

def readTag (room : Nat) (word : String) (tokens : List Token) (segments : List Segment) :
    Nat → Except TemplateError (Node × List Segment)
  | 0 => .error .malformed
  | fuel + 1 =>
    match word with
    | "if" => readIfElse room tokens segments fuel
    | "for" => readLoop room tokens segments fuel
    | "set" => do
      match ← readAssignment room tokens with
      | (target, .value e) => return (.set target e, segments)
      | (target, .text filters) =>
        let (body, rest) ← readBody room "endset" segments fuel
        return (.capture target filters body, rest)
    | "include" => do return (← readEmbed room tokens, segments)
    | _ => .error .malformed
termination_by structural fuel => fuel

def readIfElse (room : Nat) (tokens : List Token) (segments : List Segment) :
    Nat → Except TemplateError (Node × List Segment)
  | 0 => .error .malformed
  | fuel + 1 => do
    let test ← readWhole room tokens
    let (yes, ending, rest) ← readNodes room ["elif", "else", "endif"] segments fuel
    match ending with
    | some ("elif", tokens) =>
      let (no, rest) ← readIfElse room tokens rest fuel
      return (.ifElse test yes [no], rest)
    | some ("else", tokens) =>
      passEnd tokens
      let (no, rest) ← readBody room "endif" rest fuel
      return (.ifElse test yes no, rest)
    | ending =>
      passEnding "endif" ending
      return (.ifElse test yes [], rest)
termination_by structural fuel => fuel

def readLoop (room : Nat) (tokens : List Token) (segments : List Segment) :
    Nat → Except TemplateError (Node × List Segment)
  | 0 => .error .malformed
  | fuel + 1 => do
    let (target, e, test) ← readLoopHead room tokens
    let (body, ending, rest) ← readNodes room ["else", "endfor"] segments fuel
    match ending with
    | some ("else", tokens) =>
      passEnd tokens
      let (ifEmpty, rest) ← readBody room "endfor" rest fuel
      return (.loop target e test body ifEmpty, rest)
    | ending =>
      passEnding "endfor" ending
      return (.loop target e test body [], rest)
termination_by structural fuel => fuel
end

/-- How deep expressions, values and tags may be nested. -/
def nestingLimit : Nat := 150

def parse (source : String) : Except TemplateError (List Node) := do
  let segments := segments source
  let (nodes, _) ← readNodes nestingLimit [] segments (4 * segments.length + 4)
  return nodes

end ApiBindings.Template
