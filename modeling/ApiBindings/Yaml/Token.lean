import ApiBindings.Text.Search

/-!
The tokens of a YAML text, its character classes and places in it.
-/

namespace ApiBindings.Yaml

inductive Style
  | plain
  | single
  | double
  | literal
  | folded
  deriving DecidableEq

inductive Token
  | version (major minor : Nat)
  | tagDirective (handle start : String)
  | documentStart
  | documentEnd
  | blockSequenceStart
  | blockMappingStart
  | blockEnd
  | flowSequenceStart
  | flowSequenceEnd
  | flowMappingStart
  | flowMappingEnd
  | blockEntry
  | flowEntry
  | key
  | value
  | alias (name : String)
  | anchor (name : String)
  | tag (handle suffix : String)
  | scalar (style : Style) (text : String)
  deriving DecidableEq

def isBlank (c : Char) : Bool := c = ' ' || c = '\t'

def isBreak (c : Char) : Bool :=
  c = '\n' || c = '\r' || c = '\u0085' || c = '\u2028' || c = '\u2029'

def isWord (c : Char) : Bool := c.isAlphanum || c = '_' || c = '-'

def isAllowed (c : Char) : Bool :=
  let n := c.toNat
  n = 9 || n = 10 || n = 13 || (0x20 ≤ n && n ≤ 0x7E) || n = 0x85 || (0xA0 ≤ n && n ≤ 0xD7FF) ||
    (0xE000 ≤ n && n ≤ 0xFFFD) || 0x10000 ≤ n

def atBlank : List Char → Bool
  | [] => true
  | c :: _ => isBlank c || isBreak c

def atLineEnd : List Char → Bool
  | [] => true
  | c :: _ => isBreak c

/-- The line break that comes next, as it is kept in a text, and its length. -/
def lineBreak? : List Char → Option (Char × Nat)
  | '\r' :: '\n' :: _ => some ('\n', 2)
  | c :: _ =>
    if c = '\u2028' ∨ c = '\u2029' then some (c, 1) else if isBreak c then some ('\n', 1) else none
  | [] => none

/-- A place in a text, given by what follows it; `left` is how many characters that are. -/
structure Position where
  rest : List Char
  left : Nat
  index : Nat
  line : Nat
  column : Nat
  left_eq : left = rest.length

namespace Position

def start (cs : List Char) : Position := ⟨cs, cs.length, 0, 0, 0, rfl⟩

def advance (p : Position) (n : Nat) : Position :=
  ⟨p.rest.drop n, p.left - n, p.index + n, p.line, p.column + n, by simp [p.left_eq]⟩

def newline (p : Position) (n : Nat) : Position :=
  ⟨p.rest.drop n, p.left - n, p.index + n, p.line + 1, 0, by simp [p.left_eq]⟩

def takeWhile (p : Position) (test : Char → Bool) : List Char × Position :=
  let run := p.rest.takeWhile test
  (run, p.advance run.length)

def skipWhile (p : Position) (test : Char → Bool) : Position := (p.takeWhile test).2

def skipBreak (p : Position) : Position :=
  match lineBreak? p.rest with
  | some (_, n) => p.newline n
  | none => p

/-- Passes over the rest of a line that may hold blanks and a comment only. -/
def endLine? (p : Position) : Option Position :=
  let p := p.skipWhile isBlank
  let p := if p.rest.head? = some '#' then p.skipWhile (!isBreak ·) else p
  if atLineEnd p.rest then some p.skipBreak else none

/-- Whether the line starts with the mark of a document's start or end. -/
def atDocumentMark (p : Position) : Bool :=
  p.column = 0 &&
    match p.rest with
    | '-' :: '-' :: '-' :: rest => atBlank rest
    | '.' :: '.' :: '.' :: rest => atBlank rest
    | _ => false

end Position

end ApiBindings.Yaml
