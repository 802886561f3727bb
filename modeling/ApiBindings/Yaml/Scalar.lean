import ApiBindings.Yaml.Token

/-!
The text of plain, quoted and block scalars. Line breaks inside plain and quoted scalars are folded:
one break is a blank, of several all but the first are kept.
-/

namespace ApiBindings.Yaml

open Position

/-- Blanks and line breaks between two runs of a scalar; texts are kept in reverse. -/
structure Gap where
  blanks : List Char
  broken : Bool
  first : Option Char
  more : List Char

namespace Gap

def empty : Gap := ⟨[], false, none, []⟩

/-- A line break that is escaped leaves nothing. -/
def escaped : Gap := ⟨[], true, none, []⟩

def folded (g : Gap) : List Char :=
  if g.broken then
    match g.first with
    | some '\n' => if g.more.isEmpty then [' '] else g.more
    | some c => g.more ++ [c]
    | none => g.more
  else g.blanks

/-- Reads blanks and line breaks; no tab may stand left of column `indent` on a further line. -/
def read? (indent : Nat) (g : Gap) (p : Position) : Nat → Option (Gap × Position)
  | 0 => some (g, p)
  | fuel + 1 =>
    match p.rest with
    | [] => some (g, p)
    | c :: _ =>
      if isBlank c then
        if !g.broken then read? indent { g with blanks := c :: g.blanks } (p.advance 1) fuel
        else if c = '\t' ∧ p.column < indent then none
        else read? indent g (p.advance 1) fuel
      else
        match lineBreak? p.rest with
        | none => some (g, p)
        | some (b, n) =>
          if g.broken then read? indent { g with more := b :: g.more } (p.newline n) fuel
          else read? indent ⟨[], true, some b, []⟩ (p.newline n) fuel

end Gap

def isFlowIndicator (c : Char) : Bool :=
  c = ',' || c = '[' || c = ']' || c = '\x7b' || c = '\x7d'

/-- The characters of a plain scalar up to the next blank or indicator. -/
def plainRun? (flow : Bool) : List Char → Option (List Char)
  | [] => some []
  | c :: rest =>
    if isBlank c || isBreak c then some []
    else if flow && c = ':' && rest.head?.any (fun d => isFlowIndicator d || d = '?') then none
    else if c = ':' && atBlank rest then some []
    else if flow && isFlowIndicator c then some []
    else (plainRun? flow rest).map (c :: ·)

/-- Reads on after `text`, which is kept in reverse as `g` is. Gives also whether the last gap held
a line break. -/
def plainScalar? (flow : Bool) (indent : Nat) (text : List Char) (g : Gap) (p : Position) :
    Nat → Option (List Char × Bool × Position)
  | 0 => none
  | fuel + 1 =>
    if p.atDocumentMark || p.rest.head? = some '#' then some (text, g.broken, p)
    else
      match plainRun? flow p.rest with
      | none => none
      | some run =>
        let text := if run.isEmpty then text else run.reverse ++ (g.folded ++ text)
        let g := if run.isEmpty then g else .empty
        let p := p.advance run.length
        if p.rest.isEmpty || !atBlank p.rest then some (text, g.broken, p)
        else
          match g.read? indent p (p.left + 1) with
          | none => none
          | some (g, p) =>
            if !flow && p.column < indent then some (text, g.broken, p)
            else plainScalar? flow indent text g p fuel

def hexDigit? (c : Char) : Option Nat :=
  if c.isDigit then some (c.toNat - 48)
  else if 'a' ≤ c ∧ c ≤ 'f' then some (c.toNat - 87)
  else if 'A' ≤ c ∧ c ≤ 'F' then some (c.toNat - 55)
  else none

def hexNumber? (n : Nat) (cs : List Char) : Option Nat :=
  if (cs.take n).length < n then none
  else (cs.take n).foldlM (fun v c => (hexDigit? c).map (v * 16 + ·)) 0

/-- The character of an escape, and the length of the escape after the backslash. -/
def escape? : List Char → Option (Char × Nat)
  | [] => none
  | c :: rest =>
    let code (n : Nat) : Option (Char × Nat) := do
      let v ← hexNumber? n rest
      if (0xD800 ≤ v ∧ v ≤ 0xDFFF) ∨ 0x10FFFF < v then none else some (Char.ofNat v, n + 1)
    match c with
    | '0' => some ('\x00', 1)
    | 'a' => some ('\x07', 1)
    | 'b' => some ('\x08', 1)
    | 't' => some ('\t', 1)
    | '\t' => some ('\t', 1)
    | 'n' => some ('\n', 1)
    | 'v' => some ('\x0b', 1)
    | 'f' => some ('\x0c', 1)
    | 'r' => some ('\r', 1)
    | 'e' => some ('\x1b', 1)
    | ' ' => some (' ', 1)
    | '"' => some ('"', 1)
    | '/' => some ('/', 1)
    | '\\' => some ('\\', 1)
    | 'N' => some ('\u0085', 1)
    | '_' => some ('\u00a0', 1)
    | 'L' => some ('\u2028', 1)
    | 'P' => some ('\u2029', 1)
    | 'x' => code 2
    | 'u' => code 4
    | 'U' => code 8
    | _ => none

/-- The characters of a double-quoted scalar up to the next blank, quote or escaped line break, in
reverse and before `text`. Gives also whether it stopped after an escaped line break. -/
def doubleRun? (text : List Char) (p : Position) : Nat → Option (List Char × Bool × Position)
  | 0 => none
  | fuel + 1 =>
    match p.rest with
    | [] => some (text, false, p)
    | '"' :: _ => some (text, false, p)
    | '\\' :: rest =>
      match lineBreak? rest with
      | some (_, n) => some (text, true, (p.advance 1).newline n)
      | none => do
        let (c, n) ← escape? rest
        doubleRun? (c :: text) (p.advance (n + 1)) fuel
    | c :: _ =>
      if isBlank c || isBreak c then some (text, false, p)
      else doubleRun? (c :: text) (p.advance 1) fuel

/-- The same for single quotes, where only a quote is escaped, by a second one. -/
def singleRun (text : List Char) (p : Position) : Nat → List Char × Position
  | 0 => (text, p)
  | fuel + 1 =>
    match p.rest with
    | [] => (text, p)
    | '\'' :: '\'' :: _ => singleRun ('\'' :: text) (p.advance 2) fuel
    | '\'' :: _ => (text, p)
    | c :: _ =>
      if isBlank c || isBreak c then (text, p) else singleRun (c :: text) (p.advance 1) fuel

/-- Reads on after `text`, kept in reverse, up to the closing quote. -/
def quotedScalar? (single : Bool) (text : List Char) (p : Position) :
    Nat → Option (List Char × Position)
  | 0 => none
  | fuel + 1 =>
    if p.atDocumentMark || p.rest.isEmpty then none
    else do
      let (text, escaped, p) ←
        if single then
          let (text, p) := singleRun text p (p.left + 1)
          some (text, false, p)
        else doubleRun? text p (p.left + 1)
      if p.rest.head? = some (if single then '\'' else '"') then
        return (text, p.advance 1)
      else
        let (g, p) ← Gap.read? 0 (if escaped then .escaped else .empty) p (p.left + 1)
        quotedScalar? single (g.folded ++ text) p fuel

/-- What becomes of the line breaks at the end of a block scalar. -/
inductive Chomping
  | strip
  | clip
  | keep
  deriving DecidableEq

/-- Reads the signs after the indicator of a block scalar. -/
def blockHeader? (p : Position) : Option (Chomping × Option Nat × Position) := do
  let chomping (p : Position) : Option (Chomping × Position) :=
    match p.rest with
    | '+' :: _ => some (.keep, p.advance 1)
    | '-' :: _ => some (.strip, p.advance 1)
    | _ => none
  let indentation (p : Position) : Option (Option Nat × Position) :=
    match p.rest with
    | [] => some (none, p)
    | c :: _ =>
      if c = '0' then none
      else if c.isDigit then some (some (c.toNat - 48), p.advance 1)
      else some (none, p)
  match chomping p with
  | some (mode, p) =>
    let (indent, p) ← indentation p
    return (mode, indent, p)
  | none =>
    let (indent, p) ← indentation p
    match indent with
    | none => return (.clip, none, p)
    | some _ =>
      match chomping p with
      | some (mode, p) => return (mode, indent, p)
      | none => return (.clip, indent, p)

/-- Passes over indentation and empty lines. Gives the line breaks in reverse, the greatest column
reached and the place. Without a fixed indentation all blanks are passed over. -/
def blockBreaks? (indent : Option Nat) (breaks : List Char) (greatest : Nat) (p : Position) :
    Nat → Option (List Char × Nat × Position)
  | 0 => none
  | fuel + 1 =>
    let run := (p.rest.takeWhile (· = ' ')).length
    let p := p.advance (match indent with | some n => min run (n - p.column) | none => run)
    let greatest := max greatest p.column
    if p.rest.head? = some '\t' && indent.all (p.column < ·) then none
    else
      match lineBreak? p.rest with
      | none => some (breaks, greatest, p)
      | some (b, n) => blockBreaks? indent (b :: breaks) greatest (p.newline n) fuel

/-- The break after a line, the breaks of the empty lines that follow, in reverse, and whether the
line started with a blank. -/
structure BlockState where
  text : List Char
  lineBreak : Option Char
  breaks : List Char
  blankStart : Bool

def blockLines? (folded : Bool) (indent : Nat) (s : BlockState) (p : Position) :
    Nat → Option (BlockState × Position)
  | 0 => none
  | fuel + 1 =>
    if p.column ≠ indent ∨ p.rest.isEmpty then some (s, p)
    else do
      let blank := p.rest.head?.any isBlank
      let text :=
        if folded && s.lineBreak = some '\n' && !s.blankStart && !blank then
          if s.breaks.isEmpty then ' ' :: s.text else s.text
        else s.lineBreak.toList ++ s.text
      let (run, p) := p.takeWhile (!isBreak ·)
      let text := run.reverse ++ (s.breaks ++ text)
      let lineBreak := (lineBreak? p.rest).map (·.1)
      let p := p.skipBreak
      let (breaks, _, p) ← blockBreaks? (some indent) [] 0 p (p.left + 1)
      blockLines? folded indent ⟨text, lineBreak, breaks, blank⟩ p fuel

def blockScalar? (folded : Bool) (parent : Int) (p : Position) :
    Option (List Char × Position) := do
  let (chomping, increment, p) ← blockHeader? p
  let p ← p.endLine?
  let fixed := increment.map fun n => ((if parent < 0 then 0 else parent) + n).toNat
  let (breaks, greatest, p) ← blockBreaks? fixed [] 0 p (p.left + 1)
  let indent := fixed.getD (max 1 (max greatest (parent + 1).toNat))
  let (s, p) ← blockLines? folded indent ⟨[], none, breaks, false⟩ p (p.left + 1)
  let text := if chomping = .strip then s.text else s.lineBreak.toList ++ s.text
  return ((if chomping = .keep then s.breaks ++ text else text).reverse, p)

end ApiBindings.Yaml
