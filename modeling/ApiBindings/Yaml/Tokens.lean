import ApiBindings.Yaml.Scalar

/-!
Cutting a YAML text into tokens. A key on one line is only known by the colon after it, so the place
of every possible key is remembered, and the tokens that open it are put before it afterwards.
-/

namespace ApiBindings.Yaml

/-- What has to be put before a token: the mark of a key, or that mark after the start of a
mapping. -/
inductive Opening
  | none
  | key
  | mapping
  deriving DecidableEq

/-- A token that may turn out to start a key. -/
structure Candidate where
  required : Bool
  number : Nat
  index : Nat
  line : Nat
  column : Nat

/-- `candidates` holds one entry for each level of flow collections around the place, and one for
the block around them; the innermost comes first. -/
structure Scanner where
  place : Position
  indent : Int
  outer : List Int
  keyAllowed : Bool
  candidate : Option Candidate
  candidates : List (Option Candidate)
  tokens : Array (Opening × Token)

namespace Scanner

def start (cs : List Char) : Scanner := ⟨.start cs, -1, [], true, none, [], #[]⟩

def inFlow (s : Scanner) : Bool := !s.candidates.isEmpty

def push (s : Scanner) (t : Token) : Scanner := { s with tokens := s.tokens.push (.none, t) }

def pushAt (s : Scanner) (t : Token) (p : Position) : Scanner := { s.push t with place := p }

/-- Passes over blanks, comments and line breaks. A tab may not stand before a possible key. -/
def skipToToken (s : Scanner) : Nat → Scanner
  | 0 => s
  | fuel + 1 =>
    let p := s.place.skipWhile fun c => c = ' ' || ((s.inFlow || !s.keyAllowed) && c = '\t')
    let p := if p.rest.head? = some '#' then p.skipWhile (!isBreak ·) else p
    match lineBreak? p.rest with
    | none => { s with place := p }
    | some (_, n) =>
      skipToToken { s with place := p.newline n, keyAllowed := s.keyAllowed || !s.inFlow } fuel

/-- A key stays on its line and within 1024 characters. -/
def Candidate.isStale (p : Position) (c : Candidate) : Bool :=
  c.line < p.line || c.index + 1024 < p.index

def dropStale? (p : Position) : Option Candidate → Option (Option Candidate)
  | none => some none
  | some c =>
    if Candidate.isStale p c then if c.required then none else some none else some (some c)

def dropStaleKeys? (s : Scanner) : Option Scanner := do
  let candidate ← dropStale? s.place s.candidate
  let candidates ← s.candidates.mapM (dropStale? s.place)
  return { s with candidate, candidates }

def removeKey? (s : Scanner) : Option Scanner :=
  if s.candidate.any (·.required) then none else some { s with candidate := none }

/-- Remembers that the next token may start a key. -/
def saveKey? (s : Scanner) : Option Scanner :=
  if s.keyAllowed then do
    let p := s.place
    let required := !s.inFlow && s.indent = p.column
    let s ← s.removeKey?
    return { s with candidate := some ⟨required, s.tokens.size, p.index, p.line, p.column⟩ }
  else some s

def unroll (s : Scanner) (column : Int) : Scanner :=
  if s.inFlow then s else go s s.outer
where
  go (s : Scanner) : List Int → Scanner
    | [] => s
    | i :: outer =>
      if column < s.indent then go { s.push .blockEnd with indent := i, outer } outer else s

/-- Opens a block collection if `column` is indented more than the one around it. -/
def roll (s : Scanner) (t : Token) : Scanner :=
  if !s.inFlow && s.indent < s.place.column then
    { s.push t with indent := s.place.column, outer := s.indent :: s.outer }
  else s

def endDocument? (s : Scanner) : Option Scanner :=
  (s.unroll (-1)).removeKey?.map ({ · with keyAllowed := false })

def tagHandle? (directive : Bool) (p : Position) : Option (List Char × Position) :=
  match p.rest with
  | '!' :: _ =>
    let (name, p) := (p.advance 1).takeWhile isWord
    if p.rest.head? = some '!' then some ('!' :: (name ++ ['!']), p.advance 1)
    else if directive && !name.isEmpty then none
    else some ('!' :: name, p)
  | _ => none

def isUriChar (verbatim : Bool) (c : Char) : Bool :=
  isWord c || ";/?:@&=+$.%!~*'()".toList.contains c || (verbatim && ",[]".toList.contains c)

def hexByte? : List Char → Option (Nat × List Char)
  | '%' :: a :: b :: rest => do return ((← hexDigit? a) * 16 + (← hexDigit? b), rest)
  | _ => none

def trailingBytes? (v : Nat) : Nat → List Char → Option (Nat × List Char)
  | 0, cs => some (v, cs)
  | n + 1, cs => do
    let (b, rest) ← hexByte? cs
    if b / 64 = 2 then trailingBytes? (v * 64 + b % 64) n rest else none

def uriEscape? (cs : List Char) : Option (Char × List Char) := do
  let (b, rest) ← hexByte? cs
  let (v, rest) ←
    if b < 128 then some (b, rest)
    else if b / 32 = 6 then trailingBytes? (b % 32) 1 rest
    else if b / 16 = 14 then trailingBytes? (b % 16) 2 rest
    else if b / 8 = 30 then trailingBytes? (b % 8) 3 rest
    else none
  return (Char.ofNat v, rest)

def uriText? (verbatim : Bool) (text : List Char) (p : Position) :
    Nat → Option (List Char × Position)
  | 0 => none
  | fuel + 1 =>
    match p.rest with
    | [] => some (text.reverse, p)
    | c :: _ =>
      if c = '%' then do
        let (d, rest) ← uriEscape? p.rest
        uriText? verbatim (d :: text) (p.advance (p.rest.length - rest.length)) fuel
      else if isUriChar verbatim c then uriText? verbatim (c :: text) (p.advance 1) fuel
      else some (text.reverse, p)

def uri? (verbatim : Bool) (p : Position) : Option (List Char × Position) :=
  uriText? verbatim [] p (p.left + 1)

def tagToken? (p : Position) : Option (Token × Position) := do
  match p.rest with
  | '!' :: '<' :: _ =>
    let (suffix, p) ← uri? true (p.advance 2)
    if suffix.isEmpty || p.rest.head? ≠ some '>' then none
    else return (.tag "" (String.ofList suffix), p.advance 1)
  | _ =>
    let (handle, p) ← tagHandle? false p
    let (suffix, p) ← uri? false p
    if 1 < handle.length ∧ handle.getLast? = some '!' then
      if suffix.isEmpty then none
      else return (.tag (String.ofList handle) (String.ofList suffix), p)
    else
      match handle.tail ++ suffix with
      | [] => return (.tag "" "!", p)
      | suffix => return (.tag "!" (String.ofList suffix), p)

/-- Reads at most nine digits. -/
def versionNumber? (p : Position) : Option (Nat × Position) :=
  let (ds, p) := p.takeWhile Char.isDigit
  if ds.isEmpty ∨ 9 < ds.length then none
  else some (ds.foldl (fun n c => n * 10 + (c.toNat - 48)) 0, p)

def directive? (p : Position) : Option (Token × Position) := do
  let (name, p) := p.takeWhile isWord
  if name.isEmpty || !atBlank p.rest then none
  else
    let (token, p) ←
      if name = "YAML".toList then do
        let (major, p) ← versionNumber? (p.skipWhile isBlank)
        if p.rest.head? ≠ some '.' then none
        else
          let (minor, p) ← versionNumber? (p.advance 1)
          some (Token.version major minor, p)
      else if name = "TAG".toList then do
        let (handle, p) ← tagHandle? true (p.skipWhile isBlank)
        if !p.rest.head?.any isBlank then none
        else
          let (start, p) ← uri? true (p.skipWhile isBlank)
          if start.isEmpty || !atBlank p.rest then none
          else some (Token.tagDirective (String.ofList handle) (String.ofList start), p)
      else none
    return (token, ← p.endLine?)

def anchorName? (p : Position) : Option (String × Position) :=
  let (name, p) := p.takeWhile isWord
  if name.isEmpty then none
  else if atBlank p.rest || p.rest.head?.any ("?:,]\x7d%@\x60".toList.contains ·) then
    some (String.ofList name, p)
  else none

def flowStart? (s : Scanner) (t : Token) : Option Scanner := do
  let s ← s.saveKey?
  return { s.pushAt t (s.place.advance 1) with
    candidate := none, candidates := s.candidate :: s.candidates, keyAllowed := true }

def flowEnd? (s : Scanner) (t : Token) : Option Scanner := do
  let s ← s.removeKey?
  let s := { s.pushAt t (s.place.advance 1) with keyAllowed := false }
  match s.candidates with
  | [] => return s
  | c :: cs => return { s with candidate := c, candidates := cs }

def flowEntry? (s : Scanner) : Option Scanner := do
  let s ← s.removeKey?
  return { s.pushAt .flowEntry (s.place.advance 1) with keyAllowed := true }

def blockEntry? (s : Scanner) : Option Scanner := do
  if !s.inFlow && !s.keyAllowed then none
  else
    let s ← (s.roll .blockSequenceStart).removeKey?
    return { s.pushAt .blockEntry (s.place.advance 1) with keyAllowed := true }

def key? (s : Scanner) : Option Scanner := do
  if !s.inFlow && !s.keyAllowed then none
  else
    let s ← (s.roll .blockMappingStart).removeKey?
    return { s.pushAt .key (s.place.advance 1) with keyAllowed := !s.inFlow }

def value? (s : Scanner) : Option Scanner :=
  match s.candidate with
  | some c =>
    let opens := !s.inFlow && s.indent < c.column
    let s := { s with
      tokens := s.tokens.modify c.number fun (_, t) => (if opens then .mapping else .key, t)
      indent := if opens then c.column else s.indent
      outer := if opens then s.indent :: s.outer else s.outer
      candidate := none
      keyAllowed := false }
    some (s.pushAt .value (s.place.advance 1))
  | none =>
    if !s.inFlow && !s.keyAllowed then none
    else
      let s := s.roll .blockMappingStart
      some { s.pushAt .value (s.place.advance 1) with keyAllowed := !s.inFlow }

/-- Saves a possible key at the token that `read` finds. -/
def keyed? (s : Scanner) (read : Position → Option (Token × Position)) : Option Scanner := do
  let s ← s.saveKey?
  let (t, p) ← read s.place
  return { s.pushAt t p with keyAllowed := false }

def quoted? (single : Bool) (p : Position) : Option (Token × Position) :=
  (quotedScalar? single [] (p.advance 1) (p.left + 1)).map fun (text, p) =>
    (.scalar (if single then .single else .double) (String.ofList text.reverse), p)

def tag? (s : Scanner) : Option Scanner := do
  let s ← s.keyed? tagToken?
  let p := s.place
  if atBlank p.rest || (s.inFlow && p.rest.head? = some ',') then return s else none

def block? (s : Scanner) (folded : Bool) : Option Scanner := do
  let s ← s.removeKey?
  let (text, p) ← blockScalar? folded s.indent (s.place.advance 1)
  let style := if folded then Style.folded else Style.literal
  return { s.pushAt (.scalar style (String.ofList text)) p with keyAllowed := true }

def plain? (s : Scanner) : Option Scanner := do
  let s ← s.saveKey?
  let p := s.place
  let (text, broken, p) ←
    plainScalar? s.inFlow (s.indent + 1).toNat [] .empty p (p.left + 1)
  return { s.pushAt (.scalar .plain (String.ofList text.reverse)) p with keyAllowed := broken }

def canStartPlain (inFlow : Bool) (c : Char) (rest : List Char) : Bool :=
  if c = '-' then !rest.head?.any isBlank
  else if c = '?' || c = ':' then !inFlow && !atBlank rest
  else !(isBlank c || isBreak c || ",[]\x7b\x7d#&*!|>'\"%@\x60".toList.contains c)

/-- Takes the next token; nothing is left to do at the end of the text. -/
def next? (s : Scanner) : Option (Scanner × Bool) := do
  let s ← (s.skipToToken (s.place.left + 1)).dropStaleKeys?
  let s := s.unroll s.place.column
  let p := s.place
  let go (s : Option Scanner) : Option (Scanner × Bool) := s.map (·, true)
  match p.rest with
  | [] => return ((← s.endDocument?), false)
  | c :: rest =>
    if p.column = 0 ∧ c = '%' then
      let s ← s.endDocument?
      let (t, p) ← directive? (p.advance 1)
      return (s.pushAt t p, true)
    else if p.atDocumentMark then
      let s ← s.endDocument?
      return (s.pushAt (if c = '-' then .documentStart else .documentEnd) (p.advance 3), true)
    else if c = '[' then go (s.flowStart? .flowSequenceStart)
    else if c = '\x7b' then go (s.flowStart? .flowMappingStart)
    else if c = ']' then go (s.flowEnd? .flowSequenceEnd)
    else if c = '\x7d' then go (s.flowEnd? .flowMappingEnd)
    else if c = ',' then go s.flowEntry?
    else if c = '-' ∧ atBlank rest then go s.blockEntry?
    else if c = '?' ∧ (s.inFlow ∨ atBlank rest) then go s.key?
    else if c = ':' ∧ (s.inFlow ∨ atBlank rest) then go s.value?
    else if c = '*' then
      go (s.keyed? fun p => (anchorName? (p.advance 1)).map fun (n, p) => (.alias n, p))
    else if c = '&' then
      go (s.keyed? fun p => (anchorName? (p.advance 1)).map fun (n, p) => (.anchor n, p))
    else if c = '!' then go s.tag?
    else if c = '|' ∧ !s.inFlow then go (s.block? false)
    else if c = '>' ∧ !s.inFlow then go (s.block? true)
    else if c = '\'' then go (s.keyed? (quoted? true))
    else if c = '"' then go (s.keyed? (quoted? false))
    else if canStartPlain s.inFlow c rest then go s.plain?
    else none

def run? (s : Scanner) : Nat → Option Scanner
  | 0 => none
  | fuel + 1 => do
    let (s, more) ← s.next?
    if more then run? s fuel else return s

end Scanner

def Opening.before : Opening → List Token
  | .none => []
  | .key => [.key]
  | .mapping => [.blockMappingStart, .key]

/-- A byte order mark may stand at the start. -/
def tokens? (cs : List Char) : Option (List Token) :=
  if cs.all isAllowed then do
    let cs := if cs.head? = some '\ufeff' then cs.tail else cs
    let s := Scanner.start cs
    let s := if cs.head? = some '\ufeff' then { s with place := s.place.advance 1 } else s
    let s ← s.run? (cs.length + 2)
    return s.tokens.toList.flatMap fun (opening, t) => opening.before ++ [t]
  else none

end ApiBindings.Yaml
