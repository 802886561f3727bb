import ApiBindings.Yaml.Value

/-!
Free-form values as YAML texts, in block style. Lists stand as far left as the keys that they belong
to; empty lists and objects are written in brackets.
-/

namespace ApiBindings.Yaml

/-- Words that older readers take for truth values. -/
def oldBoolWords : List String :=
  ["y", "Y", "yes", "Yes", "YES", "n", "N", "no", "No", "NO", "true", "True", "TRUE", "false",
    "False", "FALSE", "on", "On", "ON", "off", "Off", "OFF"]

def looksTyped (s : String) : Bool :=
  oldBoolWords.contains s || isZeroPadded s.toList ||
    match plainDatum? s with
    | some (.text _) => false
    | some _ => true
    | none => true

def isPrintable (c : Char) : Bool :=
  let n := c.toNat
  n = 10 || (0x20 ≤ n && n ≤ 0x7E) || (0xA0 ≤ n && n ≠ 0xFEFF && n ≠ 0xFFFE && n ≠ 0xFFFF)

def isFirstIndicator (c : Char) : Bool :=
  "#,[]\x7b\x7d&*!|>'\"%@\x60".toList.contains c

/-- Whether the characters after the first one could be taken for a comment or a key. `before` tells
whether a blank stands before them. -/
def hasIndicator (before : Bool) : List Char → Bool
  | [] => false
  | c :: rest =>
    (c = ':' && atBlank rest) || (c = '#' && before) ||
      hasIndicator (isBlank c || isBreak c) rest

def startsWithMark (cs : List Char) : Bool :=
  match cs with
  | '-' :: '-' :: '-' :: _ => true
  | '.' :: '.' :: '.' :: _ => true
  | _ => false

def hasPair (a b : Char → Bool) : List Char → Bool
  | c :: d :: rest => (a c && b d) || hasPair a b (d :: rest)
  | _ => false

def isSpace (c : Char) : Bool := c = ' '

/-- Texts that no quotes and no block can hold as they are. -/
def needsEscapes (cs : List Char) : Bool :=
  !cs.all isPrintable || hasPair isSpace isBreak cs

def allowsPlain (cs : List Char) : Bool :=
  match cs with
  | [] => true
  | c :: rest =>
    let last := cs.getLast?
    !(startsWithMark cs || isFirstIndicator c ||
      ((c = '?' || c = ':' || c = '-') && atBlank rest) ||
      hasIndicator (isBlank c) rest || isSpace c || last.any isSpace || cs.any isBreak ||
      needsEscapes cs)

def allowsSingle (cs : List Char) : Bool := !(hasPair isBreak isSpace cs || needsEscapes cs)

def allowsBlock (cs : List Char) : Bool := !(cs.getLast?.any isSpace || needsEscapes cs)

def hexDigits (width n : Nat) : List Char :=
  let ds := (Nat.toDigits 16 n).map Char.toUpper
  List.replicate (width - ds.length) '0' ++ ds

def escapeChar (c : Char) : List Char :=
  if isPrintable c && !isBreak c && c ≠ '"' && c ≠ '\\' then [c]
  else
    let n := c.toNat
    '\\' ::
      match n with
      | 0x00 => ['0']
      | 0x07 => ['a']
      | 0x08 => ['b']
      | 0x09 => ['t']
      | 0x0A => ['n']
      | 0x0B => ['v']
      | 0x0C => ['f']
      | 0x0D => ['r']
      | 0x1B => ['e']
      | 0x22 => ['"']
      | 0x5C => ['\\']
      | 0x85 => ['N']
      | 0xA0 => ['_']
      | 0x2028 => ['L']
      | 0x2029 => ['P']
      | n =>
        if n ≤ 0xFF then 'x' :: hexDigits 2 n
        else if n ≤ 0xFFFF then 'u' :: hexDigits 4 n
        else 'U' :: hexDigits 8 n

def doubleQuoted (cs : List Char) : List Char := '"' :: (cs.flatMap escapeChar ++ ['"'])

/-- A quote is written twice. What follows line breaks is indented. -/
def singleQuotedRest (indent : Nat) (start : Bool) : List Char → List Char
  | [] => (if start then List.replicate indent ' ' else []) ++ ['\'']
  | c :: rest =>
    if isBreak c then c :: singleQuotedRest indent true rest
    else
      (if start then List.replicate indent ' ' else []) ++
        (if c = '\'' then ['\'', '\''] else [c]) ++ singleQuotedRest indent false rest

def singleQuoted (indent : Nat) (cs : List Char) : List Char :=
  '\'' :: singleQuotedRest indent false cs

/-- The signs of a block: an indentation where the text starts with white space, and what becomes of
the line breaks at its end. -/
def blockHeader (cs : List Char) : List Char :=
  let hint := if cs.head?.any (fun c => isSpace c || isBreak c) then ['2'] else []
  let chomping :=
    match cs.reverse with
    | [] => ['-']
    | [c] => if isBreak c then ['+'] else ['-']
    | c :: d :: _ => if !isBreak c then ['-'] else if isBreak d then ['+'] else []
  '|' :: (hint ++ chomping)

def blockLines (indent : Nat) (start : Bool) : List Char → List Char
  | [] => []
  | c :: rest =>
    if isBreak c then c :: blockLines indent true rest
    else (if start then List.replicate indent ' ' else []) ++ c :: blockLines indent false rest

def quotedText (indent : Nat) (cs : List Char) : List Char :=
  if allowsSingle cs then singleQuoted indent cs else doubleQuoted cs

/-- The text of a scalar, and whether it ends its last line itself. -/
def scalarText (indent : Nat) (s : String) : List Char × Bool :=
  let cs := s.toList
  if looksTyped s then (quotedText indent cs, false)
  else if cs.contains '\n' then
    if allowsBlock cs then
      (blockHeader cs ++ '\n' :: blockLines indent true cs, cs.getLast?.any isBreak)
    else (doubleQuoted cs, false)
  else if allowsPlain cs then (cs, false)
  else (quotedText indent cs, false)

def line (content : List Char × Bool) : String :=
  String.ofList (if content.2 then content.1 else content.1 ++ ['\n'])

def blanks (n : Nat) : String := String.ofList (List.replicate n ' ')

mutual
/-- A value after a key or a dash whose own indentation is `indent`, up to the end of its last
line. Objects and lists after a key start on a new line; after a dash they start at once. -/
def renderValue (indent : Nat) (afterKey : Bool) : Json → String
  | .null => " null\n"
  | .bool b => if b then " true\n" else " false\n"
  | .int n => " " ++ n.repr ++ "\n"
  | .float x => " " ++ Json.floatText x ++ "\n"
  | .string s => " " ++ line (scalarText (indent + 2) s)
  | .array [] => " []\n"
  | .object [] => " \x7b\x7d\n"
  | .array (item :: items) =>
    if afterKey then "\n" ++ renderItems indent true (item :: items)
    else " " ++ renderItems (indent + 2) false (item :: items)
  | .object (member :: members) =>
    if afterKey then "\n" ++ renderMembers (indent + 2) true (member :: members)
    else " " ++ renderMembers (indent + 2) false (member :: members)

def renderItems (indent : Nat) (newLine : Bool) : List Json → String
  | [] => ""
  | item :: items =>
    (if newLine then blanks indent else "") ++ "-" ++ renderValue indent false item ++
      renderItems indent true items

def renderMembers (indent : Nat) (newLine : Bool) : List (String × Json) → String
  | [] => ""
  | (key, value) :: members =>
    (if newLine then blanks indent else "") ++ String.ofList (scalarText 0 key).1 ++ ":" ++
      renderValue indent true value ++ renderMembers indent true members
end

def render (members : List (String × Json)) : String :=
  if members.isEmpty then "\x7b\x7d\n" else renderMembers 0 true members

end ApiBindings.Yaml
