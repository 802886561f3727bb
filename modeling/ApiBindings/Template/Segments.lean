import ApiBindings.Decimal.Numeral
import ApiBindings.Template.Syntax
import ApiBindings.Text.Unit16

/-!
Cutting a template into text and tags. A tag that is no output takes the blanks before it on its
line and the line break after it away. A dash inside a tag takes away all white space on its side, a
plus sign none. Where the text is no token the parts end with the reason, so that what stands before
is read first.
-/

namespace ApiBindings.Template

def isSpace (c : Char) : Bool :=
  let n := c.toNat
  (9 ≤ n && n ≤ 13) || n = 32 || n = 0x85 || n = 0xA0 || n = 0x1680 || (0x2000 ≤ n && n ≤ 0x200A) ||
    n = 0x2028 || n = 0x2029 || n = 0x202F || n = 0x205F || n = 0x3000

def isNewline (c : Char) : Bool := c = '\n' || c = '\r'

/-- What a sign at one end of a tag asks for. -/
inductive Trim
  | default
  | all
  | nothing
  deriving DecidableEq

def trimSign : List Char → Trim × List Char
  | '-' :: rest => (.all, rest)
  | '+' :: rest => (.nothing, rest)
  | rest => (.default, rest)

def trimEnd (test : Char → Bool) (cs : List Char) : List Char :=
  (cs.reverse.dropWhile test).reverse

def lineBreak : List Char → List Char
  | '\r' :: '\n' :: _ => ['\r', '\n']
  | '\r' :: _ => ['\r']
  | '\n' :: _ => ['\n']
  | _ => []

/-- Whether a line has held white space only, after some more characters. -/
def lineBlank (before : Bool) (cs : List Char) : Bool :=
  cs.foldl (fun blank c => isNewline c || (blank && isSpace c)) before

inductive Marker
  | output
  | block
  | comment
  deriving DecidableEq

/-- The text up to the start of a tag, the kind of tag and what follows. -/
def findTag : List Char → List Char × Option (Marker × List Char)
  | [] => ([], none)
  | '\x7b' :: '\x7b' :: rest => ([], some (.output, rest))
  | '\x7b' :: '%' :: rest => ([], some (.block, rest))
  | '\x7b' :: '#' :: rest => ([], some (.comment, rest))
  | c :: rest =>
    let (before, found) := findTag rest
    (c :: before, found)

/-- Leaves out the blanks at the end of a text if they are all of its last line, which only a line
feed starts. -/
def withoutIndent (cs : List Char) : List Char :=
  let kept := trimEnd (fun c => isSpace c && !isNewline c) cs
  if kept.getLast?.all (· = '\n') then kept else cs

/-- The text before a tag as it is kept. `blank` tells of the line of the text before it. -/
def keptBefore (trim : Trim) (marker : Marker) (blank : Bool) (cs : List Char) : List Char :=
  match trim with
  | .all => trimEnd isSpace cs
  | .nothing => cs
  | .default => if marker ≠ .output && lineBlank blank cs then withoutIndent cs else cs

def leftOut (trim : Trim) (rest : List Char) : List Char :=
  match trim with
  | .default => lineBreak rest
  | .all => rest.takeWhile isSpace
  | .nothing => []

def isWordStart (c : Char) : Bool := c.isAlpha || c = '_'

def isWordChar (c : Char) : Bool := c.isAlphanum || c = '_'

/-- The text up to the closing quote as it is written, and what follows the quote. -/
def quoted? (quote : Char) : List Char → Option (List Char × List Char)
  | [] => none
  | '\\' :: c :: rest => (quoted? quote rest).map fun (cs, rest) => ('\\' :: c :: cs, rest)
  | c :: rest =>
    if c = quote then some ([], rest)
    else (quoted? quote rest).map fun (cs, rest) => (c :: cs, rest)

/-- The number that `n` hexadecimal digits stand for; the first one may be a plus sign. -/
def hexNumber? (n : Nat) (cs : List Char) : Option Nat :=
  let ds := cs.take n
  if ds.length < n then none
  else Decimal.natural? 16 (if ds.head? = some '+' then ds.tail else ds)

def isOctal (c : Char) : Bool := '0' ≤ c && c ≤ '7'

/-- What an escape stands for, and its length after the backslash. Before any other character the
backslash is itself. -/
def escape? : List Char → Option (List Text.Unit16 × Nat)
  | [] => none
  | c :: rest =>
    let char (c : Char) : Option (List Text.Unit16 × Nat) := some ([.char c], 1)
    match c with
    | '"' => char '"'
    | '\'' => char '\''
    | '\\' => char '\\'
    | '/' => char '/'
    | 'b' => char '\x08'
    | 'f' => char '\x0c'
    | 'n' => char '\n'
    | 'r' => char '\r'
    | 't' => char '\t'
    | 'u' => (hexNumber? 4 rest).map fun n => ([.ofNat n], 5)
    | 'x' => (hexNumber? 2 rest).map fun n => ([.char (Char.ofNat n)], 3)
    | c =>
      let ds := ((c :: rest).take 3).takeWhile isOctal
      if ds.isEmpty then some ([.char '\\', .char c], 1)
      else do
        let n ← Decimal.natural? 8 ds
        if n < 256 then return ([.char (Char.ofNat n)], ds.length) else none

/-- The parts of a written text. The first argument counts the characters of an escape that are
still to be passed over. -/
def unescape? : Nat → List Char → Option (List Text.Unit16)
  | _, [] => some []
  | skip + 1, _ :: rest => unescape? skip rest
  | 0, c :: rest =>
    if c = '\\' then do
      let (units, n) ← escape? rest
      return units ++ (← unescape? n rest)
    else (unescape? 0 rest).map (.char c :: ·)

def text? (written : List Char) : Option String :=
  ((unescape? 0 written).bind Text.joinUnits).map String.ofList

inductive NumberPart
  | whole
  | fraction
  | exponent
  | exponentDigits
  deriving DecidableEq

def numberText (part : NumberPart) : List Char → List Char × NumberPart
  | [] => ([], part)
  | c :: rest =>
    let next : Option NumberPart :=
      match part with
      | .whole =>
        if c = '.' then some .fraction
        else if c = 'e' ∨ c = 'E' then some .exponent
        else if c.isDigit ∨ c = '_' then some .whole
        else none
      | .fraction =>
        if c = 'e' ∨ c = 'E' then some .exponent
        else if c.isDigit ∨ c = '_' then some .fraction
        else none
      | .exponent =>
        if c.isDigit ∨ c = '+' ∨ c = '-' then some .exponentDigits
        else if c = '_' then some .exponent
        else none
      | .exponentDigits => if c.isDigit ∨ c = '_' then some .exponentDigits else none
    match next with
    | none => ([], part)
    | some part =>
      let (cs, last) := numberText part rest
      (c :: cs, last)

def markedBase? (letter : Char) : Option Nat :=
  if letter = 'x' ∨ letter = 'X' then some 16
  else if letter = 'o' ∨ letter = 'O' then some 8
  else if letter = 'b' ∨ letter = 'B' then some 2
  else none

/-- Digits of a base below 17, and underscores between them. -/
def isDigitOf (base : Nat) (c : Char) : Bool :=
  c.isDigit || c = '_' || (base = 16 && (('a' ≤ c && c ≤ 'f') || ('A' ≤ c && c ≤ 'F')))

/-- Whole numbers have at most 128 bits. -/
def wholeToken? (base : Nat) (ds : List Char) : Option Token :=
  (Decimal.natural? base (ds.filter (· ≠ '_'))).bind fun n =>
    if n < Nat.pow 2 128 then some (.int n) else none

def decimalToken? (cs : List Char) : Option (Token × List Char) :=
  let (ds, part) := numberText .whole cs
  let token :=
    if ds.getLast? = some '_' then none
    else if part = .whole then wholeToken? 10 ds
    else (Decimal.signed? (ds.filter (· ≠ '_'))).map .float
  token.map fun token => (token, cs.drop ds.length)

def numberToken? (cs : List Char) : Option (Token × List Char) :=
  match cs with
  | '0' :: letter :: rest =>
    match markedBase? letter with
    | some base =>
      let ds := rest.takeWhile (isDigitOf base)
      if ds.getLast? = some '_' then none
      else (wholeToken? base ds).map fun token => (token, rest.drop ds.length)
    | none => decimalToken? cs
  | cs => decimalToken? cs

/-- The longest sign comes first. -/
def signs : List String :=
  ["//", "**", "==", "!=", ">=", "<=", "+", "-", "*", "/", "%", ".", ",", ":", "~", "|", "=", ">",
    "<", "(", ")", "[", "]", "\x7b", "\x7d"]

def signToken? (cs : List Char) : Option (Token × List Char) :=
  signs.findSome? fun s => (Text.dropPrefix? s.toList cs).map (.sign s, ·)

def known {α : Type} : Option α → Except TemplateError α
  | some a => .ok a
  | none => .error .malformed

def token : List Char → Except TemplateError (Token × List Char)
  | [] => .error .malformed
  | c :: rest =>
    if isWordStart c then
      let run := (c :: rest).takeWhile isWordChar
      .ok (.word (String.ofList run), (c :: rest).dropWhile isWordChar)
    else if c.isDigit then known (numberToken? (c :: rest))
    else if c = '"' ∨ c = '\'' then do
      let (written, rest) ← known (quoted? c rest)
      match text? written with
      | some s => return (.text s, rest)
      | none => throw .badEscape
    else known (signToken? (c :: rest))

/-- The end of a tag with the sign before it. -/
def tagEnd? (marker : Marker) (cs : List Char) : Option (Trim × List Char) :=
  let (trim, rest) := trimSign cs
  match marker, trim, rest with
  | .output, .all, '\x7d' :: '\x7d' :: rest => some (.all, rest)
  | .output, _, '\x7d' :: '\x7d' :: rest => some (.nothing, rest)
  | .block, trim, '%' :: '\x7d' :: rest => some (trim, rest)
  | _, _, _ => none

def bracketDepth (depth : Int) : Token → Int
  | .sign s =>
    if ["(", "[", "\x7b"].contains s then depth + 1
    else if [")", "]", "\x7d"].contains s then depth - 1
    else depth
  | _ => depth

def isTokenSpace (c : Char) : Bool := c = ' ' || c = '\t' || c = '\n' || c = '\r' || c = '\x0c'

/-- The tokens of a tag, the sign at its end and what follows. A tag does not end inside brackets;
the tokens of one without an end close with the reason. -/
def tagTokens (marker : Marker) (depth : Int) :
    Nat → List Char → List Token × Option (Trim × List Char)
  | 0, _ => ([.broken .malformed], none)
  | fuel + 1, cs =>
    let cs := cs.dropWhile isTokenSpace
    match if depth = 0 then tagEnd? marker cs else none with
    | some found => ([], some found)
    | none =>
      match token cs with
      | .error e => ([.broken e], none)
      | .ok (t, rest) =>
        let (tokens, found) := tagTokens marker (bracketDepth depth t) fuel rest
        (t :: tokens, found)

/-- A tag that holds one word only, from after its start. -/
def wordTag? (word : String) (cs : List Char) : Option (Trim × List Char) := do
  let rest ← Text.dropPrefix? word.toList (cs.dropWhile isTokenSpace)
  let (trim, rest) := trimSign (rest.dropWhile isTokenSpace)
  let rest ← Text.dropPrefix? ['%', '\x7d'] rest
  return (trim, rest)

/-- The tag `endraw`: the signs at its start and its end, and what follows. -/
def rawEnd? (cs : List Char) : Option (Trim × Trim × List Char) := do
  let rest ← Text.dropPrefix? ['\x7b', '%'] cs
  let (start, rest) := trimSign rest
  let (last, rest) ← wordTag? "endraw" rest
  return (start, last, rest)

/-- What stands between the tags `raw` and `endraw`: the text, the signs at the start and at the end
of the last tag, and what follows. -/
def rawText? : List Char → Option (List Char × Trim × Trim × List Char)
  | [] => none
  | c :: rest =>
    match rawEnd? (c :: rest) with
    | some (start, last, after) => some ([], start, last, after)
    | none => (rawText? rest).map fun (cs, found) => (c :: cs, found)

def keptRaw (first last : Trim) (cs : List Char) : List Char :=
  let cs := cs.drop (leftOut first cs).length
  match last with
  | .default => withoutIndent cs
  | .all => trimEnd isSpace cs
  | .nothing => cs

def commentText? : List Char → Option (List Char × List Char)
  | [] => none
  | '#' :: '\x7d' :: rest => some ([], rest)
  | c :: rest => (commentText? rest).map fun (cs, rest) => (c :: cs, rest)

def commentTrim (cs : List Char) : Trim :=
  match cs.getLast? with
  | some '-' => .all
  | some '+' => .nothing
  | _ => .default

def Segment.ofText (cs : List Char) : List Segment :=
  if cs.isEmpty then [] else [.text (String.ofList cs)]

/-- Cuts the rest of a template, of which at most `fuel` characters are left. `blank` tells whether
its line has held white space only so far. -/
def cut (blank : Bool) : Nat → List Char → List Segment
  | 0, _ => [.broken .malformed]
  | fuel + 1, cs =>
    let (before, found) := findTag cs
    match found with
    | none => Segment.ofText before
    | some (marker, rest) =>
      let (start, rest) := trimSign rest
      let kept := Segment.ofText (keptBefore start marker blank before)
      let go (segment : List Segment) (trim : Trim) (rest : List Char) : List Segment :=
        let passed := leftOut trim rest
        kept ++ segment ++ cut (lineBlank false passed) fuel (rest.drop passed.length)
      match marker with
      | .comment =>
        match commentText? rest with
        | some (text, rest) => go [] (commentTrim text) rest
        | none => kept ++ [.broken .malformed]
      | .output =>
        match tagTokens .output 0 fuel rest with
        | (tokens, some (trim, rest)) => go [.output tokens] trim rest
        | (tokens, none) => kept ++ [.output tokens]
      | .block =>
        match wordTag? "raw" rest with
        | some (first, rest) =>
          match rawText? rest with
          | some (text, beforeEnd, last, rest) =>
            go (Segment.ofText (keptRaw first beforeEnd text)) last rest
          | none => kept ++ [.broken .malformed]
        | none =>
          match tagTokens .block 0 fuel rest with
          | (tokens, some (trim, rest)) => go [.block tokens] trim rest
          | (tokens, none) => kept ++ [.block tokens]

/-- One line break at the end of a template is not part of it. -/
def withoutLastNewline (cs : List Char) : List Char :=
  let cs := if cs.getLast? = some '\n' then cs.dropLast else cs
  if cs.getLast? = some '\r' then cs.dropLast else cs

def segments (source : String) : List Segment :=
  let cs := withoutLastNewline source.toList
  cut true (cs.length + 1) cs

end ApiBindings.Template
