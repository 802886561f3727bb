import ApiBindings.Text.CaseTable

/-!
Character classes and case changes. ASCII is decided without a table, so facts about ASCII text do
not depend on one.
-/

namespace ApiBindings.Text

def isAscii (c : Char) : Bool := c.toNat < 128

def inTable (t : Array Stride) (c : Char) : Bool := t.any (·.holds c.toNat)

def isAlphanumeric (c : Char) : Bool :=
  if isAscii c then c.isAlphanum else inTable CaseTable.alphanumeric c

def isUppercase (c : Char) : Bool :=
  if isAscii c then c.isUpper else inTable CaseTable.uppercase c

def isLowercase (c : Char) : Bool :=
  if isAscii c then c.isLower else inTable CaseTable.lowercase c

def isCased (c : Char) : Bool :=
  isUppercase c || isLowercase c || inTable CaseTable.titlecase c

def isCaseIgnorable (c : Char) : Bool :=
  if isAscii c then c == '\'' || c == '.' || c == ':' || c == '^' || c == '\x60'
  else inTable CaseTable.caseIgnorable c

/-- Characters that quoted output keeps as they are. -/
def isPrintable (c : Char) : Bool :=
  if isAscii c then 32 ≤ c.toNat && c.toNat < 127 else !inTable CaseTable.unprintable c

def mapCase (long : Array (Nat × List Nat)) (short : Array (Stride × Int)) (c : Char) :
    List Char :=
  match long.find? (·.1 == c.toNat) with
  | some (_, cs) => cs.map Char.ofNat
  | none =>
    match short.find? (·.1.holds c.toNat) with
    | some (_, d) => [Char.ofNat (Int.toNat (c.toNat + d))]
    | none => [c]

def upperChar (c : Char) : List Char :=
  if isAscii c then [c.toUpper] else mapCase CaseTable.toUpperLong CaseTable.toUpper c

def lowerChar (c : Char) : List Char :=
  if isAscii c then [c.toLower] else mapCase CaseTable.toLowerLong CaseTable.toLower c

def upperAll (cs : List Char) : List Char := cs.flatMap upperChar

/-- A capital sigma ends a word if a cased letter stands before it and none after it, marks and
signs between them not counted. -/
def isFinalSigma (before after : List Char) : Bool :=
  (before.dropWhile isCaseIgnorable).head?.any isCased &&
    !(after.dropWhile isCaseIgnorable).head?.any isCased

/-- `before` holds the characters already passed, the last one first. -/
def lowerFrom (before : List Char) : List Char → List Char
  | [] => []
  | c :: cs =>
    (if c == 'Σ' then [if isFinalSigma before cs then 'ς' else 'σ'] else lowerChar c) ++
      lowerFrom (c :: before) cs

def lowerAll (cs : List Char) : List Char := lowerFrom [] cs

theorem isAlphanumeric_of_ascii {c : Char} (hc : isAscii c) :
    isAlphanumeric c = c.isAlphanum := by
  simp [isAlphanumeric, hc]

theorem upperChar_of_ascii {c : Char} (hc : isAscii c) : upperChar c = [c.toUpper] := by
  simp [upperChar, hc]

theorem lowerChar_of_ascii {c : Char} (hc : isAscii c) : lowerChar c = [c.toLower] := by
  simp [lowerChar, hc]

end ApiBindings.Text
