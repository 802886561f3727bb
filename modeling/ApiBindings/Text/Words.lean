import ApiBindings.Text.Casing

/-!
Words inside an identifier and their joining as lower camel case. A word ends at every character
that is no letter or digit, before a capital that follows a small letter, and before the last
capital of a run that a small letter follows.
-/

namespace ApiBindings.Text

/-- The case of the letters read last in the current word; digits leave it as it is. -/
inductive LetterCase
  | none
  | lower
  | upper
  deriving DecidableEq

def LetterCase.after (m : LetterCase) (c : Char) : LetterCase :=
  if isLowercase c then .lower else if isUppercase c then .upper else m

/-- Splits a run of letters and digits. `word` holds the current word, its last character first. -/
def splitCase (m : LetterCase) (word : List Char) : List Char → List (List Char)
  | [] => []
  | [c] => [(c :: word).reverse]
  | c :: n :: rest =>
    if m.after c = .lower ∧ isUppercase n then
      (c :: word).reverse :: splitCase .none [] (n :: rest)
    else if m = .upper ∧ isUppercase c ∧ isLowercase n then
      word.reverse :: splitCase .none [c] (n :: rest)
    else
      splitCase (m.after c) (c :: word) (n :: rest)

/-- The maximal runs of letters and digits; `run` is the current one, reversed. -/
def splitRuns (run : List Char) : List Char → List (List Char)
  | [] => [run.reverse]
  | c :: rest =>
    if isAlphanumeric c then splitRuns (c :: run) rest else run.reverse :: splitRuns [] rest

def words (cs : List Char) : List (List Char) :=
  (splitRuns [] cs).flatMap (splitCase .none [])

def lowerWord : List Char → List Char
  | [] => []
  | [c] => if c = 'Σ' then ['ς'] else lowerChar c
  | c :: rest => lowerChar c ++ lowerWord rest

def capitalizedWord : List Char → List Char
  | [] => []
  | c :: rest => upperChar c ++ lowerWord rest

def lowerCamel (cs : List Char) : List Char :=
  match words cs with
  | [] => []
  | w :: ws => lowerWord w ++ ws.flatMap capitalizedWord

def capitalizeFirst : List Char → List Char
  | [] => []
  | c :: rest => upperChar c ++ rest

end ApiBindings.Text
