import ApiBindings.Command.Basic
import ApiBindings.Text.Search

/-!
Commands as the words that follow the program's name. A command's options stand in any order, each
at most once.
-/

namespace ApiBindings.Command

/-- An option of a command, with two dashes before its name or one before its letter. -/
structure Switch where
  name : String
  letter : Option Char := none
  takesValue : Bool := true

def attached (rest : List Char) : Option String :=
  match rest with
  | [] => none
  | '=' :: value => some (String.ofList value)
  | value => some (String.ofList value)

/-- The value in a word that names the option, if the word has one too. -/
def Switch.value? (s : Switch) (word : String) : Option (Option String) :=
  match word.toList with
  | '-' :: '-' :: rest =>
    match Text.dropPrefix? s.name.toList rest with
    | some [] => some none
    | some ('=' :: value) => some (some (String.ofList value))
    | _ => none
  | '-' :: letter :: rest => if s.letter = some letter then some (attached rest) else none
  | _ => none

def isValue (word : String) : Bool :=
  word ≠ "" && (word = "-" || word.toList.head? ≠ some '-')

/-- The names and values of the options. Two dashes alone may end them. -/
def options? (switches : List Switch) (found : List (String × String)) :
    List String → Option (List (String × String))
  | [] => some found
  | word :: words =>
    if word = "--" then if words.isEmpty then some found else none
    else
      match switches.findSome? fun s => (s.value? word).map (s, ·) with
      | none => none
      | some (s, value) =>
        if found.any (·.1 = s.name) then none
        else
          match s.takesValue, value with
          | false, none => options? switches (found ++ [(s.name, "")]) words
          | false, some _ => none
          | true, some value =>
            if value = "" then none else options? switches (found ++ [(s.name, value)]) words
          | true, none =>
            match words with
            | value :: words =>
              if isValue value then options? switches (found ++ [(s.name, value)]) words else none
            | [] => none

def input : Switch := { name := "input", letter := some 'i' }

def output : Switch := { name := "output", letter := some 'o' }

def format : Switch := { name := "format" }

def force : Switch := { name := "force", takesValue := false }

def valueOf? (found : List (String × String)) (s : Switch) : Option String := found.lookup s.name

/-- Summaries are YAML unless another format is named. -/
def summaryFormat? (found : List (String × String)) : Option SummaryFormat :=
  match valueOf? found format with
  | none => some .yaml
  | some name => SummaryFormat.ofName? name

def isVersionFlag (word : String) : Bool :=
  word = "--version" || (Text.dropPrefix? ['-', 'V'] word.toList).isSome

def ofArguments? : List String → Option Command
  | [] => none
  | word :: words =>
    match word with
    | "generate" => do
      let found ← options? [input, output] [] words
      return .generate (valueOf? found input) (valueOf? found output)
    | "validate" => do
      let found ← options? [input] [] words
      return .validate (← valueOf? found input)
    | "inspect" => do
      let found ← options? [input, format] [] words
      return .inspect (← valueOf? found input) (← summaryFormat? found)
    | "init" => do
      let found ← options? [force] [] words
      return .init (valueOf? found force).isSome
    | word => if isVersionFlag word then some .version else none

end ApiBindings.Command
