/-!
What can be asked of the program.
-/

namespace ApiBindings

inductive SummaryFormat
  | yaml
  | json
  deriving DecidableEq

def SummaryFormat.name : SummaryFormat → String
  | yaml => "yaml"
  | json => "json"

def SummaryFormat.ofName? (s : String) : Option SummaryFormat := [yaml, json].find? (·.name = s)

/-- A path that `generate` does not name is the one of the configuration. -/
inductive Command
  | generate (input output : Option String)
  | validate (input : String)
  | inspect (input : String) (format : SummaryFormat)
  | init (force : Bool)
  | version
  deriving DecidableEq

end ApiBindings
