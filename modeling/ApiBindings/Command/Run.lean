import ApiBindings.Bindings.Assembly
import ApiBindings.Bindings.Digest
import ApiBindings.Command.Basic
import ApiBindings.Config.Basic
import ApiBindings.Files.Basic
import ApiBindings.Rendering.Basic
import ApiBindings.Yaml.Printer

/-!
Carrying out commands. `generate` changes nothing before the text that it writes is complete;
`validate` and `inspect` only read.
-/

namespace ApiBindings

inductive CommandError
  | unreadableConfig
  | malformedConfig
  | unreadable (path : String)
  | malformed (path : String) (cause : ReadError)
  | unassembled (path : String) (cause : AssemblyError)
  | invalid (cause : AssemblyError)
  | unreadableTemplate (path : String)
  | unrendered (cause : RenderError)
  | noDirectory (path : String)
  | unwritable (path : String)
  | configPresent
  | configUnwritable

def CommandError.message : CommandError → String
  | unreadableConfig =>
    "failed to read config " ++ Config.fileName ++ ": Is a directory (os error 21)"
  | malformedConfig => "failed to parse config " ++ Config.fileName
  | unreadable path => "failed to read " ++ path
  | malformed path _ => "failed to parse " ++ path
  | unassembled path _ => "failed to build view model for " ++ path
  | invalid cause => cause.message
  | unreadableTemplate path => "failed to read template " ++ path
  | unrendered _ => "failed to render templates"
  | noDirectory path => "failed to create directory " ++ path
  | unwritable path => "failed to write " ++ path
  | configPresent => Config.fileName ++ " already exists. Use --force to overwrite."
  | configUnwritable => "Is a directory (os error 21)"

/-- What a command says: its result, the lines about how it went and why it stopped early. -/
structure Report where
  output : String := ""
  notes : List String := []
  failure : Option CommandError := none

namespace Report

def succeeded (r : Report) : Bool := r.failure.isNone

def ofError (e : CommandError) : Report := { failure := some e }

def diagnostics (r : Report) : String :=
  String.join ((r.notes ++ r.failure.toList.map ("Error: " ++ ·.message)).map (· ++ "\n"))

end Report

namespace Command

variable {m : Type → Type} [Monad m] [FileSystem m]

/-- Only files whose extension is exactly `json` are read as JSON. -/
def formatOf (path : String) : Format :=
  if Path.extension? path = some "json" then .json else .yaml

def loadConfig : ExceptT CommandError m Config := do
  if ← FileSystem.isPresent (m := m) Config.fileName then
    match ← FileSystem.read? (m := m) Config.fileName with
    | none => throw .unreadableConfig
    | some text =>
      match Config.ofText? text with
      | none => throw .malformedConfig
      | some config => return config
  else return {}

def loadDocument (path : String) : ExceptT CommandError m Document := do
  match ← FileSystem.read? (m := m) path with
  | none => throw (.unreadable path)
  | some text =>
    match (Document.ofText (formatOf path) text).result with
    | .error e => throw (.malformed path e)
    | .ok doc => return doc

def loadTemplate (path : String) : ExceptT CommandError m String := do
  match ← FileSystem.read? (m := m) path with
  | none => throw (.unreadableTemplate path)
  | some text => return text

structure Generated where
  bindings : Bindings
  text : String
  output : String

def Generated.note (g : Generated) : String :=
  "Generated " ++ g.bindings.methods.length.repr ++ " methods and " ++
    g.bindings.definitions.length.repr ++ " types → " ++ g.output

def prepare (input output : Option String) : ExceptT CommandError m Generated := do
  let config ← loadConfig
  let input := input.getD config.input
  let doc ← loadDocument input
  let bindings ←
    match (doc.bindings config.options).result with
    | .error e => throw (.unassembled input e)
    | .ok bindings => pure bindings
  let paths := config.render.templates.relativeTo (Path.parent Config.fileName)
  let templates ← paths.traverse loadTemplate
  match (bindings.render config.render.mode templates config.render.extraContext).result with
  | .error e => throw (.unrendered e)
  | .ok text => return ⟨bindings, text, output.getD config.output⟩

def Generated.save (g : Generated) : ExceptT CommandError m Unit := do
  let dir := Path.parent g.output
  unless dir = "" do
    unless ← FileSystem.createDirectories (m := m) dir do throw (.noDirectory dir)
  unless ← FileSystem.write (m := m) g.output g.text do throw (.unwritable g.output)

def generateBindings (input output : Option String) : ExceptT CommandError m Report := do
  let g ← prepare input output
  g.save
  return { notes := [g.note] }

def validationReport (doc : Document) : Report :=
  let found :=
    ["Valid Swagger " ++ doc.version ++ " document: " ++ doc.info.title,
      "  Version: " ++ doc.info.version, "  Paths: " ++ doc.paths.size.repr,
      "  Definitions: " ++ doc.definitions.size.repr]
  match (doc.bindings {}).result with
  | .error e => { notes := found, failure := some (.invalid e) }
  | .ok b =>
    { notes := found ++
        ["  Methods: " ++ b.methods.length.repr, "  Imported types: " ++ b.imports.length.repr,
          "Validation successful."] }

def checkDocument (input : String) : ExceptT CommandError m Report :=
  validationReport <$> loadDocument input

def digestText (format : SummaryFormat) (b : Bindings) : String :=
  match format with
  | .yaml => Yaml.render b.digest
  | .json => (Json.object b.digest).pretty 0 ++ "\n"

def printDigest (input : String) (format : SummaryFormat) : ExceptT CommandError m Report := do
  let doc ← loadDocument input
  let config ← loadConfig
  match (doc.bindings config.options).result with
  | .error e => throw (.invalid e)
  | .ok bindings => return { output := digestText format bindings }

def createConfig (force : Bool) : ExceptT CommandError m Report := do
  if ← FileSystem.isPresent (m := m) Config.fileName then
    unless force do throw .configPresent
  unless ← FileSystem.write (m := m) Config.fileName Config.defaultText do throw .configUnwritable
  return { notes := ["Created " ++ Config.fileName] }

def versionText : String := "stg 0.3.0\n"

def run (c : Command) : m Report := do
  let outcome ← ExceptT.run <|
    match c with
    | generate input output => generateBindings input output
    | validate input => checkDocument input
    | inspect input format => printDigest input format
    | init force => createConfig force
    | version => return { output := versionText }
  match outcome with
  | .ok report => return report
  | .error e => return .ofError e

end Command

end ApiBindings
