import ApiBindings.Document.Verb
import ApiBindings.Text.Quoted
import ApiBindings.Text.Words

/-!
The names that generated code gives to operations, parameters and types.
-/

namespace ApiBindings.Naming

def identifierChar (c : Char) : Char :=
  if c = '.' ∨ c = '-' ∨ c = '\x7b' ∨ c = '\x7d' then '_' else c

/-- Points, dashes and braces become underscores. -/
def identifier (raw : String) : String := String.ofList (raw.toList.map identifierChar)

def camelCase (raw : String) : String := String.ofList (Text.lowerCamel raw.toList)

/-- Different names may have the same type name. -/
def typeName (raw : String) : String :=
  String.ofList (Text.capitalizeFirst (Text.lowerCamel (raw.toList.map identifierChar)))

/-- A placeholder for `id` in a path becomes `byId`. -/
def segmentWords (segment : List Char) : List Char :=
  match (Text.dropPrefix? ['\x7b'] segment).bind (Text.dropSuffix? ['\x7d']) with
  | some name => 'b' :: 'y' :: Text.capitalizeFirst name
  | none => segment

def pathWords (path : List Char) : List Char :=
  let path := (Text.dropSuffix? ['/'] path).getD path
  let path := (Text.dropPrefix? ['/'] path).getD path
  Text.joinWith ['-'] ((Text.splitAt '/' path).map segmentWords)

/-- The name of an operation that has none of its own, such as `getUsersByUserId`. -/
def methodName (verb : Verb) (path : String) : String :=
  let start := verb.name.toList.map Char.toLower
  if path = "/" ∨ path = "" then String.ofList start
  else
    String.ofList (start ++ Text.capitalizeFirst (Text.lowerCamel (pathWords path.toList)))

def withoutContainers (typeText : String) : String :=
  String.ofList (Text.eraseAll "Array<".toList (typeText.toList.filter (· ≠ '>')))

/-- Types that the generated code need not import. -/
def builtinTypes : List String := ["object", "void", "string", "number", "boolean", "any"]

def isBuiltinType (name : String) : Bool := builtinTypes.contains name

def isKeyStart (c : Char) : Bool := c.isAlpha || c = '_' || c = '$'

def isKeyChar (c : Char) : Bool := c.isAlphanum || c = '_' || c = '$'

def isBareKey (name : List Char) : Bool :=
  name.head?.any isKeyStart && name.all isKeyChar

/-- A name that is no identifier is quoted where it stands as a key. -/
def propertyKey (name : String) : String :=
  if isBareKey name.toList then name else Text.quote name

end ApiBindings.Naming
