import ApiBindings.Document.Operation

/-!
API documents of version 2.0.
-/

namespace ApiBindings

inductive SchemeType
  | basic
  | apiKey
  | oauth2
  deriving DecidableEq

def SchemeType.name : SchemeType → String
  | basic => "basic"
  | apiKey => "apiKey"
  | oauth2 => "oauth2"

def SchemeType.ofName? (s : String) : Option SchemeType :=
  [basic, apiKey, oauth2].find? (·.name = s)

inductive KeyLocation
  | query
  | header
  deriving DecidableEq

def KeyLocation.name : KeyLocation → String
  | query => "query"
  | header => "header"

def KeyLocation.ofName? (s : String) : Option KeyLocation := [query, header].find? (·.name = s)

structure SecurityScheme where
  type : SchemeType
  description : Option String := none
  name : Option String := none
  location : Option KeyLocation := none
  flow : Option String := none
  authorizationUrl : Option String := none
  tokenUrl : Option String := none
  scopes : OrderedMap String String := ∅

structure Info where
  title : String
  description : Option String := none
  version : String
  termsOfService : Option String := none
  deriving DecidableEq

structure Tag where
  name : String
  description : Option String := none
  deriving DecidableEq

structure Document where
  version : String
  info : Info
  host : Option String := none
  basePath : Option String := none
  schemes : List String := []
  consumes : Option (List String) := none
  produces : Option (List String) := none
  paths : OrderedMap String PathItem := ∅
  definitions : OrderedMap String Schema := ∅
  parameters : OrderedMap String Parameter := ∅
  responses : OrderedMap String Response := ∅
  securityDefinitions : Option (OrderedMap String SecurityScheme) := none
  security : Option (List Requirement) := none
  tags : List Tag := []
  externalDocs : Option ExternalDocs := none

def Document.supportedVersion : String := "2.0"

end ApiBindings
