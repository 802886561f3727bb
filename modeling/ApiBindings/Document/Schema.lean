import ApiBindings.Json

/-!
Schemas, the descriptions of values in an API document.
-/

namespace ApiBindings

/-- The word under `type`. An unknown one is kept until its schema is used. -/
inductive SchemaType
  | string
  | number
  | integer
  | boolean
  | array
  | object
  | file
  | unknown (word : String)
  deriving DecidableEq

def SchemaType.ofWord (s : String) : SchemaType :=
  match s with
  | "string" => .string
  | "number" => .number
  | "integer" => .integer
  | "boolean" => .boolean
  | "array" => .array
  | "object" => .object
  | "file" => .file
  | word => .unknown word

/-- What an object may hold besides its named properties. -/
inductive Additional (σ : Type)
  | flag (allowed : Bool)
  | values (schema : σ)

/-- A schema that is written out; `σ` is the type of the schemas inside it. -/
structure SchemaBody (σ : Type) where
  type : Option SchemaType := none
  format : Option String := none
  title : Option String := none
  description : Option String := none
  default : Option Json := none
  properties : List (String × σ) := []
  required : List String := []
  additional : Option (Additional σ) := none
  items : Option σ := none
  allOf : List σ := []
  choices : List Json := []
  discriminator : Option String := none
  readOnly : Option Bool := none
  example? : Option Json := none

inductive Schema
  | reference (path : String)
  | inline (body : SchemaBody Schema)

def Schema.description : Schema → Option String
  | reference _ => none
  | inline body => body.description

inductive Primitive
  | string
  | number
  | boolean
  | any
  deriving DecidableEq

def Primitive.name : Primitive → String
  | string => "string"
  | number => "number"
  | boolean => "boolean"
  | any => "any"

inductive Shape
  | reference (path : String)
  | choice (values : List Json)
  | primitive (p : Primitive)
  | array (items : Schema)
  | map (values : Schema)
  | object (body : SchemaBody Schema)

inductive ShapeError
  | missingItems
  | unknownType (word : String)
  deriving DecidableEq

/-- Values for all keys, if a body has nothing else to tell about its members. -/
def SchemaBody.mapValues? (body : SchemaBody Schema) : Option Schema :=
  if body.properties.isEmpty && body.allOf.isEmpty then
    match body.additional with
    | some (.values schema) => some schema
    | _ => none
  else none

/-- Choices come before the type; a body without a type is an object. -/
def SchemaBody.shape (body : SchemaBody Schema) : Except ShapeError Shape :=
  if body.choices.isEmpty then
    match body.type with
    | some .string => .ok (.primitive .string)
    | some .number => .ok (.primitive .number)
    | some .integer => .ok (.primitive .number)
    | some .boolean => .ok (.primitive .boolean)
    | some .file => .ok (.primitive .any)
    | some .array =>
      match body.items with
      | some items => .ok (.array items)
      | none => .error .missingItems
    | some (.unknown word) => .error (.unknownType word)
    | some .object => .ok (body.mapValues?.elim (.object body) .map)
    | none => .ok (body.mapValues?.elim (.object body) .map)
  else .ok (.choice body.choices)

def Schema.shape : Schema → Except ShapeError Shape
  | reference path => .ok (.reference path)
  | inline body => body.shape

end ApiBindings
