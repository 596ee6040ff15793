import Keyspace.Json.Read
import Keyspace.StoreError

set_option autoImplicit false

namespace Keyspace.Tool

/-- What a call of a tool gives: an output, or the text of an error. -/
structure Result where
  success : Bool
  output : Json
  error : Option String
  metadata : SortedMap Json
  deriving DecidableEq

inductive ParameterType where
  | string
  | number
  | integer
  | boolean
  | array
  | object
  | any
  deriving DecidableEq, Repr

structure Parameter where
  name : String
  type : ParameterType
  description : Option String
  required : Bool
  /-- For arrays, the type of the items. -/
  items : Option ParameterType
  deriving DecidableEq, Repr

structure Metadata where
  name : String
  description : String
  parameters : List Parameter
  deriving DecidableEq, Repr

/-- Why a call of a tool, or a listing of tools, has no result at all. -/
inductive Error where
  | notFound (name : String)
  | invalidParameters (detail : String)
  | protocolError (detail : String)
  deriving DecidableEq, Repr

def Error.message : Error → String
  | notFound name => "Tool not found: " ++ name
  | invalidParameters detail => "Invalid parameters: " ++ detail
  | protocolError detail => "Protocol error: " ++ detail

namespace Result

def succeeded (output : Json) : Result := ⟨true, output, none, SortedMap.empty⟩

def failed (error : String) : Result := ⟨false, .null, some error, SortedMap.empty⟩

def ofStoreError (e : StoreError) : Result := failed ("ERR:" ++ e.code ++ ": " ++ e.message)

def withMetadata (r : Result) (name : String) (value : Json) : Result :=
  { r with metadata := r.metadata.insert name value }

def toJson (r : Result) : Json := .obj [
  ("error", Json.ofText? r.error),
  ("metadata", .obj r.metadata.entries),
  ("output", r.output),
  ("success", .bool r.success)]

end Result

def present {α : Type} (name : String) : Option α → Except ReadError α
  | some a => .ok a
  | none => .error (.missingField name)

def readMember {α : Type} (members : List (String × Json)) (name : String)
    (read : Json → Except ReadError α) : Except ReadError (Option α) :=
  match SortedMap.lookup name members with
  | some v => (read v).map some
  | none => .ok none

def readItem {α : Type} (items : List Json) (place : Nat) (expected : String)
    (read : Json → Except ReadError α) : Except ReadError α :=
  match items[place]? with
  | some v => read v
  | none => .error (.invalidLength place expected)

def checkLength (items : List Json) (count : Nat) : Except ReadError Unit :=
  if items.length ≤ count then .ok ()
  else .error (.invalidLength items.length "fewer elements in array")

def Result.ofJson : Json → Except ReadError Result
  | .obj members => do
    let error ← readMember members "error" fun v => v.readOption Json.readText
    let metadata ← readMember members "metadata" Json.readMap
    let output ← readMember members "output" Json.readAny
    let success ← readMember members "success" Json.readBool
    let success ← present "success" success
    let output ← present "output" output
    let metadata ← present "metadata" metadata
    return ⟨success, output, error.join, metadata⟩
  | .arr items => do
    let expected := "struct ToolResult with 4 elements"
    let success ← readItem items 0 expected Json.readBool
    let output ← readItem items 1 expected Json.readAny
    let error ← readItem items 2 expected fun v => v.readOption Json.readText
    let metadata ← readItem items 3 expected Json.readMap
    checkLength items 4
    return ⟨success, output, error, metadata⟩
  | v => .error (.invalidType v "struct ToolResult")

namespace ParameterType

def all : List ParameterType := [string, number, integer, boolean, array, object, any]

def name : ParameterType → String
  | string => "string"
  | number => "number"
  | integer => "integer"
  | boolean => "boolean"
  | array => "array"
  | object => "object"
  | any => "any"

def ofName (name : String) : Except ReadError ParameterType :=
  match all.find? fun t => t.name == name with
  | some t => .ok t
  | none => .error (.unknownVariant name (all.map ParameterType.name))

def toJson (t : ParameterType) : Json := .str t.name

/-- A type is written as its name, or as an object with the name as its only member and null under
it. -/
def ofJson : Json → Except ReadError ParameterType
  | .str s => ofName s
  | .obj [(s, v)] => do
    let t ← ofName s
    match v with
    | .null => return t
    | v => throw (.invalidType v "unit")
  | .obj members => .error (.invalidValue (.obj members) "map with a single key")
  | v => .error (.invalidType v "string or map")

end ParameterType

namespace Parameter

def new (name : String) (type : ParameterType) : Parameter := ⟨name, type, none, false, none⟩

def withDescription (p : Parameter) (text : String) : Parameter :=
  { p with description := some text }

def asRequired (p : Parameter) : Parameter := { p with required := true }

def withItems (p : Parameter) (type : ParameterType) : Parameter := { p with items := some type }

def toJson (p : Parameter) : Json := .obj [
  ("description", Json.ofText? p.description),
  ("items", match p.items with
    | some t => t.toJson
    | none => .null),
  ("name", .str p.name),
  ("required", .bool p.required),
  ("type", p.type.toJson)]

def ofJson : Json → Except ReadError Parameter
  | .obj members => do
    let description ← readMember members "description" fun v => v.readOption Json.readText
    let items ← readMember members "items" fun v => v.readOption ParameterType.ofJson
    let name ← readMember members "name" Json.readText
    let isRequired ← readMember members "required" Json.readBool
    let type ← readMember members "type" ParameterType.ofJson
    let name ← present "name" name
    let type ← present "type" type
    let isRequired ← present "required" isRequired
    return ⟨name, type, description.join, isRequired, items.join⟩
  | .arr values => do
    let expected := "struct ToolParameter with 5 elements"
    let name ← readItem values 0 expected Json.readText
    let type ← readItem values 1 expected ParameterType.ofJson
    let description ← readItem values 2 expected fun v => v.readOption Json.readText
    let isRequired ← readItem values 3 expected Json.readBool
    let items ← readItem values 4 expected fun v => v.readOption ParameterType.ofJson
    checkLength values 5
    return ⟨name, type, description, isRequired, items⟩
  | v => .error (.invalidType v "struct ToolParameter")

end Parameter

namespace Metadata

def new (name description : String) : Metadata := ⟨name, description, []⟩

def toJson (m : Metadata) : Json := .obj [
  ("description", .str m.description),
  ("name", .str m.name),
  ("parameters", .arr (m.parameters.map Parameter.toJson))]

def ofJson : Json → Except ReadError Metadata
  | .obj members => do
    let description ← readMember members "description" Json.readText
    let name ← readMember members "name" Json.readText
    let parameters ← readMember members "parameters" (Json.readList Parameter.ofJson)
    let name ← present "name" name
    let description ← present "description" description
    let parameters ← present "parameters" parameters
    return ⟨name, description, parameters⟩
  | .arr values => do
    let expected := "struct ToolMetadata with 3 elements"
    let name ← readItem values 0 expected Json.readText
    let description ← readItem values 1 expected Json.readText
    let parameters ← readItem values 2 expected (Json.readList Parameter.ofJson)
    checkLength values 3
    return ⟨name, description, parameters⟩
  | v => .error (.invalidType v "struct ToolMetadata")

end Metadata

end Keyspace.Tool
