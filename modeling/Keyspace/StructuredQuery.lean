import Keyspace.TypedValue

set_option autoImplicit false

namespace Keyspace

namespace FieldPath

def isStart (c : Char) : Bool := c.isAlpha || c == '_'

def isRest (c : Char) : Bool := c.isAlphanum || c == '_'

def isPlain : List Char → Bool
  | [] => false
  | c :: cs => isStart c && cs.all isRest

def quotedChar (c : Char) : List Char := if c = '\\' ∨ c = '\x60' then ['\\', c] else [c]

def ofName (name : String) : String :=
  if isPlain name.toList then name
  else String.ofList ('\x60' :: name.toList.flatMap quotedChar ++ ['\x60'])

def toJson (name : String) : Json := .obj [("fieldPath", .str (ofName name))]

end FieldPath

inductive Condition where
  /-- The field is there and null. -/
  | isNull (field : String)
  /-- The field is there with a typed value. -/
  | equals (field : String) (value : Json)
  deriving DecidableEq

namespace Condition

def ofValue (field : String) : Json → Condition
  | .null => isNull field
  | v => equals field (TypedValue.encode v)

def toJson : Condition → Json
  | isNull field =>
    .obj [("unaryFilter", .obj [("field", FieldPath.toJson field), ("op", .str "IS_NULL")])]
  | equals field value =>
    .obj [("fieldFilter", .obj
      [("field", FieldPath.toJson field), ("op", .str "EQUAL"), ("value", value)])]

def allJson? : List Condition → Option Json
  | [] => none
  | [c] => some c.toJson
  | cs =>
    some (.obj [("compositeFilter", .obj
      [("filters", .arr (cs.map toJson)), ("op", .str "AND")])])

end Condition

structure StructuredQuery where
  collection : String
  conditions : List Condition
  /-- The fields to keep; without any, the documents are left whole. -/
  kept : Option (List String)
  limit : Nat
  deriving DecidableEq

namespace StructuredQuery

/-- The greatest limit that a query can have. -/
def maxLimit : Nat := 2 ^ 31 - 1

/-- The query for what a selector accepts. The id is no field of a stored document, and so is not
among the fields to keep. -/
def ofSelector (db : String) (selector : Selector) (fields : Option (List String)) (limit : Nat) :
    StructuredQuery where
  collection := db
  conditions := selector.entries.map fun e => Condition.ofValue e.1 e.2
  kept := match fields with
    | none | some [] => none
    | some names => some (names.filter (· != Document.idField))
  limit := min limit maxLimit

def toJson (q : StructuredQuery) : Json :=
  let optional (name : String) (v : Option Json) : List (String × Json) :=
    (v.map fun w => (name, w)).toList
  .obj [("structuredQuery", .obj <|
    [("from", .arr [.obj [("collectionId", .str q.collection)]]), ("limit", Json.ofCount q.limit)]
      ++ optional "select" (q.kept.map fun names =>
        .obj [("fields", .arr (names.map FieldPath.toJson))])
      ++ optional "where" (Condition.allJson? q.conditions))]

end StructuredQuery

end Keyspace
