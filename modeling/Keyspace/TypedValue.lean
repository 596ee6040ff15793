import Keyspace.Document
import Keyspace.Json.Printer
import Keyspace.Text.Numeral

/-!
Typed values: JSON in which every value is wrapped in an object whose only member names its type.

`encode` wraps a JSON value and `decode` unwraps one. Integers travel as decimal text and are signed
64-bit; a greater one becomes a double. Types without a JSON counterpart are read as the closest
shape: times, references and bytes as text, points as objects.
-/

set_option autoImplicit false

namespace Keyspace.TypedValue

inductive Kind where
  | null
  | boolean
  | integer
  | double
  | string
  | timestamp
  | reference
  | bytes
  | geoPoint
  | array
  | map
  deriving DecidableEq, Repr

namespace Kind

def all : List Kind :=
  [null, boolean, integer, double, string, timestamp, reference, bytes, geoPoint, array, map]

def tag : Kind → String
  | null => "nullValue"
  | boolean => "booleanValue"
  | integer => "integerValue"
  | double => "doubleValue"
  | string => "stringValue"
  | timestamp => "timestampValue"
  | reference => "referenceValue"
  | bytes => "bytesValue"
  | geoPoint => "geoPointValue"
  | array => "arrayValue"
  | map => "mapValue"

def ofTag? (tag : String) : Option Kind := all.find? fun kind => kind.tag == tag

theorem ofTag?_tag (kind : Kind) : ofTag? kind.tag = some kind := by cases kind <;> rfl

end Kind

def typed (kind : Kind) (payload : Json) : Json := .obj [(kind.tag, payload)]

/-- A number as a typed value. A natural number beyond the signed range is rounded to a double. -/
def encodeNumber (n : Json.Number) : Json :=
  match n.int64? with
  | some i => typed .integer (.str (toString i))
  | none =>
    match n with
    | .natural m =>
      typed .double (.num (.float ((Binary64.ofNat? m.toNat).getD (Binary64.zero false))))
    | n => typed .double (.num n)

mutual

def encode : Json → Json
  | .null => typed .null .null
  | .bool b => typed .boolean (.bool b)
  | .num n => encodeNumber n
  | .str s => typed .string (.str s)
  | .arr [] => typed .array (.obj [])
  | .arr (x :: xs) => typed .array (.obj [("values", .arr (encode x :: encodeItems xs))])
  | .obj ms => typed .map (.obj [("fields", .obj (encodeMembers ms))])

def encodeItems : List Json → List Json
  | [] => []
  | x :: xs => encode x :: encodeItems xs

def encodeMembers : List (String × Json) → List (String × Json)
  | [] => []
  | (k, x) :: ms => (k, encode x) :: encodeMembers ms

end

def encodeFields (doc : SortedMap Json) : SortedMap Json := doc.map encode

/-- Why a JSON value is not a typed value. -/
inductive DecodeError where
  | notTyped (value : Json)
  | malformed (tag : String) (payload : Json)
  | unsupported (tag : String)
  deriving DecidableEq

def DecodeError.message : DecodeError → String
  | notTyped value => "not a Firestore value: " ++ value.compact
  | malformed tag payload => "malformed Firestore " ++ tag ++ ": " ++ payload.compact
  | unsupported tag => "unsupported Firestore value type '" ++ tag ++ "'"

def DecodeError.toStoreError (e : DecodeError) : StoreError := .serialization e.message

def int64OfText? (s : String) : Option Int :=
  let value : Option Int := match s.toList with
    | '-' :: ds => (Text.numeral? ds).map fun n => -(n : Int)
    | '+' :: ds => (Text.numeral? ds).map fun n => (n : Int)
    | ds => (Text.numeral? ds).map fun n => (n : Int)
  value.filter fun i => -2 ^ 63 ≤ i ∧ i < 2 ^ 63

def integer? : Json → Option Int
  | .str s => int64OfText? s
  | .num n => n.int64?
  | _ => none

/-- A value without values inside: what its payload stands for, or nothing when it is malformed. A
double may be spelled as a text when it is no number; it has no JSON form then. -/
def scalar? : Kind → Json → Option Json
  | .null, _ => some .null
  | .boolean, .bool b => some (.bool b)
  | .integer, payload => (integer? payload).bind fun i => (Json.Number.ofInt? i).map .num
  | .double, .num n => some (.num n)
  | .double, .str _ => some .null
  | .string, .str s | .timestamp, .str s | .reference, .str s | .bytes, .str s => some (.str s)
  | .geoPoint, payload => some <| .obj
      [("latitude", (payload.member? "latitude").getD .null),
        ("longitude", (payload.member? "longitude").getD .null)]
  | _, _ => none

mutual

def decode : Json → Except DecodeError Json
  | .obj [(tag, payload)] =>
    match Kind.ofTag? tag with
    | none => .error (.unsupported tag)
    | some .array => (decodeArray payload).map .arr
    | some .map => (decodeMap payload).map .obj
    | some kind =>
      match scalar? kind payload with
      | some v => .ok v
      | none => .error (.malformed tag payload)
  | v => .error (.notTyped v)

/-- The items of an array value; none where the payload has no list of them. -/
def decodeArray : Json → Except DecodeError (List Json)
  | .obj members => decodeValues (.obj members) members
  | _ => .ok []

def decodeValues (payload : Json) : List (String × Json) → Except DecodeError (List Json)
  | [] => .ok []
  | (name, v) :: rest =>
    if name = "values" then
      match v with
      | .arr items => decodeItems items
      | _ => .error (.malformed Kind.array.tag payload)
    else decodeValues payload rest

def decodeItems : List Json → Except DecodeError (List Json)
  | [] => .ok []
  | x :: xs => do
    let v ← decode x
    let vs ← decodeItems xs
    return v :: vs

def decodeMap : Json → Except DecodeError (List (String × Json))
  | .obj members => decodeFieldsMember (.obj members) members
  | _ => .ok []

def decodeFieldsMember (payload : Json) :
    List (String × Json) → Except DecodeError (List (String × Json))
  | [] => .ok []
  | (name, v) :: rest =>
    if name = "fields" then
      match v with
      | .obj members => decodeMembers members
      | _ => .error (.malformed Kind.map.tag payload)
    else decodeFieldsMember payload rest

def decodeMembers : List (String × Json) → Except DecodeError (List (String × Json))
  | [] => .ok []
  | (k, x) :: ms => do
    let v ← decode x
    let vs ← decodeMembers ms
    return (k, v) :: vs

end

def decodeFields (fields : SortedMap Json) : Except DecodeError Document :=
  (decodeMembers fields.entries).map SortedMap.ofList

end Keyspace.TypedValue
