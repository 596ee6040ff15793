import Keyspace.Json.Access
import Keyspace.Json.Printer
import Keyspace.Text.Printability

set_option autoImplicit false

namespace Keyspace

inductive ReadError where
  | invalidType (found : Json) (expected : String)
  | invalidValue (found : Json) (expected : String)
  | invalidLength (length : Nat) (expected : String)
  | missingField (name : String)
  | unknownVariant (name : String) (known : List String)
  | invalidTimestamp (text : String)
  deriving DecidableEq

namespace Json

/-- A value as a message names it: small values are shown, others only by their kind. -/
def describe : Json → String
  | null => "null"
  | bool b => "boolean `" ++ (if b then "true" else "false") ++ "`"
  | num (.float x) => "floating point `" ++ Number.floatText x ++ "`"
  | num n => "integer `" ++ n.text ++ "`"
  | str s => "string " ++ Text.quoted s
  | arr _ => "sequence"
  | obj _ => "map"

end Json

namespace ReadError

def message : ReadError → String
  | invalidType found expected => "invalid type: " ++ found.describe ++ ", expected " ++ expected
  | invalidValue found expected => "invalid value: " ++ found.describe ++ ", expected " ++ expected
  | invalidLength length expected =>
    "invalid length " ++ toString length ++ ", expected " ++ expected
  | missingField name => "missing field `" ++ name ++ "`"
  | unknownVariant name known =>
    "unknown variant `" ++ name ++ "`, expected one of "
      ++ ", ".intercalate (known.map fun v => "`" ++ v ++ "`")
  | invalidTimestamp text => "invalid timestamp '" ++ text ++ "'"

end ReadError

namespace Json

def readAny (v : Json) : Except ReadError Json := .ok v

def readText : Json → Except ReadError String
  | str s => .ok s
  | v => .error (.invalidType v "a string")

def readBool : Json → Except ReadError Bool
  | bool b => .ok b
  | v => .error (.invalidType v "a boolean")

/-- A natural number below 2^64. A negative integer has the right type, but not a right value. -/
def readNat64 : Json → Except ReadError UInt64
  | num (.natural n) => .ok n
  | num (.negative n) => .error (.invalidValue (num (.negative n)) "u64")
  | v => .error (.invalidType v "u64")

def readMap : Json → Except ReadError (SortedMap Json)
  | obj members => .ok (SortedMap.ofList members)
  | v => .error (.invalidType v "a map")

def readList {α : Type} (read : Json → Except ReadError α) : Json → Except ReadError (List α)
  | arr items => items.mapM read
  | v => .error (.invalidType v "a sequence")

def readOption {α : Type} (read : Json → Except ReadError α) : Json → Except ReadError (Option α)
  | null => .ok none
  | v => (read v).map some

end Json

end Keyspace
