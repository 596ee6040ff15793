set_option autoImplicit false

namespace Keyspace

inductive StoreError where
  | notFound (db id : String)
  /-- Another writer changed the document first. -/
  | conflict (db id detail : String)
  /-- The engine could not be reached, or the connection failed before an answer. -/
  | transport (detail : String)
  /-- The engine answered with an unexpected status. -/
  | backend (status : Nat) (body : String)
  | invalidSelector (detail : String)
  | serialization (detail : String)
  | config (detail : String)
  deriving DecidableEq, Repr

namespace StoreError

def isNotFound : StoreError → Bool
  | notFound .. => true
  | _ => false

def isConflict : StoreError → Bool
  | conflict .. => true
  | _ => false

def code : StoreError → String
  | notFound .. => "NOT_FOUND"
  | conflict .. => "CONFLICT"
  | transport _ => "TRANSPORT"
  | backend .. => "BACKEND"
  | invalidSelector _ => "INVALID_SELECTOR"
  | serialization _ => "SERIALIZATION"
  | config _ => "CONFIG"

def message : StoreError → String
  | notFound db id => "Document '" ++ id ++ "' not found in '" ++ db ++ "'"
  | conflict db id detail =>
    "Document update conflict on '" ++ id ++ "' in '" ++ db ++ "': " ++ detail
  | transport detail => "Backend unreachable: " ++ detail
  | backend status body => "Backend returned status " ++ toString status ++ ": " ++ body
  | invalidSelector detail => "Invalid selector: " ++ detail
  | serialization detail => "Serialization error: " ++ detail
  | config detail => "Configuration error: " ++ detail

end StoreError

end Keyspace
