import Keyspace.Engine.CouchDb
import Keyspace.Engine.Firestore
import Keyspace.Engine.Memory
import Keyspace.Text.Lowercase

set_option autoImplicit false

namespace Keyspace

inductive Backend where
  | couchDb (url user password : String)
  | firestore (project database endpoint : String) (token : Option String)
  | memory
  deriving DecidableEq, Repr

structure Config where
  backend : Backend
  /-- The time allowed to each request, in seconds. -/
  timeout : UInt64
  deriving DecidableEq, Repr

namespace Config

def default : Config := ⟨.memory, 30⟩

def seconds? (text : String) : Option UInt64 :=
  let ds := match (Text.trim text).toList with
    | '+' :: ds => ds
    | ds => ds
  (Text.numeral? ds).bind fun n => if n < 2 ^ 64 then some (UInt64.ofNat n) else none

def setting? (vars : String → Option String) (name : String) : Option String :=
  (vars name).filter fun text => !Text.allBlank text

def needed (vars : String → Option String) (name engine : String) : Except StoreError String :=
  match setting? vars name with
  | some text => .ok text
  | none => .error (.config (name ++ " is required for the " ++ engine ++ " backend"))

def timeoutOf (vars : String → Option String) : Except StoreError UInt64 :=
  match setting? vars "DATASTORE_TIMEOUT_SECS" with
  | none => .ok default.timeout
  | some text =>
    match seconds? text with
    | some n => .ok n
    | none => .error (.config ("DATASTORE_TIMEOUT_SECS is not a number: " ++ text))

def backendOf (vars : String → Option String) : Except StoreError Backend := do
  let engine := (setting? vars "DATASTORE_BACKEND").getD "memory"
  match Text.lowercase (Text.trim engine) with
  | "couchdb" =>
    return .couchDb (← needed vars "COUCHDB_URL" "couchdb")
      ((setting? vars "COUCHDB_USER").getD "") ((setting? vars "COUCHDB_PASSWORD").getD "")
  | "firestore" =>
    return .firestore (← needed vars "FIRESTORE_PROJECT_ID" "firestore")
      ((setting? vars "FIRESTORE_DATABASE_ID").getD Firestore.defaultDatabase)
      (match setting? vars "FIRESTORE_EMULATOR_HOST" with
        | some host => "http://" ++ host
        | none => Firestore.defaultEndpoint)
      (setting? vars "FIRESTORE_ACCESS_TOKEN")
  | "memory" => return .memory
  | other =>
    throw (.config ("unknown DATASTORE_BACKEND '" ++ other
      ++ "' (expected couchdb, firestore or memory)"))

def ofVariables (vars : String → Option String) : Except StoreError Config := do
  let timeout ← timeoutOf vars
  let backend ← backendOf vars
  return ⟨backend, timeout⟩

end Config

inductive Connection (ν : Type) where
  | memory (store : Memory)
  | couchDb (server : CouchDb ν) (state : CouchDb.State ν)
  | firestore (service : Firestore ν) (state : ν)

namespace Config

def connect {ν : Type} (network : Http.Network ν) (config : Config) :
    EStateM StoreError ν (Connection ν) := do
  match config.backend with
  | .memory => return .memory Memory.empty
  | .couchDb url user password =>
    let server ← CouchDb.connect network url user password
    return .couchDb server (CouchDb.start (← EStateM.get))
  | .firestore project database endpoint token =>
    let service ← Firestore.connect network endpoint project database token
    return .firestore service (← EStateM.get)

end Config

end Keyspace
