import Keyspace.Agent
import Keyspace.Text.Lowercase
import Keyspace.Tool.Provider

set_option autoImplicit false

namespace Keyspace.Tool.DataStore

open Service (Run)

variable {σ : Type}

def toolName : String := "data_store"

inductive Command where
  | get
  | set
  | delete
  | listKeys
  | listSpaces
  | getAll
  | getMany
  | setMany
  | clear
  deriving DecidableEq, Repr

def Command.ofName? : String → Option Command
  | "get" => some get
  | "set" => some set
  | "delete" => some delete
  | "list_keys" => some listKeys
  | "list_namespaces" => some listSpaces
  | "get_all" => some getAll
  | "get_many" => some getMany
  | "set_many" => some setMany
  | "clear" => some clear
  | _ => none

def description : String :=
  "Persistent key-value storage shared by every agent of the same user. "
    ++ "Keys live in namespaces (current: the agent's own unless 'namespace' is given). "
    ++ "Pass a 'command' plus its arguments:\n\n"
    ++ "\x7b\"command\": \"get\", \"key\": \"k\"\x7d\n"
    ++ "\x7b\"command\": \"set\", \"key\": \"k\", \"value\": <any JSON>\x7d\n"
    ++ "\x7b\"command\": \"delete\", \"key\": \"k\"\x7d\n"
    ++ "\x7b\"command\": \"list_keys\", \"prefix\": \"optional\"\x7d\n"
    ++ "\x7b\"command\": \"list_namespaces\"\x7d\n"
    ++ "\x7b\"command\": \"get_all\"\x7d\n"
    ++ "\x7b\"command\": \"get_many\", \"keys\": [\"a\", \"b\"]\x7d\n"
    ++ "\x7b\"command\": \"set_many\", \"items\": \x7b\"a\": 1, \"b\": 2\x7d\x7d\n"
    ++ "\x7b\"command\": \"clear\"\x7d"

def metadata : Metadata where
  name := toolName
  description := description
  parameters := [
    ((Parameter.new "command" .string).withDescription
      ("One of get, set, delete, list_keys, list_namespaces, get_all, "
        ++ "get_many, set_many, clear")).asRequired,
    (Parameter.new "key" .string).withDescription "Key for get, set and delete",
    (Parameter.new "value" .any).withDescription "Value for set; any JSON value",
    (Parameter.new "default" .any).withDescription "Returned by get when the key does not exist",
    ((Parameter.new "keys" .array).withItems .string).withDescription "Keys for get_many",
    (Parameter.new "items" .object).withDescription "Key/value pairs for set_many",
    (Parameter.new "metadata" .object).withDescription
      "Metadata merged into the stored record(s) on set/set_many",
    (Parameter.new "prefix" .string).withDescription "Only list keys starting with this prefix",
    (Parameter.new "namespace" .string).withDescription "Run this one call in another namespace"]

def textArgument (parameters : Json) (name : String) : Option String :=
  (parameters.member? name).bind Json.text?

def mapArgument (parameters : Json) (name : String) : Option (SortedMap Json) :=
  (parameters.member? name).bind Json.map?

/-- The texts among the items of a list; items of other types are passed over. -/
def textsArgument (parameters : Json) (name : String) : Option (List String) :=
  ((parameters.member? name).bind Json.items?).map fun items => items.filterMap Json.text?

def invalidSyntax (command : String) : Result :=
  Result.failed ("ERR:Invalid " ++ command ++ " Syntax")

def notFound : Result := Result.failed "ERR:NOT_FOUND"

def done : Result := Result.succeeded (.obj [("status", .str "OK")])

def keyValue (key : String) (value : Json) : Result :=
  Result.succeeded (.obj [("key", .str key), ("value", value)])

def inSpace (agent : Agent) (result : Result) : Result :=
  result.withMetadata "namespace" (.str agent.space)

def run (agent : Agent) (engine : Engine σ) (now : Instant) (parameters : Json) :
    Command → Run σ Result
  | .get =>
    match textArgument parameters "key" with
    | none => return invalidSyntax "GET"
    | some key => do
      match ← agent.get engine now key with
      | some value => return inSpace agent (keyValue key value)
      | none =>
        match parameters.member? "default" with
        | some value => return inSpace agent (keyValue key value)
        | none => return inSpace agent notFound
  | .set =>
    match textArgument parameters "key", parameters.member? "value" with
    | some key, some value => do
      agent.set engine now key value (mapArgument parameters "metadata")
      return inSpace agent done
    | _, _ => return invalidSyntax "SET"
  | .delete =>
    match textArgument parameters "key" with
    | none => return invalidSyntax "DELETE"
    | some key => do
      if ← agent.delete engine key then return inSpace agent done
      else return inSpace agent notFound
  | .listKeys => do
    let keys ← agent.listKeys engine (textArgument parameters "prefix")
    return inSpace agent (Result.succeeded (.obj [("keys", .arr (keys.map .str))]))
  | .listSpaces => do
    let spaces ← agent.listSpaces engine
    return inSpace agent (Result.succeeded (.obj [("namespaces", .arr (spaces.map .str))]))
  | .getAll => do
    let items ← agent.getAll engine now
    return inSpace agent (Result.succeeded (.obj [("items", .obj items.entries)]))
  | .getMany =>
    match textsArgument parameters "keys" with
    | none => return invalidSyntax "GET_MANY"
    | some keys => do
      let items ← agent.getMany engine now keys
      return inSpace agent (Result.succeeded (.obj [("items", .obj items.entries)]))
  | .setMany =>
    match mapArgument parameters "items" with
    | none => return invalidSyntax "SET_MANY"
    | some items => do
      let count ← agent.setMany engine now items.entries (mapArgument parameters "metadata")
      return inSpace agent (Result.succeeded (.obj [("written", Json.ofCount count)]))
  | .clear => do
    let count ← agent.clear engine
    return inSpace agent (Result.succeeded (.obj [("deleted", Json.ofCount count)]))

def handleFor (agent : Agent) (parameters : Json) : Agent :=
  match textArgument parameters "namespace" with
  | some space => if space.isEmpty then agent else agent.withSpace space
  | none => agent

/-- An operation in which a failure of the engine becomes an unsuccessful result. -/
def reportingFailure (operation : Run σ Result) : Run σ Result := fun s =>
  match operation s with
  | .error (.store e) s => .ok (Result.ofStoreError e) s
  | outcome => outcome

def execute (agent : Agent) (engine : Engine σ) (now : Instant) (tool : String)
    (parameters : Json) : Run σ (Except Error Result) :=
  if tool ≠ toolName then return .error (.notFound tool)
  else
    match textArgument parameters "command" with
    | none =>
      return .error (.invalidParameters
        "Missing 'command' field. Use e.g. \x7b\"command\": \"get\", \"key\": \"k\"\x7d")
    | some text => do
      let agent := handleFor agent parameters
      match Command.ofName? (Text.lowercase (Text.trim text)) with
      | some command => return .ok (← reportingFailure (run agent engine now parameters command))
      | none => return .ok (inSpace agent (Result.failed "ERR:Unknown Command"))

def describe (tool : String) : Except Error Metadata :=
  if tool = toolName then .ok metadata else .error (.notFound tool)

def provider (agent : Agent) (engine : Engine σ) : Provider σ where
  name := toolName
  tools := .ok [metadata]
  describe := describe
  execute := execute agent engine

end Keyspace.Tool.DataStore
