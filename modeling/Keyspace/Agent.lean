import Keyspace.Service
import Keyspace.Text.Printability

set_option autoImplicit false

namespace Keyspace

/-- A handle for an agent that works for a user in a namespace. -/
structure Agent where
  user : String
  name : String
  space : String
  deriving DecidableEq, Repr

namespace Agent

open Service (Run)

variable {σ : Type}

def new (user name : String) : Agent := ⟨user, name, defaultSpace⟩

def withSpace (agent : Agent) (space : String) : Agent := { agent with space := space }

def debugText (agent : Agent) : String :=
  "AgentDataStoreProxy \x7b user_id: " ++ Text.quoted agent.user ++ ", agent_name: "
    ++ Text.quoted agent.name ++ ", namespace: " ++ Text.quoted agent.space ++ " \x7d"

def get (agent : Agent) (engine : Engine σ) (now : Instant) (key : String) :
    Run σ (Option Json) := do
  let record ← Service.get engine now agent.user agent.space key (some agent.name)
  return record.map (·.value)

def getD (agent : Agent) (engine : Engine σ) (now : Instant) (key : String) (default : Json) :
    Run σ Json :=
  return (← agent.get engine now key).getD default

def set (agent : Agent) (engine : Engine σ) (now : Instant) (key : String) (value : Json)
    (metadata : Option Document) : Run σ Unit := do
  let _ ← Service.set engine now agent.user agent.space key value (some agent.name) metadata
  return ()

def delete (agent : Agent) (engine : Engine σ) (key : String) : Run σ Bool :=
  Service.delete engine agent.user agent.space key

def listKeys (agent : Agent) (engine : Engine σ) (keyPrefix : Option String) :
    Run σ (List String) :=
  Service.listKeys engine agent.user agent.space keyPrefix

def listSpaces (agent : Agent) (engine : Engine σ) : Run σ (List String) :=
  Service.listSpaces engine agent.user

def getAll (agent : Agent) (engine : Engine σ) (now : Instant) : Run σ (SortedMap Json) :=
  Service.getAll engine now agent.user agent.space (some agent.name)

def getMany (agent : Agent) (engine : Engine σ) (now : Instant) (keys : List String) :
    Run σ (SortedMap Json) :=
  Service.getMany engine now agent.user agent.space keys (some agent.name)

def setMany (agent : Agent) (engine : Engine σ) (now : Instant) (items : List (String × Json))
    (metadata : Option Document) : Run σ Nat :=
  Service.setMany engine now agent.user
    (items.map fun item => ⟨agent.space, item.1, item.2, metadata⟩) (some agent.name)

def clear (agent : Agent) (engine : Engine σ) : Run σ Nat :=
  Service.clear engine agent.user agent.space

end Agent

end Keyspace
