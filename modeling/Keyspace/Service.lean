import Keyspace.DoneSet
import Keyspace.Engine.Basic
import Keyspace.Record

/-!
The data store: values under keys in the namespaces of users, kept as documents by an engine.

A value lives in one document, whose id is made from the user, the namespace and the key. Point
look-ups go through the id; listings are queries over the user and namespace fields. Before the
first write to a namespace the indexes for those queries are ensured. A read on behalf of an agent
is counted on the document; whether that write succeeds does not matter to the read.
-/

set_option autoImplicit false

namespace Keyspace

/-- Why an operation of the data store has no answer: the engine failed, or a read could not be
counted because the counter is at its maximum. -/
inductive Failure where
  | store (error : StoreError)
  | counterOverflow
  deriving DecidableEq

structure BatchItem where
  space : String
  key : String
  value : Json
  metadata : Option Document
  deriving DecidableEq

namespace Service

/-- The engine's state, and the indexed namespaces of users. -/
structure State (σ : Type) where
  store : σ
  indexed : DoneSet (String × String)

abbrev Run (σ α : Type) := EStateM Failure (State σ) α

variable {σ α : Type}

def start (store : σ) : State σ := ⟨store, DoneSet.empty⟩

def database : String := "agent_data_store"

/-- The most documents that a listing considers. -/
def findLimit : Nat := 10000

def standardIndexes : List Index :=
  [⟨[Record.userField, Record.spaceField], some "idx-user-namespace"⟩]

def onStore (action : Action σ α) : Run σ α := fun s =>
  match action s.store with
  | .ok a store => .ok a { s with store := store }
  | .error e store => .error (.store e) { s with store := store }

def attempt (action : Action σ α) : Run σ (Except StoreError α) := fun s =>
  match action s.store with
  | .ok a store => .ok (.ok a) { s with store := store }
  | .error e store => .ok (.error e) { s with store := store }

/-- Ensures the standard indexes. A failure is ignored: without an index a query is only slower. -/
def ensureIndexes (engine : Engine σ) : Run σ Unit :=
  standardIndexes.forM fun index => do
    let _ ← attempt (engine.ensureIndex database index)
    return ()

/-- Ensures the standard indexes before the first write to a user's namespace. -/
def ensureIndexed (engine : Engine σ) (user space : String) : Run σ Unit := do
  let indexed ← (← EStateM.get).indexed.ensure (user, space) (ensureIndexes engine)
  EStateM.modifyGet fun s => ((), { s with indexed := indexed })

def lookup (engine : Engine σ) (id : String) : Run σ (Option Document) := do
  match ← attempt (engine.get database id) with
  | .ok doc => return some doc
  | .error e => if e.isNotFound then return none else throw (.store e)

def readRecord (doc : Document) : Run σ Record :=
  match Record.ofDocument doc with
  | .ok record => pure record
  | .error e => throw (.store (.serialization e.message))

/-- Counts a read on a document. Whether the write succeeds or not, the answer is the document as
counted, with the new token if there is one. -/
def trackRead (engine : Engine σ) (now : Instant) (id agent : String) (doc : Document) :
    Run σ Document :=
  match Record.countRead doc agent now with
  | none => throw .counterOverflow
  | some counted => do
    match ← attempt (engine.save now database id counted) with
    | .ok receipt => return counted.insert Document.revField (.str receipt.rev)
    | .error _ => return counted

def get (engine : Engine σ) (now : Instant) (user space key : String) (agent : Option String) :
    Run σ (Option Record) := do
  let id := docId user space key
  match ← lookup engine id with
  | none => return none
  | some doc =>
    let doc ← match agent with
      | some agent => trackRead engine now id agent doc
      | none => pure doc
    return some (← readRecord doc)

/-- A record with a new value. The metadata is merged name by name; who made the record, and how
often it was read, stays. -/
def updated (record : Record) (id : String) (value : Json) (agent : Option String)
    (metadata : Option Document) (now : Instant) : Record :=
  { record with
    id := id
    value := value
    updatedAt := some now
    metadata := record.metadata.extend (metadata.getD SortedMap.empty).entries
    lastAccessedByAgent := agent.or record.lastAccessedByAgent
    lastAccessedAt := (agent.map fun _ => now).or record.lastAccessedAt }

def set (engine : Engine σ) (now : Instant) (user space key : String) (value : Json)
    (agent : Option String) (metadata : Option Document) : Run σ Record := do
  let id := docId user space key
  ensureIndexed engine user space
  let record ← match ← lookup engine id with
    | some doc =>
      let existing ← readRecord doc
      pure (updated existing id value agent metadata now)
    | none =>
      pure (Record.fresh user space key value (metadata.getD SortedMap.empty) agent now)
  let receipt ← onStore (engine.save now database id record.toDocument)
  return { record with rev := some receipt.rev }

def delete (engine : Engine σ) (user space key : String) : Run σ Bool := do
  match ← attempt (engine.delete database (docId user space key)) with
  | .ok () => return true
  | .error e => if e.isNotFound then return false else throw (.store e)

def spaceSelector (user space : String) : Selector :=
  SortedMap.ofList [(Record.userField, .str user), (Record.spaceField, .str space)]

def userSelector (user : String) : Selector := SortedMap.ofList [(Record.userField, .str user)]

def keyOf (doc : Document) : String := (Document.text? doc Record.keyField).getD ""

def spaceOf (doc : Document) : String :=
  match Document.text? doc Record.spaceField with
  | some s => if s.isEmpty then defaultSpace else s
  | none => defaultSpace

def sortedKeys (keyPrefix : Option String) (keys : List String) : List String :=
  (keys.filter fun key => (keyPrefix.getD "").toList.isPrefixOf key.toList).mergeSort

def listKeys (engine : Engine σ) (user space : String) (keyPrefix : Option String) :
    Run σ (List String) := do
  let docs ← onStore <|
    engine.find database (spaceSelector user space) (some [Record.keyField]) findLimit
  return sortedKeys keyPrefix (docs.map keyOf)

def listSpaces (engine : Engine σ) (user : String) : Run σ (List String) := do
  let docs ← onStore <|
    engine.find database (userSelector user) (some [Record.spaceField]) findLimit
  return (SortedMap.ofList (docs.map fun doc => (spaceOf doc, ()))).keys

/-- The documents of a listing as an agent has read them, each with the id to write it back to. -/
def countReads (user space agent : String) (now : Instant) (docs : List Document) :
    Option (List (String × Document)) :=
  docs.mapM fun doc => do
    let id := (Document.text? doc Document.idField).getD (docId user space (keyOf doc))
    return (id, ← Record.countRead doc agent now)

def writeBack (engine : Engine σ) (now : Instant) (docs : List (String × Document)) :
    Run σ Unit :=
  docs.forM fun d => do
    let _ ← attempt (engine.save now database d.1 d.2)
    return ()

/-- Every key of a namespace with its value, by one query. On behalf of an agent the reads are
counted afterwards. -/
def getAll (engine : Engine σ) (now : Instant) (user space : String) (agent : Option String) :
    Run σ (SortedMap Json) := do
  let docs ← onStore (engine.find database (spaceSelector user space) none findLimit)
  match agent with
  | none => pure ()
  | some agent =>
    match countReads user space agent now docs with
    | none => throw .counterOverflow
    | some counted => writeBack engine now counted
  return SortedMap.ofList (docs.map fun doc => (keyOf doc, Document.field doc Record.valueField))

def getMany (engine : Engine σ) (now : Instant) (user space : String) (keys : List String)
    (agent : Option String) : Run σ (SortedMap Json) :=
  keys.foldlM
    (fun (found : SortedMap Json) key => do
      match ← get engine now user space key agent with
      | some record => return found.insert key record.value
      | none => return found)
    SortedMap.empty

/-- Writes the items in order; how many were written. The first failure ends the batch, and the
items before it stay written. -/
def setMany (engine : Engine σ) (now : Instant) (user : String) (items : List BatchItem)
    (agent : Option String) : Run σ Nat :=
  items.foldlM
    (fun count item => do
      let _ ← set engine now user item.space item.key item.value agent item.metadata
      return count + 1)
    0

/-- Deletes every key of a namespace that a listing shows; how many were deleted. -/
def clear (engine : Engine σ) (user space : String) : Run σ Nat := do
  let keys ← listKeys engine user space none
  keys.foldlM
    (fun count key => do return if ← delete engine user space key then count + 1 else count)
    0

end Service

end Keyspace
