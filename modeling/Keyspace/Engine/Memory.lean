import Keyspace.Engine.Basic

set_option autoImplicit false

namespace Keyspace

/-- A document in memory: how often it has been written, and when last. Every revision starts at 1,
so that none comes to 2^64, as no count does (`Json.ofCount`). -/
structure StoredDocument where
  doc : Document
  revision : Nat
  writtenAt : Instant
  deriving DecidableEq

/-- The databases in memory, and the indexes of each in the order of their creation. -/
structure Memory where
  databases : SortedMap (SortedMap StoredDocument)
  indexes : SortedMap (List Index)

namespace Memory

def empty : Memory := ⟨SortedMap.empty, SortedMap.empty⟩

instance : Inhabited Memory := ⟨empty⟩

def database (m : Memory) (db : String) : SortedMap StoredDocument :=
  (m.databases.get? db).getD SortedMap.empty

def find? (m : Memory) (db id : String) : Option StoredDocument := (m.database db).get? id

def size (m : Memory) (db : String) : Nat := (m.database db).size

def isEmpty (m : Memory) (db : String) : Bool := m.size db == 0

def writtenAt (m : Memory) (db id : String) : Option Instant := (m.find? db id).map (·.writtenAt)

def indexesOf (m : Memory) (db : String) : List Index := (m.indexes.get? db).getD []

def documents (m : Memory) (db : String) : List Document := (m.database db).values.map (·.doc)

def put (m : Memory) (db id : String) (stored : StoredDocument) : Memory :=
  { m with databases := m.databases.insert db ((m.database db).insert id stored) }

/-- Puts a document in as it is, as if it had been written once. -/
def insertRaw (m : Memory) (now : Instant) (db id : String) (doc : Document) : Memory :=
  m.put db id ⟨doc, 1, now⟩

def token (revision : Nat) : String := toString revision ++ "-mem"

def nextRevision (m : Memory) (db id : String) : Nat :=
  match m.find? db id with
  | some stored => stored.revision + 1
  | none => 1

def stamped (doc : Document) (id rev : String) : Document :=
  (doc.insert Document.idField (.str id)).insert Document.revField (.str rev)

def get (db id : String) : Action Memory Document := do
  match (← EStateM.get).find? db id with
  | some stored => return stored.doc
  | none => throw (.notFound db id)

def save (now : Instant) (db id : String) (doc : Document) : Action Memory Receipt := do
  let m ← EStateM.get
  let revision := m.nextRevision db id
  let rev := token revision
  EStateM.set (m.put db id ⟨stamped doc id rev, revision, now⟩)
  return ⟨id, rev⟩

def delete (db id : String) : Action Memory Unit := do
  let m ← EStateM.get
  match m.find? db id with
  | some _ =>
    EStateM.set { m with databases := m.databases.insert db ((m.database db).erase id) }
  | none => throw (.notFound db id)

def listAll (db : String) : Action Memory (List Document) :=
  return (← EStateM.get).documents db

def ensureIndex (db : String) (index : Index) : Action Memory Unit := do
  let m ← EStateM.get
  let known := m.indexesOf db
  if known.any fun other => other.sortedFields == index.sortedFields then return ()
  else EStateM.set { m with indexes := m.indexes.insert db (known ++ [index]) }

end Memory

def Engine.memory : Engine Memory where
  name := "memory"
  get := Memory.get
  save := Memory.save
  delete := Memory.delete
  listAll := Memory.listAll
  find := Engine.scan Memory.listAll
  ensureIndex := Memory.ensureIndex

end Keyspace
