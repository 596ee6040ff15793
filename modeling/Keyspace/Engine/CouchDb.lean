import Keyspace.DoneSet
import Keyspace.Engine.Basic
import Keyspace.Http.Exchange
import Keyspace.Http.Url.Reader

/-!
The engine over a CouchDB server.

A database is created when it is first used. A write looks up the document's current revision and
names it, so that it is refused when another writer comes in between. A query goes to the server
and, if that fails, to a walk over all documents. Known databases and ensured indexes are not asked
for again; when a write is answered that its database is missing, the database is forgotten.
-/

set_option autoImplicit false

namespace Keyspace

open Http (Client Network Response Url)

structure CouchDb (ν : Type) where
  /-- The server's address as it was given, without slashes at its end. -/
  address : String
  root : Url
  client : Client ν

namespace CouchDb

variable {ν : Type}

/-- The state of the network, the known databases, and the ensured indexes. An index is known by its
database and its fields in ascending order. -/
structure State (ν : Type) where
  network : ν
  databases : DoneSet String
  indexes : DoneSet (String × List String)

def start (network : ν) : State ν := ⟨network, DoneSet.empty, DoneSet.empty⟩

def isGreeting (v : Json) : Bool :=
  v.isStructure 1 && (v.optionalPart? "version" 0 Json.text?).isSome

def receipt? (v : Json) : Option Receipt :=
  if v.isStructure 2 then do
    return ⟨← (← v.part? "id" 0).text?, ← (← v.part? "rev" 1).text?⟩
  else none

def row? (v : Json) : Option (String × Option Document) :=
  if v.isStructure 2 then do
    let id ← (← v.part? "id" 0).text?
    return (id, ← v.optionalPart? "doc" 1 Json.map?)
  else none

def rows? (v : Json) : Option (List (String × Option Document)) :=
  if v.isStructure 1 then do (← v.part? "rows" 0).list? row? else none

def found? (v : Json) : Option (List Document) :=
  if v.isStructure 2 then do
    let docs ← (← v.part? "docs" 0).list? Json.map?
    let _ ← v.optionalPart? "warning" 1 Json.text?
    return docs
  else none

def isIndexReport (v : Json) : Bool :=
  v.isStructure 1 && (v.optionalPart? "result" 0 Json.text?).isSome

def credentials (user password : String) : Option String :=
  if user.isEmpty then none else some (Http.basicLogin user password)

def databaseUrl (c : CouchDb ν) (db : String) : Url := c.root.within [Text.encodeSegment db]

def documentUrl (c : CouchDb ν) (db id : String) : Url :=
  c.root.within [Text.encodeSegment db, Text.encodeSegment id]

def serviceUrl (c : CouchDb ν) (db service : String) : Url :=
  c.root.within [Text.encodeSegment db, service]

def send (c : CouchDb ν) (method : Http.Method) (url : Url) (body : Option Json) :
    Action (State ν) Response := fun s =>
  match c.client.send method url body s.network with
  | .ok r network => .ok r { s with network := network }
  | .error e network => .error e { s with network := network }

def connect (network : Network ν) (address user password : String) :
    EStateM StoreError ν (CouchDb ν) := do
  let trimmed := String.ofList (address.toList.reverse.dropWhile (· == '/')).reverse
  let root? := Url.ofText? (trimmed ++ "/")
  let client : Client ν := ⟨network, credentials user password⟩
  let r ← client.connect ("could not connect to CouchDB at " ++ address ++ ": ") .get root? none
  if !r.isSuccess then throw r.toError
  else
    match root?, r.json?.map isGreeting with
    | some root, some true => return ⟨trimmed, root, client⟩
    | _, _ => throw Http.undecodable

def putDatabase (c : CouchDb ν) (db : String) : Action (State ν) Unit := do
  let created ← c.send .put ((c.databaseUrl db).withQuery "n=1&q=2") none
  if created.isSuccess || created.status == 412 then return ()
  else throw created.toError

def createIfMissing (c : CouchDb ν) (db : String) : Action (State ν) Unit := do
  let head ← c.send .head (c.databaseUrl db) none
  if head.isSuccess then return ()
  else if head.isNotFound then c.putDatabase db
  else throw head.toError

/-- Ensures a database before it is used: unless it is known, it is looked up, and created if it is
missing. -/
def ensureDatabase (c : CouchDb ν) (db : String) : Action (State ν) Unit := do
  let databases ← (← EStateM.get).databases.ensure db (c.createIfMissing db)
  EStateM.modifyGet fun s => ((), { s with databases := databases })

def forgetDatabase (db : String) : Action (State ν) Unit :=
  EStateM.modifyGet fun s => ((), { s with databases := s.databases.forget db })

def currentRevision (c : CouchDb ν) (db id : String) : Action (State ν) (Option String) := do
  let head ← c.send .head (c.documentUrl db id) none
  if head.isNotFound then return none
  else if head.isSuccess then return head.revision?
  else throw head.toError

def receive (db id : String) (r : Response) : Action (State ν) Document :=
  if r.isNotFound then throw (.notFound db id)
  else if r.isSuccess then r.read Json.map?
  else throw r.toError

def get (c : CouchDb ν) (db id : String) : Action (State ν) Document := do
  c.ensureDatabase db
  receive db id (← c.send .get (c.documentUrl db id) none)

def lookUpRevision (c : CouchDb ν) (db id : String) : Action (State ν) (Option String) := do
  c.ensureDatabase db
  c.currentRevision db id

/-- A document as it is sent: with its id, and the revision that it is to replace if there is
one. -/
def outgoing (doc : Document) (id : String) (rev : Option String) : Document :=
  let doc := doc.insert Document.idField (.str id)
  match rev with
  | some rev => doc.insert Document.revField (.str rev)
  | none => doc.erase Document.revField

def submit (c : CouchDb ν) (db id : String) (doc : Document) : Action (State ν) Response := do
  let rev ← c.lookUpRevision db id
  c.send .put (c.documentUrl db id) (some (outgoing doc id rev).toJson)

def settle (db id : String) (r : Response) : Action (State ν) Receipt :=
  if r.isConflict then throw (.conflict db id (r.text?.getD ""))
  else if r.isNotFound then do
    forgetDatabase db
    throw r.toError
  else if r.isSuccess then r.read receipt?
  else throw r.toError

def save (c : CouchDb ν) (db id : String) (doc : Document) : Action (State ν) Receipt := do
  settle db id (← c.submit db id doc)

def withdraw (c : CouchDb ν) (db id : String) : Option String → Action (State ν) Unit
  | none => throw (.notFound db id)
  | some rev => do
    let r ← c.send .delete ((c.documentUrl db id).withField "rev" rev) none
    if r.isNotFound then throw (.notFound db id)
    else if r.isConflict then throw (.conflict db id (r.text?.getD ""))
    else if r.isSuccess then return ()
    else throw r.toError

def delete (c : CouchDb ν) (db id : String) : Action (State ν) Unit := do
  c.withdraw db id (← c.lookUpRevision db id)

/-- The documents of a listing, without those that define views and the like. -/
def ordinary (rows : List (String × Option Document)) : List Document :=
  (rows.filter fun row => !"_design/".toList.isPrefixOf row.1.toList).filterMap (·.2)

def listAll (c : CouchDb ν) (db : String) : Action (State ν) (List Document) := do
  c.ensureDatabase db
  let r ← c.send .get ((c.serviceUrl db "_all_docs").withField "include_docs" "true") none
  if r.isSuccess then return ordinary (← r.read rows?)
  else throw r.toError

def queryJson (selector : Selector) (fields : Option (List String)) (limit : Nat) : Json :=
  let limit := ("limit", Json.ofCount limit)
  let selector := ("selector", Json.obj selector.entries)
  match fields with
  | none | some [] => .obj [limit, selector]
  | some names =>
    let names := Document.idField :: names.filter (· != Document.idField)
    .obj [("fields", .arr (names.map .str)), limit, selector]

def query (c : CouchDb ν) (db : String) (selector : Selector) (fields : Option (List String))
    (limit : Nat) : Action (State ν) (List Document) := do
  c.ensureDatabase db
  let r ← c.send .post (c.serviceUrl db "_find") (some (queryJson selector fields limit))
  if r.isSuccess then r.read found?
  else throw r.toError

def find (c : CouchDb ν) (db : String) (selector : Selector) (fields : Option (List String))
    (limit : Nat) : Action (State ν) (List Document) := do
  Engine.orThrow selector.validate
  Engine.fallback (c.query db selector fields limit) do
    return selector.select fields limit (← c.listAll db)

def indexJson (index : Index) : Json := .obj [
  ("index", .obj [("fields", .arr (index.fields.map .str))]),
  ("name", .str index.resolvedName),
  ("type", .str "json")]

def requestIndex (c : CouchDb ν) (db : String) (index : Index) : Action (State ν) Unit := do
  let r ← c.send .post (c.serviceUrl db "_index") (some (indexJson index))
  if !r.isSuccess then throw r.toError
  else if (r.json?.map isIndexReport) = some true then return ()
  else throw Http.undecodable

def createIndex (c : CouchDb ν) (db : String) (index : Index) : Action (State ν) Unit := do
  c.ensureDatabase db
  c.requestIndex db index

def ensureIndex (c : CouchDb ν) (db : String) (index : Index) : Action (State ν) Unit := do
  let indexes ← (← EStateM.get).indexes.ensure (db, index.sortedFields) (c.createIndex db index)
  EStateM.modifyGet fun s => ((), { s with indexes := indexes })

end CouchDb

def Engine.couchDb {ν : Type} (c : CouchDb ν) : Engine (CouchDb.State ν) where
  name := "couchdb"
  get := c.get
  save _ db id doc := c.save db id doc
  delete := c.delete
  listAll := c.listAll
  find := c.find
  ensureIndex := c.ensureIndex

end Keyspace
