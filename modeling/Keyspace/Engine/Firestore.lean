import Keyspace.Engine.Basic
import Keyspace.Http.Exchange
import Keyspace.Http.Url.Reader
import Keyspace.StructuredQuery

set_option autoImplicit false

namespace Keyspace

open Http (Client Network Response Url)

/-- A Firestore service: the URL of a database's documents, and what sends requests there. -/
structure Firestore (ν : Type) where
  documents : Url
  client : Client ν

namespace Firestore

variable {ν : Type}

def defaultEndpoint : String := "https://firestore.googleapis.com"

def defaultDatabase : String := "(default)"

def pageSize : Nat := 300

structure Resource where
  name : String
  fields : SortedMap Json
  updateTime : Option String
  deriving DecidableEq

namespace Resource

def ofJson? (v : Json) : Option Resource :=
  if v.isStructure 3 then do
    let name ← (← v.part? "name" 0).text?
    let fields ← match v.part? "fields" 1 with
      | none => some SortedMap.empty
      | some w => w.map?
    return ⟨name, fields, ← v.optionalPart? "updateTime" 2 Json.text?⟩
  else none

def id (r : Resource) : String :=
  String.ofList (r.name.toList.reverse.takeWhile (· != '/')).reverse

def toDocument (r : Resource) : Except StoreError Document :=
  match TypedValue.decodeFields r.fields with
  | .ok doc => .ok (doc.insert Document.idField (.str r.id))
  | .error e => .error e.toStoreError

end Resource

/-- One page of a listing: the resources, and the token of the next page. -/
structure Page where
  resources : List Resource
  next : Option String

def Page.ofJson? (v : Json) : Option Page :=
  if v.isStructure 2 then do
    let resources ← match v.part? "documents" 0 with
      | none => some []
      | some w => w.list? Resource.ofJson?
    return ⟨resources, ← v.optionalPart? "nextPageToken" 1 Json.text?⟩
  else none

def Page.nextToken? (p : Page) : Option String := p.next.filter fun token => !token.isEmpty

/-- One item of a query's answer, which need not hold a resource. -/
def item? (v : Json) : Option (Option Resource) :=
  if v.isStructure 1 then v.optionalPart? "document" 0 Resource.ofJson? else none

def collectionUrl (f : Firestore ν) (db : String) : Url :=
  f.documents.below [Text.encodeSegment db]

def documentUrl (f : Firestore ν) (db id : String) : Url :=
  f.documents.below [Text.encodeSegment db, Text.encodeSegment id]

def send (f : Firestore ν) (method : Http.Method) (url : Url) (body : Option Json) :
    Action ν Response :=
  f.client.send method url body

def connect (network : Network ν) (endpoint project database : String) (token : Option String) :
    EStateM StoreError ν (Firestore ν) := do
  if project.isEmpty then throw (.config "Firestore project id is empty")
  else
    let trimmed := String.ofList (endpoint.toList.reverse.dropWhile (· == '/')).reverse
    let documents? := Url.ofText?
      (trimmed ++ "/v1/projects/" ++ project ++ "/databases/" ++ database ++ "/documents")
    let client : Client ν := ⟨network, token.map fun t => "Bearer " ++ t⟩
    let r ← client.connect "could not connect to Firestore: " .post
      (documents?.map fun url => url.suffixed ":listCollectionIds")
      (some (.obj [("pageSize", Json.ofCount 1)]))
    match documents? with
    | some documents => if r.isSuccess then return ⟨documents, client⟩ else throw r.toError
    | none => throw r.toError

def get (f : Firestore ν) (db id : String) : Action ν Document := do
  let r ← f.send .get (f.documentUrl db id) none
  if r.isNotFound then throw (.notFound db id)
  else if r.isSuccess then Engine.orThrow (← r.read Resource.ofJson?).toDocument
  else throw r.toError

/-- A document as it is sent: its fields without the id and the token, as typed values. -/
def outgoing (doc : Document) : Json :=
  let doc := (doc.erase Document.idField).erase Document.revField
  .obj [("fields", .obj (TypedValue.encodeFields doc).entries)]

def save (f : Firestore ν) (db id : String) (doc : Document) : Action ν Receipt := do
  let r ← f.send .patch (f.documentUrl db id) (some (outgoing doc))
  if r.isSuccess then
    let written ← r.read Resource.ofJson?
    return ⟨id, written.updateTime.getD ""⟩
  else throw r.toError

def delete (f : Firestore ν) (db id : String) : Action ν Unit := do
  let r ← f.send .delete ((f.documentUrl db id).withField "currentDocument.exists" "true") none
  if r.isNotFound then throw (.notFound db id)
  else if r.isSuccess then return ()
  else throw r.toError

def pageUrl (f : Firestore ν) (db : String) (token : Option String) : Url :=
  let url := (f.collectionUrl db).withField "pageSize" (toString pageSize)
  match token with
  | some token => url.withField "pageToken" token
  | none => url

def pagesFrom (f : Firestore ν) (db : String) : Nat → Option String → Action ν (List Document)
  | 0, _ => throw (.transport "the listing does not end")
  | pages + 1, token => do
    let r ← f.send .get (f.pageUrl db token) none
    if !r.isSuccess then throw r.toError
    else
      let page ← r.read Page.ofJson?
      let docs ← Engine.orThrow (page.resources.mapM Resource.toDocument)
      match page.nextToken? with
      | none => return docs
      | some next => return docs ++ (← pagesFrom f db pages (some next))

def listAll (f : Firestore ν) (db : String) : Action ν (List Document) := do
  f.pagesFrom db (f.client.network.horizon (← EStateM.get)) none

def query (f : Firestore ν) (db : String) (selector : Selector) (fields : Option (List String))
    (limit : Nat) : Action ν (List Document) := do
  let r ← f.send .post (f.documents.suffixed ":runQuery")
    (some (StructuredQuery.ofSelector db selector fields limit).toJson)
  if !r.isSuccess then throw r.toError
  else
    let items ← r.read (Json.list? item?)
    let docs ← Engine.orThrow ((items.filterMap fun item => item).mapM Resource.toDocument)
    match fields with
    | none | some [] => return docs
    | some names => return docs.map fun doc => doc.project names

def find (f : Firestore ν) (db : String) (selector : Selector) (fields : Option (List String))
    (limit : Nat) : Action ν (List Document) := do
  Engine.orThrow selector.validate
  Engine.fallback (f.query db selector fields limit) do
    return selector.select fields limit (← f.listAll db)

end Firestore

def Engine.firestore {ν : Type} (f : Firestore ν) : Engine ν where
  name := "firestore"
  get := f.get
  save _ db id doc := f.save db id doc
  delete := f.delete
  listAll := f.listAll
  find := f.find
  ensureIndex _ _ := pure ()

end Keyspace
