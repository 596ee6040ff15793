import Keyspace.Engine.Firestore
import Keyspace.Proofs.Http.Client
import Mathlib.Data.List.Forall2

set_option autoImplicit false

namespace Keyspace.Firestore

open Http (Response Url)

variable {ν : Type}

/-- What a service holds in a collection: the typed fields of documents, under their ids. -/
abbrev Holdings := SortedMap (SortedMap Json)

/-- The members of a resource spell these fields, or leave them out where there are none. -/
def Spells (members : List (String × Json)) (fields : SortedMap Json) : Prop :=
  match SortedMap.lookup "fields" members with
  | some v => v.Spells fields
  | none => fields = SortedMap.empty

/-- The members of a resource show a document. Its name ends with the id. -/
structure Shows (members : List (String × Json)) (id : String) (fields : SortedMap Json) :
    Prop where
  flat : Json.FlatBut "fields" members
  name : ∃ parent, SortedMap.lookup "name" members = some (.str (parent ++ "/" ++ id))
  spells : Spells members fields
  time : ∀ v, SortedMap.lookup "updateTime" members = some v → ∃ time, v = .str time

/-- The members of a resource report that fields were written, which they need not repeat. -/
structure Reports (members : List (String × Json)) (fields : SortedMap Json) : Prop where
  flat : Json.FlatBut "fields" members
  name : ∃ name, SortedMap.lookup "name" members = some (.str name)
  spells : SortedMap.lookup "fields" members = none ∨ Spells members fields
  time : ∃ time, SortedMap.lookup "updateTime" members = some (.str time)

def ShowsResource (v : Json) (e : String × SortedMap Json) : Prop :=
  ∃ members, v = .obj members ∧ Shows members e.1 e.2

def ShowsFound (r : Response) (found : List (String × SortedMap Json)) : Prop :=
  ∃ items : List (List (String × Json)), r.Carries (.arr (items.map .obj)) ∧
    (∀ item ∈ items, Json.FlatBut "document" item) ∧
    List.Forall₂ ShowsResource (items.filterMap (SortedMap.lookup "document")) found

/-- A name that a query can give as it is. -/
def Plain (name : String) : Prop := FieldPath.isPlain name.toList = true

instance (name : String) : Decidable (Plain name) := inferInstanceAs (Decidable (_ = _))

def fieldJson (name : String) : Json := .obj [("fieldPath", .str name)]

def equalsJson (e : String × String) : Json :=
  .obj [("fieldFilter", .obj
    [("field", fieldJson e.1), ("op", .str "EQUAL"),
      ("value", .obj [("stringValue", .str e.2)])])]

def filterJson? : List (String × String) → Option Json
  | [] => none
  | [e] => some (equalsJson e)
  | texts =>
    some (.obj [("compositeFilter", .obj
      [("filters", .arr (texts.map equalsJson)), ("op", .str "AND")])])

/-- The members of a query for texts in fields of a collection's documents, with the fields to keep
and a limit. -/
structure Asks (members : List (String × Json)) (db : String) (texts : List (String × String))
    (fields : Option (List String)) (limit : UInt64) : Prop where
  collection : SortedMap.lookup "from" members = some (.arr [.obj [("collectionId", .str db)]])
  filter : SortedMap.lookup "where" members = filterJson? texts
  kept : SortedMap.lookup "select" members =
    fields.map fun names => .obj [("fields", .arr (names.map fieldJson))]
  limit : SortedMap.lookup "limit" members = some (.num (.natural limit))
  plain : ∀ e ∈ texts, Plain e.1
  plain_kept : ∀ names ∈ fields, ∀ name ∈ names, Plain name

/-- What a query finds: the documents whose fields are these texts, at most `limit` of them in
ascending order of their ids, each with those of the wanted fields that it has. -/
def queried (held : Holdings) (texts : List (String × String)) (fields : Option (List String))
    (limit : Nat) : List (String × SortedMap Json) :=
  let found := (held.entries.filter fun e => texts.all fun t =>
    e.2.get? t.1 = some (.obj [("stringValue", .str t.2)])).take limit
  match fields with
  | none => found
  | some names => found.map fun e => (e.1, e.2.filter fun name _ => names.contains name)

/-- A service that keeps documents in collections, below the segments `base`. The states of the
network determine what it holds. -/
structure Server (f : Firestore ν) (base : List String) (holdings : ν → String → Holdings) :
    Prop where
  get_document : ∀ url db id s, url.Names base [db, id] → url.query = none → '/' ∉ id.toList →
    f.client.Answers .get url none s fun r s' =>
      holdings s' = holdings s ∧ match (holdings s db).get? id with
        | some fields =>
          r.status = 200 ∧ ∃ shown, r.Carries (.obj shown) ∧ Shows shown id fields
        | none => r.status = 404
  patch_document : ∀ url db id members s, url.Names base [db, id] → url.query = none →
    '/' ∉ id.toList →
    f.client.Answers .patch url (some (.obj [("fields", .obj members)])) s fun r s' =>
      (r.status = 200 ∧ ∃ shown, r.Carries (.obj shown) ∧
          Reports shown (SortedMap.ofList members)) ∧
        holdings s' db = (holdings s db).insert id (SortedMap.ofList members)
  /-- The request is about a document that is there. -/
  delete_document : ∀ url db id s, url.Names base [db, id] → '/' ∉ id.toList →
    url.query.bind (Text.queryField? "currentDocument.exists") = some "true" →
    f.client.Answers .delete url none s fun r s' =>
      match (holdings s db).get? id with
        | some _ => r.status = 200 ∧ holdings s' db = (holdings s db).erase id
        | none => r.status = 404 ∧ holdings s' = holdings s
  run_query : ∀ url db members texts fields limit s,
    url.path = (Http.Path.segments base).suffixed ":runQuery" → url.query = none →
    Asks members db texts fields limit →
    f.client.Answers .post url (some (.obj [("structuredQuery", .obj members)])) s fun r s' =>
      holdings s' = holdings s ∧ r.status = 200 ∧
        ShowsFound r (queried (holdings s db) texts fields limit.toNat)

end Keyspace.Firestore
