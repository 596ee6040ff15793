import Keyspace.Engine.CouchDb
import Keyspace.Proofs.Http.Client

/-!
What a CouchDB server does, as far as the engine relies on it.

`Server` is about the requests that a client sends. A server keeps documents in databases, under
their ids. It takes a document in if it comes with the revision of the one that it is to replace,
gives it a new revision, and removes a document when its revision is named. What it answers is JSON
text, with space, escapes and members as it likes. Its answers can say more than what is asked of
them here.
-/

set_option autoImplicit false

namespace Keyspace.CouchDb

open Http (Response Url)

variable {ν : Type}

/-- What a server holds: under the name of each of its databases, the documents under their ids. -/
abbrev Holdings := SortedMap (SortedMap Document)

def revisionOf (doc : Document) : Option String := doc.text? Document.revField

def kept (doc : Document) (id rev : String) : Document :=
  (doc.insert Document.idField (.str id)).insert Document.revField (.str rev)

/-- The documents of a query: those with the given texts in the given fields, at most `limit` of
them in ascending order of their ids, each with those of the wanted fields that it has. -/
def queried (docs : SortedMap Document) (texts : List (String × String))
    (fields : Option (List String)) (limit : Nat) : List Document :=
  let found :=
    (docs.values.filter fun doc => texts.all fun e => doc.text? e.1 == some e.2).take limit
  match fields with
  | none => found
  | some names => found.map fun doc => doc.filter fun name _ => names.contains name

def services : List String := ["_all_docs", "_find", "_index"]

def Reports (r : Response) (id rev : String) : Prop :=
  ∃ members, r.Carries (.obj members) ∧ Json.FlatBut "id" members ∧
    SortedMap.lookup "id" members = some (.str id) ∧
    SortedMap.lookup "rev" members = some (.str rev)

def ShowsFound (r : Response) (found : List Document) : Prop :=
  ∃ members items, r.Carries (.obj members) ∧ Json.FlatBut "docs" members ∧
    SortedMap.lookup "docs" members = some (.arr items) ∧
    List.Forall₂ Json.Spells items found ∧
    ∀ v, SortedMap.lookup "warning" members = some v → ∃ text, v = .str text

/-- A server that keeps documents, below the segments `base`. The states of the network determine
what it holds, and `revision` which revisions it gives. -/
structure Server (c : CouchDb ν) (base : List String) (holdings : ν → Holdings)
    (revision : String → Prop) : Prop where
  visible : ∀ rev, revision rev → ∀ ch ∈ rev.toList, 0x20 ≤ ch.toNat ∧ ch.toNat ≤ 0x7e ∧ ch ≠ '"'
  head_database : ∀ url db s, url.Names base [db] → url.query = none →
    c.client.Answers .head url none s fun r s' =>
      holdings s' = holdings s ∧ r.status = if (holdings s).contains db then 200 else 404
  put_database : ∀ url db s, url.Names base [db] → url.query = some "n=1&q=2" →
    (holdings s).get? db = none →
    c.client.Answers .put url none s fun r s' =>
      r.status = 201 ∧ holdings s' = (holdings s).insert db SortedMap.empty
  head_document : ∀ url db id docs s, url.Names base [db, id] → url.query = none → id ∉ services →
    (holdings s).get? db = some docs →
    c.client.Answers .head url none s fun r s' =>
      holdings s' = holdings s ∧ match docs.get? id with
        | some doc => r.status = 200 ∧ r.etag = (revisionOf doc).map fun rev => "\"" ++ rev ++ "\""
        | none => r.status = 404
  get_document : ∀ url db id docs s, url.Names base [db, id] → url.query = none → id ∉ services →
    (holdings s).get? db = some docs →
    c.client.Answers .get url none s fun r s' =>
      holdings s' = holdings s ∧ match docs.get? id with
        | some doc => r.status = 200 ∧ ∃ v, r.Carries v ∧ v.Spells doc
        | none => r.status = 404
  /-- The document names the revision that is there, or none if there is none. -/
  put_document : ∀ url db id docs members s, url.Names base [db, id] → url.query = none →
    id ∉ services → (holdings s).get? db = some docs →
    revisionOf (SortedMap.ofList members) = (docs.get? id).bind revisionOf →
    c.client.Answers .put url (some (.obj members)) s fun r s' => ∃ rev, revision rev ∧
      r.status = 201 ∧ Reports r id rev ∧
      holdings s' = (holdings s).insert db (docs.insert id (kept (SortedMap.ofList members) id rev))
  delete_document : ∀ url db id docs doc rev s, url.Names base [db, id] → id ∉ services →
    (holdings s).get? db = some docs → docs.get? id = some doc → revisionOf doc = some rev →
    url.query.bind (Text.queryField? "rev") = some rev →
    c.client.Answers .delete url none s fun r s' =>
      r.status = 200 ∧ holdings s' = (holdings s).insert db (docs.erase id)
  find : ∀ url db docs members texts fields limit s, url.Names base [db, "_find"] →
    (holdings s).get? db = some docs →
    SortedMap.lookup "selector" members = some (.obj (texts.map fun e => (e.1, .str e.2))) →
    SortedMap.lookup "fields" members = fields.map (fun names => .arr (names.map .str)) →
    SortedMap.lookup "limit" members = some (.num (.natural limit)) →
    c.client.Answers .post url (some (.obj members)) s fun r s' =>
      holdings s' = holdings s ∧ r.status = 200 ∧
        ShowsFound r (queried docs texts fields limit.toNat)
  /-- Whatever the answer, an index shows in no document. -/
  index : ∀ url db body s, url.Names base [db, "_index"] →
    holdings (c.client.network.exchange (c.client.request .post url body) s).2 = holdings s

/-- A database can be used from its client: the address is one that paths can be put below, and no
URL for the whole database is refused. -/
structure Usable (c : CouchDb ν) (base : List String) (db : String) : Prop where
  root : c.root.IsRoot base
  name : db ≠ "." ∧ db ≠ ".."
  database : c.client.Takes (c.databaseUrl db)
  creation : c.client.Takes ((c.databaseUrl db).withQuery "n=1&q=2")
  queries : c.client.Takes (c.serviceUrl db "_find")

/-- A document's URL is not refused, nor when it names one of the server's revisions. -/
structure Reaches (c : CouchDb ν) (revision : String → Prop) (db id : String) : Prop where
  name : id ≠ "." ∧ id ≠ ".."
  ordinary : id ∉ services
  document : c.client.Takes (c.documentUrl db id)
  revised : ∀ rev, revision rev → c.client.Takes ((c.documentUrl db id).withField "rev" rev)

section

variable {c : CouchDb ν} {base : List String} {db : String}

theorem names_databaseUrl (hroot : c.root.IsRoot base) (hdb : db ≠ "." ∧ db ≠ "..") :
    (c.databaseUrl db).Names base [db] :=
  hroot.names_within [db] (by simpa using hdb)

theorem names_documentUrl (hroot : c.root.IsRoot base) (hdb : db ≠ "." ∧ db ≠ "..") {id : String}
    (hid : id ≠ "." ∧ id ≠ "..") : (c.documentUrl db id).Names base [db, id] :=
  hroot.names_within [db, id] (by simpa using ⟨hdb, hid⟩)

theorem names_serviceUrl (hroot : c.root.IsRoot base) (hdb : db ≠ "." ∧ db ≠ "..")
    {service : String} (hservice : service ∈ services) :
    (c.serviceUrl db service).Names base [db, service] := by
  have hplain : ∀ s ∈ services, (s ≠ "." ∧ s ≠ "..") ∧ Text.encodeSegment s = s := by
    decide +kernel
  obtain ⟨hname, hencoded⟩ := hplain service hservice
  have hnames := hroot.names_within [db, service] (by simpa using ⟨hdb, hname⟩)
  rw [List.map_cons, List.map_singleton, hencoded] at hnames
  exact hnames

theorem names_creationUrl (hroot : c.root.IsRoot base) (hdb : db ≠ "." ∧ db ≠ "..")
    (query : String) : ((c.databaseUrl db).withQuery query).Names base [db] ∧
      ((c.databaseUrl db).withQuery query).query = some query := by
  rw [databaseUrl, hroot.withQuery_within]
  exact ⟨(names_databaseUrl hroot hdb).congr rfl, rfl⟩

namespace Usable

theorem names_database (h : Usable c base db) : (c.databaseUrl db).Names base [db] :=
  names_databaseUrl h.root h.name

theorem names_document (h : Usable c base db) {id : String} (hid : id ≠ "." ∧ id ≠ "..") :
    (c.documentUrl db id).Names base [db, id] :=
  names_documentUrl h.root h.name hid

theorem names_service (h : Usable c base db) {service : String} (hservice : service ∈ services) :
    (c.serviceUrl db service).Names base [db, service] :=
  names_serviceUrl h.root h.name hservice

theorem names_creation (h : Usable c base db) (query : String) :
    ((c.databaseUrl db).withQuery query).Names base [db] ∧
      ((c.databaseUrl db).withQuery query).query = some query :=
  names_creationUrl h.root h.name query

theorem query_database (h : Usable c base db) : (c.databaseUrl db).query = none :=
  h.root.query_within _

theorem query_document (h : Usable c base db) (id : String) : (c.documentUrl db id).query = none :=
  h.root.query_within _

end Usable

end

end Keyspace.CouchDb
