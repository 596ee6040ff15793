import Keyspace.Proofs.Engine.CouchDb.Shelf
import Keyspace.Proofs.Engine.Firestore.Server
import Keyspace.Proofs.SortedMap

set_option autoImplicit false

namespace Keyspace.Firestore

open Http (Response Reply Request Url)
open CouchDb.Shelf (place? place?_of_names mapM_eq_some_of_map)

structure Shelf where
  collections : SortedMap Holdings
  writes : Nat

namespace Shelf

def empty : Shelf := ⟨SortedMap.empty, 0⟩

def holdings (s : Shelf) (db : String) : Holdings := (s.collections.get? db).getD SortedMap.empty

def put (s : Shelf) (db : String) (held : Holdings) : Shelf :=
  ⟨s.collections.insert db held, s.writes + 1⟩

theorem holdings_put (s : Shelf) (db : String) (held : Holdings) :
    (s.put db held).holdings db = held := by
  simp [put, holdings]

def answer (status : Nat) (body : Json) (s : Shelf) : Reply × Shelf :=
  (.answered ⟨status, none, .json body⟩, s)

def refuse (status : Nat) (reason : String) (s : Shelf) : Reply × Shelf :=
  answer status (.obj [("error", .obj [("status", .str reason)])]) s

def resourceMembers (db id : String) (fields : SortedMap Json) (writes : Nat) :
    List (String × Json) :=
  [("fields", .obj fields.entries),
    ("name", .str ("projects/demo/databases/(default)/documents/" ++ db ++ "/" ++ id)),
    ("updateTime", .str ("2030-01-01T00:00:00." ++ toString writes ++ "Z"))]

def onDocument (request : Request) (db id : String) (s : Shelf) : Reply × Shelf :=
  match request.method, (s.holdings db).get? id with
  | .get, some fields => answer 200 (.obj (resourceMembers db id fields s.writes)) s
  | .patch, _ =>
    match request.body with
    | some (.obj [("fields", .obj members)]) =>
      let fields := SortedMap.ofList members
      answer 200 (.obj (resourceMembers db id fields s.writes))
        (s.put db ((s.holdings db).insert id fields))
    | _ => refuse 400 "INVALID_ARGUMENT" s
  | .delete, some _ => answer 200 (.obj []) (s.put db ((s.holdings db).erase id))
  | .get, none | .delete, none => refuse 404 "NOT_FOUND" s
  | _, _ => refuse 405 "UNIMPLEMENTED" s

def name? (v : Json) : Option String := (v.member? "fieldPath").bind Json.text?

def equals? (v : Json) : Option (String × String) := do
  let filter ← v.member? "fieldFilter"
  let name ← (filter.member? "field").bind name?
  let text ← ((← filter.member? "value").member? "stringValue").bind Json.text?
  return (name, text)

def texts? : Option Json → Option (List (String × String))
  | none => some []
  | some v =>
    match v.member? "compositeFilter" with
    | some filter => (filter.member? "filters").bind (Json.list? equals?)
    | none => (equals? v).map fun e => [e]

def fields? : Option Json → Option (Option (List String))
  | none => some none
  | some v => ((v.member? "fields").bind (Json.list? name?)).map some

def collection? : Json → Option String
  | .arr [v] => (v.member? "collectionId").bind Json.text?
  | _ => none

def asked? (s : Shelf) (members : List (String × Json)) :
    Option (String × List (String × SortedMap Json)) := do
  let db ← (SortedMap.lookup "from" members).bind collection?
  let texts ← texts? (SortedMap.lookup "where" members)
  let fields ← fields? (SortedMap.lookup "select" members)
  let limit ← (SortedMap.lookup "limit" members).bind Json.nat64?
  return (db, queried (s.holdings db) texts fields limit.toNat)

def onQuery (request : Request) (s : Shelf) : Reply × Shelf :=
  match request.body with
  | some (.obj [("structuredQuery", .obj members)]) =>
    match asked? s members with
    | some (db, found) =>
      answer 200 (.arr (found.map fun e =>
        .obj [("document", .obj (resourceMembers db e.1 e.2 s.writes))])) s
    | none => refuse 400 "INVALID_ARGUMENT" s
  | _ => refuse 400 "INVALID_ARGUMENT" s

def network : Http.Network Shelf where
  exchange request s :=
    match place? request.url with
    | some ["v1", "projects", "demo", "databases", "(default)", "documents", db, id] =>
      onDocument request db id s
    | some ["v1", "projects", "demo", "databases", "(default)", "documents:runQuery"] =>
      onQuery request s
    | _ => refuse 404 "NOT_FOUND" s
  horizon _ := 1

theorem flat_resourceMembers (db id : String) (fields : SortedMap Json) (writes : Nat) :
    Json.FlatBut "fields" (resourceMembers db id fields writes) :=
  ⟨by simp [resourceMembers], by simp [resourceMembers, Json.depth]⟩

theorem shows_resourceMembers (db id : String) (fields : SortedMap Json) (writes : Nat) :
    Shows (resourceMembers db id fields writes) id fields where
  flat := flat_resourceMembers ..
  name := ⟨"projects/demo/databases/(default)/documents/" ++ db, rfl⟩
  spells := Json.spells_toJson fields
  time _ hv := ⟨_, (Option.some.inj hv).symm⟩

theorem reports_resourceMembers (db id : String) (fields : SortedMap Json) (writes : Nat) :
    Reports (resourceMembers db id fields writes) fields where
  flat := flat_resourceMembers ..
  name := ⟨_, rfl⟩
  spells := .inr (Json.spells_toJson fields)
  time := ⟨_, rfl⟩

theorem equals?_equalsJson (e : String × String) : equals? (equalsJson e) = some e := rfl

theorem texts?_filterJson? (texts : List (String × String)) :
    texts? (filterJson? texts) = some texts := by
  match texts with
  | [] => rfl
  | [e] => rfl
  | e :: f :: rest =>
    have hall : ((e :: f :: rest).map equalsJson).mapM equals? = some (e :: f :: rest) :=
      mapM_eq_some_of_map (by simp [equals?_equalsJson])
    exact hall

theorem fields?_of_names (fields : Option (List String)) :
    fields? (fields.map fun names => .obj [("fields", .arr (names.map fieldJson))]) =
      some fields := by
  cases fields with
  | none => rfl
  | some names =>
    have hname : ∀ name, name? (fieldJson name) = some name := fun _ => rfl
    have hall : (names.map fieldJson).mapM name? = some names :=
      mapM_eq_some_of_map (by simp [hname])
    rw [Option.map_some, fields?]
    simp only [Json.member?, SortedMap.lookup, if_true, Option.bind_some, Json.list?, hall,
      Option.map_some]

theorem asked?_of_asks {s : Shelf} {members : List (String × Json)} {db : String}
    {texts : List (String × String)} {fields : Option (List String)} {limit : UInt64}
    (h : Asks members db texts fields limit) :
    asked? s members = some (db, queried (s.holdings db) texts fields limit.toNat) := by
  simp [asked?, h.collection, collection?, Json.member?, SortedMap.lookup, Json.text?, h.filter,
    texts?_filterJson?, h.kept, fields?_of_names, h.limit, Json.nat64?, Json.Number.nat64?]

theorem showsFound_answer (db : String) (found : List (String × SortedMap Json)) (writes : Nat) :
    ShowsFound ⟨200, none, .json (.arr (found.map fun e =>
      .obj [("document", .obj (resourceMembers db e.1 e.2 writes))]))⟩ found := by
  refine ⟨found.map fun e => [("document", .obj (resourceMembers db e.1 e.2 writes))], ?_, ?_, ?_⟩
  · rw [List.map_map]
    exact Response.carries_json ..
  · rw [List.forall_mem_map]
    exact fun e _ => ⟨by simp, by simp⟩
  · have hshown : (found.map fun e =>
        [("document", Json.obj (resourceMembers db e.1 e.2 writes))]).filterMap
          (SortedMap.lookup "document") =
        found.map fun e => .obj (resourceMembers db e.1 e.2 writes) := by
      rw [List.filterMap_map, ← List.filterMap_eq_map]
      rfl
    rw [hshown, List.forall₂_map_left_iff, List.forall₂_same]
    exact fun e _ => ⟨_, rfl, shows_resourceMembers ..⟩

variable {f : Firestore Shelf}

def base : List String := ["v1", "projects", "demo", "databases", "(default)", "documents"]

theorem exchange_document (hf : f.client.network = network) {method : Http.Method} {url : Url}
    {db id : String} (hnames : url.Names base [db, id]) (body : Option Json) (s : Shelf) :
    f.client.network.exchange (f.client.request method url body) s =
      onDocument (f.client.request method url body) db id s := by
  have hall : url.Names [] (base ++ [db, id]) := by
    obtain ⟨encoded, hpath, hplace⟩ := hnames
    refine ⟨base ++ encoded, hpath, ?_⟩
    have hbase : base.map (fun s => Text.percentDecode? s.toList) = base.map some := by
      decide +kernel
    rw [List.map_append, hplace, hbase, List.map_append]
  have hplace : place? (f.client.request method url body).url = some (base ++ [db, id]) :=
    place?_of_names hall
  simp only [hf, network, hplace, base, List.cons_append, List.nil_append]

theorem exchange_query (hf : f.client.network = network) {url : Url}
    (hpath : url.path = (Http.Path.segments base).suffixed ":runQuery")
    (body : Option Json) (s : Shelf) :
    f.client.network.exchange (f.client.request .post url body) s =
      onQuery (f.client.request .post url body) s := by
  have hnames : url.Names []
      ["v1", "projects", "demo", "databases", "(default)", "documents:runQuery"] :=
    ⟨_, by rw [hpath]; rfl, by decide +kernel⟩
  have hplace : place? (f.client.request .post url body).url =
      some ["v1", "projects", "demo", "databases", "(default)", "documents:runQuery"] :=
    place?_of_names hnames
  simp only [hf, network, hplace]

theorem server (hf : f.client.network = network) : Server f base Shelf.holdings where
  get_document url db id s hnames _ _ := by
    rw [Http.Client.Answers, exchange_document hf hnames, onDocument, Http.Client.request]
    cases (s.holdings db).get? id with
    | none => exact ⟨_, _, rfl, rfl, rfl⟩
    | some fields =>
      exact ⟨_, _, rfl, rfl, rfl, _, Response.carries_json .., shows_resourceMembers ..⟩
  patch_document url db id members s hnames _ _ := by
    rw [Http.Client.Answers, exchange_document hf hnames, onDocument, Http.Client.request]
    exact ⟨_, _, rfl, ⟨rfl, _, Response.carries_json .., reports_resourceMembers ..⟩,
      holdings_put ..⟩
  delete_document url db id s hnames _ _ := by
    rw [Http.Client.Answers, exchange_document hf hnames, onDocument, Http.Client.request]
    cases (s.holdings db).get? id with
    | none => exact ⟨_, _, rfl, rfl, rfl⟩
    | some fields => exact ⟨_, _, rfl, rfl, holdings_put ..⟩
  run_query url db members texts fields limit s hpath _ hasks := by
    rw [Http.Client.Answers, exchange_query hf hpath, onQuery, Http.Client.request]
    simp only [asked?_of_asks hasks]
    exact ⟨_, _, rfl, rfl, rfl, showsFound_answer ..⟩

def documents : Url :=
  ⟨"http", some ⟨none, some (.domain ⟨"localhost"⟩), some 8080⟩, .segments base, none, none⟩

def connected : Firestore Shelf := ⟨documents, ⟨network, none⟩⟩

theorem isPlace : connected.documents.IsPlace base := ⟨rfl, rfl, rfl⟩

/-- What can be sent to the shelf is limited by its length only. -/
theorem takes_of_size {url : Url} (hscheme : url.scheme = documents.scheme)
    (hauthority : url.authority = documents.authority)
    (hsize : url.text.utf8ByteSize ≤ Url.longest) : connected.client.Takes url :=
  Http.Client.takes_of_size rfl (by simp [Url.isWeb, hscheme, documents]) hauthority (by decide)
    hsize

theorem documentUrl_eq {db id : String} (hdb : db ≠ "." ∧ db ≠ "..") (hid : id ≠ "." ∧ id ≠ "..") :
    connected.documentUrl db id =
      { documents with
        path := .segments (base ++ [Text.encodeSegment db, Text.encodeSegment id]) } :=
  isPlace.below_eq [db, id] (by simpa using ⟨hdb, hid⟩)

theorem bared_documentUrl {db id : String} (hdb : db ≠ "." ∧ db ≠ "..")
    (hid : id ≠ "." ∧ id ≠ "..") :
    (connected.documentUrl db id).bared = connected.documentUrl db id := by
  rw [documentUrl_eq hdb hid]
  exact Url.bared_of_authority rfl

theorem text_documentUrl {db id : String} (hdb : db ≠ "." ∧ db ≠ "..")
    (hid : id ≠ "." ∧ id ≠ "..") :
    (connected.documentUrl db id).text =
      documents.text ++ ("/" ++ Text.encodeSegment db) ++ ("/" ++ Text.encodeSegment id) := by
  rw [documentUrl_eq hdb hid]
  simp [Url.text, documents, base, Http.Path.text, String.join, String.append_assoc]

end Shelf

end Keyspace.Firestore
