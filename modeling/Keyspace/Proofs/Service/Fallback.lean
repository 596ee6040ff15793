import Keyspace.Proofs.Engine.CouchDb.Fallback
import Keyspace.Proofs.Service.CouchDb
import Keyspace.Proofs.Service.Firestore

set_option autoImplicit false

namespace Keyspace.Service

variable {σ ν ν' : Type} {user : String} {operation : Operation} {selector : Selector}
  {texts : List (String × String)} {fields : Option (List String)}

/-- The answer to a listing that is made of some documents; none where the operation is no listing,
or also counts reads. -/
def Operation.listed? (user : String) (docs : List Document) : Operation → Option Answer
  | .listKeys space keyPrefix =>
    some (.keys (sortedKeys keyPrefix ((firstFound (spaceSelector user space) docs).map keyOf)))
  | .listSpaces =>
    some (.spaces (SortedMap.ofList
      ((firstFound (userSelector user) docs).map fun doc => (spaceOf doc, ()))).keys)
  | .getAll space none =>
    some (.values (SortedMap.ofList ((firstFound (spaceSelector user space) docs).map fun doc =>
      (keyOf doc, doc.field Record.valueField))))
  | _ => none

inductive Listing (user : String) :
    Operation → List (String × String) → Option (List String) → Prop where
  | keys (space : String) (keyPrefix : Option String) :
    Listing user (.listKeys space keyPrefix)
      [(Record.spaceField, space), (Record.userField, user)] (some [Record.keyField])
  | spaces : Listing user .listSpaces [(Record.userField, user)] (some [Record.spaceField])
  | values (space : String) :
    Listing user (.getAll space none) [(Record.spaceField, space), (Record.userField, user)] none

theorem Listing.plain (h : Listing user operation texts fields) :
    ∀ names ∈ fields, ∀ name ∈ names, Firestore.Plain name := by
  have hspace : Firestore.Plain Record.spaceField := by decide +kernel
  have hkey : Firestore.Plain Record.keyField := by decide +kernel
  cases h with
  | keys space keyPrefix => simpa using hkey
  | spaces => simpa using hspace
  | values space => simp

/-- In a state, an engine's query for texts finds documents that look like the first ones that have
these texts. -/
def FindsFirst (e : Engine σ) (texts : List (String × String)) (fields : Option (List String))
    (docs : List Document) (s : σ) : Prop :=
  ∀ selector, AsksFor selector texts → ∃ ds s',
    e.find database selector fields findLimit s = .ok ds s' ∧
      List.Forall₂ (LooksLike fields) ds (firstFound selector docs)

/-- What an engine finds determines the answer to a listing. -/
theorem outcome_of_findsFirst {e : Engine σ} {docs : List Document} {r : Request} {s : State σ}
    (hlisting : Listing r.user r.operation texts fields)
    (h : FindsFirst e texts fields docs s.store)
    {answer : Answer} (hlisted : r.operation.listed? r.user docs = some answer) :
    (outcome e r s).1 = .ok answer := by
  obtain ⟨user, now, operation⟩ := r
  cases hlisting with
  | keys space keyPrefix =>
    cases hlisted
    obtain ⟨ds, s', hrun, hds⟩ := h _ (asksFor_space user space)
    have hkeys : ds.map keyOf = (firstFound (spaceSelector user space) docs).map keyOf :=
      map_eq_of_forall₂ hds fun _ _ hd => hd.keyOf_eq (by simp)
    simp [outcome, perform, listKeys, onStore, hrun, hkeys]
  | spaces =>
    cases hlisted
    obtain ⟨ds, s', hrun, hds⟩ := h _ (asksFor_user user)
    have hspaces : ds.map (fun doc => (spaceOf doc, ())) =
        (firstFound (userSelector user) docs).map fun doc => (spaceOf doc, ()) :=
      map_eq_of_forall₂ hds fun _ _ hd => by rw [hd.spaceOf_eq (by simp)]
    simp [outcome, perform, listSpaces, onStore, hrun, hspaces]
  | values space =>
    cases hlisted
    obtain ⟨ds, s', hrun, hds⟩ := h _ (asksFor_space user space)
    have hvalues : ds.map (fun doc => (keyOf doc, doc.field Record.valueField)) =
        (firstFound (spaceSelector user space) docs).map fun doc =>
          (keyOf doc, doc.field Record.valueField) :=
      map_eq_of_forall₂ hds fun _ _ hd => by
        rw [hd.keyOf_eq (by simp), hd _ (by decide) (by simp)]
    simp [outcome, perform, getAll, onStore, hrun, hvalues]

theorem outcome_of_find_error {e : Engine σ} {r : Request} {s : State σ} {error : StoreError}
    (hlisting : Listing r.user r.operation texts fields)
    (h : ∀ selector, AsksFor selector texts →
      ∃ s', e.find database selector fields findLimit s.store = .error error s') :
    (outcome e r s).1 = .error (.store error) := by
  obtain ⟨user, now, operation⟩ := r
  cases hlisting with
  | keys space keyPrefix =>
    obtain ⟨s', hrun⟩ := h _ (asksFor_space user space)
    simp [outcome, perform, listKeys, onStore, hrun]
  | spaces =>
    obtain ⟨s', hrun⟩ := h _ (asksFor_user user)
    simp [outcome, perform, listSpaces, onStore, hrun]
  | values space =>
    obtain ⟨s', hrun⟩ := h _ (asksFor_space user space)
    simp [outcome, perform, getAll, onStore, hrun]

section CouchDb

variable {c : CouchDb ν} {docs : SortedMap Document} {t : CouchDb.State ν}

theorem finds_couchDb_answered
    (hdepth : ∀ doc ∈ CouchDb.queried docs texts (CouchDb.wanted fields) findLimit,
      doc.toJson.depth ≤ 125)
    (h : CouchDb.AnswersQuery c database docs texts (CouchDb.wanted fields) findLimit t) :
    FindsFirst (Engine.couchDb c) texts fields (docs.values.map Document.reread) t := by
  intro selector hasks
  obtain ⟨t', hrun⟩ := CouchDb.find_answered hasks.entries hasks.valid hdepth h
  rw [← CouchDb.queried_reread] at hrun
  refine ⟨_, t', hrun, ?_⟩
  rw [← SortedMap.values_map]
  exact looksLike_queried hasks (docs.map Document.reread) fields

theorem finds_couchDb_listed (hplain : ∀ id ∈ docs.keys, ¬ "_design/".toList <+: id.toList)
    (hdepth : ∀ doc ∈ docs.values, doc.toJson.depth ≤ 124)
    (h : CouchDb.OnlyLists c database docs texts (CouchDb.wanted fields) findLimit t) :
    FindsFirst (Engine.couchDb c) texts fields (docs.values.map Document.reread) t := by
  intro selector hasks
  obtain ⟨t', hrun⟩ := CouchDb.find_listed hasks.entries hasks.valid hplain h
  rw [if_pos hdepth] at hrun
  exact ⟨_, t', hrun, looksLike_select (looksLike_refl none _) hasks fields⟩

/-- One document that nests too deep is enough for the listing of all of them to be unreadable. -/
theorem unlisted_couchDb {r : Request} {s : State (CouchDb.State ν)}
    (hplain : ∀ id ∈ docs.keys, ¬ "_design/".toList <+: id.toList)
    (hdeep : ¬ ∀ doc ∈ docs.values, doc.toJson.depth ≤ 124)
    (hlisting : Listing r.user r.operation texts fields)
    (h : CouchDb.OnlyLists c database docs texts (CouchDb.wanted fields) findLimit s.store) :
    (outcome (Engine.couchDb c) r s).1 = .error (.store Http.undecodable) := by
  refine outcome_of_find_error hlisting fun selector hasks => ?_
  obtain ⟨t', hrun⟩ := CouchDb.find_listed hasks.entries hasks.valid hplain h
  rw [if_neg hdeep] at hrun
  exact ⟨t', hrun⟩

theorem depth_queried {n : Nat} (h : ∀ doc ∈ docs.values, doc.toJson.depth ≤ n + 1)
    {limit : Nat} :
    ∀ doc ∈ CouchDb.queried docs texts fields limit, doc.toJson.depth ≤ n + 1 := by
  intro doc hdoc
  obtain ⟨id, whole, hwhole, rfl⟩ := CouchDb.mem_queried hdoc
  have hdepth := h whole (SortedMap.mem_values_iff.2 ⟨id, hwhole⟩)
  cases fields with
  | none => exact hdepth
  | some names =>
    exact Json.depth_obj_le_iff.2 fun e he =>
      Json.depth_obj_le_iff.1 hdepth e (List.mem_of_mem_filter he)

end CouchDb

section Firestore

variable {f : Firestore ν} {docs : SortedMap Document} {s : ν}

def readBack (docs : SortedMap Document) : List Document := docs.values.map Document.restored

theorem firstFound_readBack (h : AsksFor selector texts) (docs : SortedMap Document) :
    firstFound selector (readBack docs) =
      (Firestore.found docs texts none findLimit).map fun e => e.2.restored := by
  have haccepts : ∀ doc : Document, selector.accepts doc.restored =
      texts.all fun t => doc.get? t.1 = some (.str t.2) := by
    intro doc
    rw [Bool.eq_iff_iff, h.accepts, List.all_eq_true]
    refine forall₂_congr fun e _ => ?_
    rw [decide_eq_true_iff, TypedValue.get?_restored_eq_str_iff]
  rw [firstFound, readBack, SortedMap.values, List.map_map, List.filter_map, ← List.map_take]
  simp only [Firestore.found, Function.comp_def, haccepts]

theorem finds_firestore_answered (hlisting : Listing user operation texts fields)
    (hdepth : ∀ e ∈ Firestore.found docs texts (Firestore.kept fields) findLimit,
      e.2.typedDepth ≤ 124)
    (h : Firestore.AnswersQuery f database docs texts (Firestore.kept fields) findLimit s) :
    FindsFirst (Engine.firestore f) texts fields (readBack docs) s := by
  intro selector hasks
  obtain ⟨ds, s', hds, hrun⟩ := Firestore.find_answered hasks.entries hasks.valid
    (plain_of_asksFor hasks) hlisting.plain
    (show findLimit ≤ StructuredQuery.maxLimit by decide) hdepth h
  refine ⟨_, s', hrun, ?_⟩
  rw [firstFound_readBack hasks, List.forall₂_map_right_iff]
  exact looksLike_cutTo hds

theorem finds_firestore_listed (hlisting : Listing user operation texts fields)
    (hdepth : ∀ e ∈ docs.entries, e.2.typedDepth ≤ 124)
    (h : Firestore.OnlyLists f database docs texts (Firestore.kept fields) findLimit s) :
    FindsFirst (Engine.firestore f) texts fields (readBack docs) s := by
  intro selector hasks
  have hfind := Firestore.find_listed hasks.entries hasks.valid (plain_of_asksFor hasks)
    hlisting.plain (show findLimit ≤ StructuredQuery.maxLimit by decide) h
  rw [if_pos hdepth] at hfind
  obtain ⟨ds, s', hds, hrun⟩ := hfind
  refine ⟨_, s', hrun, looksLike_select ?_ hasks fields⟩
  rw [readBack, SortedMap.values, List.map_map, List.forall₂_map_right_iff]
  exact hds.imp fun d e hd => looksLike_of_readAs hd

theorem unlisted_firestore {r : Request} {s : State ν}
    (hdeep : ¬ ∀ e ∈ docs.entries, e.2.typedDepth ≤ 124)
    (hlisting : Listing r.user r.operation texts fields)
    (h : Firestore.OnlyLists f database docs texts (Firestore.kept fields) findLimit s.store) :
    (outcome (Engine.firestore f) r s).1 = .error (.store Http.undecodable) := by
  refine outcome_of_find_error hlisting fun selector hasks => ?_
  have hfind := Firestore.find_listed hasks.entries hasks.valid (plain_of_asksFor hasks)
    hlisting.plain (show findLimit ≤ StructuredQuery.maxLimit by decide) h
  rw [if_neg hdeep] at hfind
  exact hfind

theorem typedDepth_found {n : Nat} (h : ∀ e ∈ docs.entries, e.2.typedDepth ≤ n + 1)
    {limit : Nat} :
    ∀ e ∈ Firestore.found docs texts fields limit, e.2.typedDepth ≤ n + 1 := by
  intro e he
  obtain ⟨whole, hwhole, hcut⟩ := Firestore.mem_found he
  have hdepth := h _ (SortedMap.get?_eq_some_iff.1 hwhole)
  rw [hcut]
  cases fields with
  | none => exact hdepth
  | some names =>
    exact TypedValue.typedDepth_le_iff.2 fun m hm =>
      TypedValue.typedDepth_le_iff.1 hdepth m (List.mem_of_mem_filter hm)

end Firestore

def sampleDocs : SortedMap Document := SortedMap.ofList
  [("a", SortedMap.ofList [(Record.userField, .str "u"), (Record.spaceField, .str "n"),
      (Record.keyField, .str "k"), (Record.valueField, .bool true),
      (Document.revField, .str "0")]),
    ("b", SortedMap.ofList [(Record.userField, .str "u"), (Record.spaceField, .str "n"),
      (Document.revField, .str "0")]),
    ("c", SortedMap.ofList [(Record.userField, .str "u"),
      (Record.spaceField, .num (.natural 7)), (Document.revField, .str "0")])]

open Http (Script)

theorem answersQuery_shelf {docs : SortedMap Document}
    (hrevised : ∀ e ∈ docs.entries, CouchDb.revisionOf e.2 = some "0")
    (texts : List (String × String)) (fields : Option (List String)) :
    CouchDb.AnswersQuery CouchDb.Shelf.connected database docs texts fields findLimit
      (CouchDb.start ⟨SortedMap.ofList [(database, docs)], 1⟩) := by
  refine CouchDb.answersQuery_of_server (CouchDb.Shelf.server rfl) usable_database ?_ texts fields
    (by decide)
  refine ⟨?_, fun hdone => ?_, fun id doc hdoc => ?_⟩
  · change ((SortedMap.ofList [(database, docs)]).get? database).getD SortedMap.empty = docs
    rw [SortedMap.get?_ofList]
    rfl
  · simp [CouchDb.start, DoneSet.empty, DoneSet.contains] at hdone
  · exact ⟨"0", ⟨0, by decide +kernel⟩, hrevised _ (SortedMap.get?_eq_some_iff.1 hdoc)⟩

def scriptedCouchDb : CouchDb Script :=
  ⟨"http://localhost:5984", CouchDb.Shelf.root, ⟨Script.network, none⟩⟩

def rowMembers (e : String × Document) : List (String × Json) :=
  [("doc", e.2.toJson), ("id", .str e.1)]

def couchDbScript (docs : SortedMap Document) : Script where
  reachable := true
  replies := [.answered ⟨200, none, .json .null⟩, .dropped,
    .answered ⟨200, none, .json (.obj [("rows", .arr (docs.entries.map fun e =>
      .obj (rowMembers e)))])⟩]
  requests := []

theorem onlyLists_couchDbScript (docs : SortedMap Document) (texts : List (String × String))
    (fields : Option (List String)) :
    CouchDb.OnlyLists scriptedCouchDb database docs texts fields findLimit
      (CouchDb.start (couchDbScript docs)) := by
  have hdatabase : scriptedCouchDb.client.Takes (scriptedCouchDb.databaseUrl database) :=
    usable_database.database.congr rfl
  have hqueries : scriptedCouchDb.client.Takes (scriptedCouchDb.serviceUrl database "_find") :=
    usable_database.queries.congr rfl
  have hlisting : scriptedCouchDb.client.Takes
      ((scriptedCouchDb.serviceUrl database "_all_docs").withField "include_docs" "true") := by
    refine Http.Client.Takes.congr (c := CouchDb.Shelf.connected.client) ?_ rfl
    exact CouchDb.Shelf.takes_of_size (by decide +kernel) (by decide +kernel) (by decide +kernel)
  have hensure : scriptedCouchDb.ensureDatabase database (CouchDb.start (couchDbScript docs)) =
      .ok () ⟨⟨true, (couchDbScript docs).replies.tail, [scriptedCouchDb.client.request .head
        (scriptedCouchDb.databaseUrl database) none]⟩, DoneSet.empty.insert database,
        DoneSet.empty⟩ := by
    simp only [CouchDb.ensureDatabase, CouchDb.createIfMissing, CouchDb.send, CouchDb.start,
      couchDbScript, bind_apply, get_apply, DoneSet.ensure_apply, modifyGet_apply,
      Script.send_answered rfl hdatabase]
    rfl
  have hrows : List.Forall₂ CouchDb.ShowsRow (docs.entries.map fun e => .obj (rowMembers e))
      docs.entries := by
    refine List.forall₂_map_left_iff.2 (List.forall₂_same.2 fun e _ => ?_)
    exact ⟨rowMembers e, _, rfl, ⟨by simp [rowMembers], by simp [rowMembers, Json.depth]⟩, rfl, rfl,
      Json.spells_toJson e.2⟩
  refine ⟨_, hensure, fun members _ => ?_⟩
  simp only [CouchDb.send, couchDbScript, List.tail_cons, Script.send_dropped rfl hqueries,
    finalState, Script.send_answered rfl hlisting]
  exact ⟨trivial, _, _, rfl, rfl, _, _, Http.Response.carries_json .., ⟨by simp, by simp⟩, rfl,
    hrows⟩

def scriptedFirestore : Firestore Script := ⟨Firestore.Shelf.documents, ⟨Script.network, none⟩⟩

def shownSample (e : String × Document) : Json :=
  .obj (Firestore.Shelf.resourceMembers database e.1 (TypedValue.encodeFields e.2) 0)

def pageOf (entries : List (String × Document)) (next : Option String) : Http.Response :=
  ⟨200, none, .json (.obj (("documents", .arr (entries.map shownSample)) ::
    next.toList.map fun token => ("nextPageToken", .str token)))⟩

def firestoreScript (docs : SortedMap Document) : Script where
  reachable := true
  replies := [.answered ⟨500, none, .text "unavailable"⟩,
    .answered (pageOf (docs.entries.take 2) (some "c")),
    .answered (pageOf (docs.entries.drop 2) none)]
  requests := []

theorem showsPage_sample (entries : List (String × Document)) (next : Option String) :
    Firestore.ShowsPage (("documents", .arr (entries.map shownSample)) ::
      next.toList.map fun token => ("nextPageToken", .str token)) entries next where
  flat := by cases next <;> exact ⟨by simp, by simp [Json.depth]⟩
  documents := ⟨_, rfl, List.forall₂_map_left_iff.2 (List.forall₂_same.2 fun _ _ =>
    ⟨_, rfl, Firestore.Shelf.shows_resourceMembers ..⟩)⟩
  token := by cases next <;> rfl

theorem onlyLists_firestoreScript (docs : SortedMap Document) (texts : List (String × String))
    (fields : Option (List String)) :
    Firestore.OnlyLists scriptedFirestore database docs texts fields findLimit
      (firestoreScript docs) := by
  have htakes : ∀ url : Http.Url, url.scheme = Firestore.Shelf.documents.scheme →
      url.authority = Firestore.Shelf.documents.authority →
      url.text.utf8ByteSize ≤ Http.Url.longest → scriptedFirestore.client.Takes url :=
    fun url hscheme hauthority hsize =>
      (Firestore.Shelf.takes_of_size hscheme hauthority hsize).congr rfl
  have hqueries := htakes (scriptedFirestore.documents.suffixed ":runQuery") (by decide +kernel)
    (by decide +kernel) (by decide +kernel)
  have hfirst := htakes (scriptedFirestore.pageUrl database none) (by decide +kernel)
    (by decide +kernel) (by decide +kernel)
  have hsecond := htakes (scriptedFirestore.pageUrl database (some "c")) (by decide +kernel)
    (by decide +kernel) (by decide +kernel)
  intro members _
  refine ⟨_, rfl, ?_⟩
  simp only [Firestore.send, firestoreScript, Script.send_answered rfl hqueries]
  refine ⟨.inl rfl, 2, ?_, ?_⟩
  · have hlast : ∀ sent, Firestore.Pages scriptedFirestore database 1 (some "c")
        ⟨true, [.answered (pageOf (docs.entries.drop 2) none)], sent⟩ (docs.entries.drop 2) :=
      fun sent => .last none (Script.send_answered rfl hsecond ..) rfl
        (Http.Response.carries_json ..) (showsPage_sample _ none) (.inl rfl)
    have hpages : ∀ sent, Firestore.Pages scriptedFirestore database 2 none
        ⟨true, [.answered (pageOf (docs.entries.take 2) (some "c")),
          .answered (pageOf (docs.entries.drop 2) none)], sent⟩
        (docs.entries.take 2 ++ docs.entries.drop 2) :=
      fun sent => .more (Script.send_answered rfl hfirst ..) rfl (Http.Response.carries_json ..)
        (showsPage_sample _ (some "c")) (by decide) (hlast _)
    simp only [List.take_append_drop] at hpages
    exact hpages _
  · simp [finalState, scriptedFirestore, Script.network]

theorem answersQuery_service (docs : SortedMap Document) (texts : List (String × String))
    (fields : Option (List String)) :
    Firestore.AnswersQuery Firestore.Shelf.connected database docs texts fields findLimit
      ⟨SortedMap.ofList [(database, Firestore.typedFields docs)], 0⟩ := by
  refine Firestore.answersQuery_of_server (Firestore.Shelf.server rfl) Firestore.Shelf.isPlace ?_ ?_
    texts fields (by decide)
  · exact Firestore.Shelf.takes_of_size (by decide +kernel) (by decide +kernel) (by decide +kernel)
  · rw [Firestore.Shelf.holdings, SortedMap.get?_ofList]
    rfl

def sampleListing : Request := ⟨"u", Instant.epoch, .getAll "n" none⟩

def sampleAnswer : Answer := .values (SortedMap.ofList [("", .null), ("k", .bool true)])

def deepDocs (levels : Nat) : SortedMap Document := SortedMap.ofList
  [("a", SortedMap.ofList [(Record.userField, .str "u"), (Record.spaceField, .str "n"),
    (Record.keyField, .str "k"), (Record.valueField, nested levels),
    (Document.revField, .str "0")])]

def keysListing : Request := ⟨"u", Instant.epoch, .listKeys "n" none⟩

def keysTexts : List (String × String) := [(Record.spaceField, "n"), (Record.userField, "u")]

def keysFields : Option (List String) := some [Record.keyField]

end Keyspace.Service
