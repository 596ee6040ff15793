import Keyspace.Proofs.Engine.CouchDb.Operations
import Keyspace.Proofs.Engine.CouchDb.Runs

set_option autoImplicit false

namespace Keyspace.CouchDb

open Http (Response Fails)

variable {ν : Type} {c : CouchDb ν} {db : String} {docs : SortedMap Document} {t : State ν}

def ShowsRow (v : Json) (e : String × Document) : Prop :=
  ∃ members doc, v = .obj members ∧ Json.FlatBut "doc" members ∧
    SortedMap.lookup "id" members = some (.str e.1) ∧
    SortedMap.lookup "doc" members = some doc ∧ doc.Spells e.2

def ShowsRows (r : Response) (docs : SortedMap Document) : Prop :=
  ∃ members rows, r.Carries (.obj members) ∧ Json.FlatBut "rows" members ∧
    SortedMap.lookup "rows" members = some (.arr rows) ∧
    List.Forall₂ ShowsRow rows docs.entries

structure Asks (members : List (String × Json)) (texts : List (String × String))
    (fields : Option (List String)) (limit : UInt64) : Prop where
  selector : SortedMap.lookup "selector" members = some (.obj (texts.map fun e => (e.1, .str e.2)))
  fields : SortedMap.lookup "fields" members = fields.map fun names => .arr (names.map .str)
  limit : SortedMap.lookup "limit" members = some (.num (.natural limit))

/-- In this state, a query for texts is answered with what it finds among some documents. -/
def AnswersQuery (c : CouchDb ν) (db : String) (docs : SortedMap Document)
    (texts : List (String × String)) (fields : Option (List String)) (limit : Nat) (t : State ν) :
    Prop :=
  ∃ t', c.ensureDatabase db t = .ok () t' ∧ ∀ members,
    Asks members texts fields (UInt64.ofNat limit) →
    ∃ r s, c.send .post (c.serviceUrl db "_find") (some (.obj members)) t' = .ok r s ∧
      r.isSuccess = true ∧ ShowsFound r (queried docs texts fields limit)

/-- In this state, a query for texts fails in one way or another. A listing after that is answered
with these documents. -/
def OnlyLists (c : CouchDb ν) (db : String) (docs : SortedMap Document)
    (texts : List (String × String)) (fields : Option (List String)) (limit : Nat) (t : State ν) :
    Prop :=
  ∃ t', c.ensureDatabase db t = .ok () t' ∧ ∀ members,
    Asks members texts fields (UInt64.ofNat limit) →
    Fails found? (c.send .post (c.serviceUrl db "_find") (some (.obj members)) t') ∧
    ∃ r s, c.send .get ((c.serviceUrl db "_all_docs").withField "include_docs" "true") none
        (finalState (c.send .post (c.serviceUrl db "_find") (some (.obj members)) t')) = .ok r s ∧
      r.isSuccess = true ∧ ShowsRows r docs

theorem answersQuery_of_server {base : List String} {holdings : ν → Holdings}
    {revision : String → Prop} (hserver : Server c base holdings revision) (hdb : Usable c base db)
    (h : Shows holdings revision db docs t) (texts : List (String × String))
    (fields : Option (List String)) {limit : Nat} (hlimit : limit < 2 ^ 64) :
    AnswersQuery c db docs texts fields limit t := by
  obtain ⟨t₁, hensure, h₁⟩ := ensureDatabase_run hserver hdb h
  refine ⟨t₁, hensure, fun members hasks => ?_⟩
  obtain ⟨r, s, ⟨-, hstatus, hshows⟩, hsend⟩ := send_run hdb.queries
    (hserver.find _ db docs members texts fields _ t₁.network (hdb.names_service (by decide))
      h₁.there hasks.selector hasks.fields hasks.limit)
  rw [Response.arriving_eq .post (by decide) (.inl hstatus)] at hsend
  rw [UInt64.toNat_ofNat_of_lt' hlimit] at hshows
  exact ⟨r, _, hsend, by simp [Response.isSuccess, hstatus], hshows⟩

namespace ShowsRow

variable {v : Json} {e : String × Document}

theorem depth_le_iff (h : ShowsRow v e) {n : Nat} :
    v.depth ≤ n + 2 ↔ e.2.toJson.depth ≤ n + 1 := by
  obtain ⟨members, doc, rfl, hflat, -, hdoc, hspells⟩ := h
  simp [hflat.depth_le_iff, hdoc, hspells.depth_le_iff]

theorem row?_reread (h : ShowsRow v e) : row? v.reread = some (e.1, some e.2.reread) := by
  obtain ⟨members, doc, rfl, hflat, hid, hdoc, hspells⟩ := h
  obtain ⟨m, hread, hmembers⟩ := hflat.exists_reread
  rw [hread]
  simp [row?, Json.isStructure, Json.part?, Json.optionalPart?, hmembers, hid, hdoc, hspells.reread,
    Json.text?, Document.toJson]

end ShowsRow

theorem mapM_row?_of_shows {rows : List Json} {entries : List (String × Document)}
    (h : List.Forall₂ ShowsRow rows entries) :
    (rows.map Json.reread).mapM row? = some (entries.map fun e => (e.1, some e.2.reread)) := by
  induction h with
  | nil => rfl
  | cons hv _ ih => simp [List.mapM_cons, hv.row?_reread, ih]

theorem rows?_of_shows {r : Response} (h : ShowsRows r docs) :
    r.json?.bind rows? = if ∀ doc ∈ docs.values, doc.toJson.depth ≤ 124 then
      some (docs.entries.map fun e => (e.1, some e.2.reread)) else none := by
  obtain ⟨members, rows, hbody, hflat, hrows, hshows⟩ := h
  have hfits : (Json.obj members).depth ≤ Json.maxDepth ↔
      ∀ doc ∈ docs.values, doc.toJson.depth ≤ 124 := by
    have hall := Json.forall₂_depth_le_iff (hshows.imp fun _ _ hv => hv.depth_le_iff (n := 123))
    rw [Json.maxDepth, hflat.depth_le_iff (n := 125), SortedMap.values, List.forall_mem_map, ← hall]
    simp [hrows]
  obtain ⟨m, hread, hmembers⟩ := hflat.exists_reread
  rw [hbody.json?_eq, hread]
  simp only [hfits]
  split
  · simp [rows?, Json.isStructure, Json.part?, hmembers, hrows, Json.reread_arr, Json.list?,
      mapM_row?_of_shows hshows]
  · rfl

theorem ordinary_rows {docs : SortedMap Document}
    (h : ∀ id ∈ docs.keys, ¬ "_design/".toList <+: id.toList) (f : Document → Document) :
    ordinary (docs.entries.map fun e => (e.1, some (f e.2))) = docs.values.map f := by
  have hall : (docs.entries.map fun e => (e.1, some (f e.2))).filter
      (fun row => !"_design/".toList.isPrefixOf row.1.toList) =
        docs.entries.map fun e => (e.1, some (f e.2)) := by
    refine List.filter_eq_self.2 fun row hrow => ?_
    obtain ⟨e, he, rfl⟩ := List.mem_map.1 hrow
    have hplain := h e.1 (List.mem_map_of_mem he)
    rw [← List.isPrefixOf_iff_prefix, Bool.not_eq_true] at hplain
    rw [hplain, Bool.not_false]
  rw [ordinary, hall, List.filterMap_map, SortedMap.values, List.map_map, ← List.filterMap_eq_map]
  rfl

theorem databases_send (method : Http.Method) (url : Http.Url) (body : Option Json) :
    (finalState (c.send method url body t)).databases = t.databases := by
  unfold send
  cases c.client.send method url body t.network <;> rfl

theorem find_answered {selector : Selector} {texts : List (String × String)}
    (hselector : selector.entries = texts.map fun e => (e.1, .str e.2))
    (hvalid : selector.validate = .ok ()) {fields : Option (List String)} {limit : Nat}
    (hdepth : ∀ doc ∈ queried docs texts (wanted fields) limit, doc.toJson.depth ≤ 125)
    (h : AnswersQuery c db docs texts (wanted fields) limit t) :
    ∃ t', c.find db selector fields limit t =
      .ok ((queried docs texts (wanted fields) limit).map Document.reread) t' := by
  obtain ⟨t₁, hensure, hanswers⟩ := h
  obtain ⟨members, hquery, hasked, hfields, hcut⟩ := queryJson_members hselector fields limit
  obtain ⟨r, s, hsend, hsuccess, hshows⟩ := hanswers members ⟨hasked, hfields, hcut⟩
  rw [← hquery] at hsend
  exact ⟨s, find_of_answer hvalid hensure hsend hsuccess (found?_of_shows hshows hdepth)⟩

theorem query_fails {t' : State ν} (hensure : c.ensureDatabase db t = .ok () t')
    (selector : Selector) (fields : Option (List String)) (limit : Nat)
    (h : Fails found? (c.send .post (c.serviceUrl db "_find")
      (some (queryJson selector fields limit)) t')) :
    ∃ e, c.query db selector fields limit t = .error e (finalState (c.send .post
      (c.serviceUrl db "_find") (some (queryJson selector fields limit)) t')) := by
  simp only [query, bind_apply, hensure]
  cases hsend : c.send .post (c.serviceUrl db "_find") (some (queryJson selector fields limit))
    t' with
  | error e s => exact ⟨e, rfl⟩
  | ok r s =>
    rw [hsend] at h
    rcases h with hfailed | hunread
    · exact ⟨r.toError, by simp [hfailed, finalState]⟩
    · cases hsuccess : r.isSuccess with
      | false => exact ⟨r.toError, by simp [hsuccess, finalState]⟩
      | true =>
        exact ⟨Http.undecodable, by simp [hsuccess, Response.read_of_none hunread, finalState]⟩

/-- Where the server lists all documents, each of them has to be read. -/
theorem find_listed {selector : Selector} {texts : List (String × String)}
    (hselector : selector.entries = texts.map fun e => (e.1, .str e.2))
    (hvalid : selector.validate = .ok ()) {fields : Option (List String)} {limit : Nat}
    (hplain : ∀ id ∈ docs.keys, ¬ "_design/".toList <+: id.toList)
    (h : OnlyLists c db docs texts (wanted fields) limit t) :
    ∃ t', c.find db selector fields limit t =
      if ∀ doc ∈ docs.values, doc.toJson.depth ≤ 124 then
        .ok (selector.select fields limit (docs.values.map Document.reread)) t'
      else .error Http.undecodable t' := by
  obtain ⟨t₁, hensure, hrequests⟩ := h
  obtain ⟨members, hjson, hasked, hfields, hcut⟩ := queryJson_members hselector fields limit
  obtain ⟨hfails, r, s, hsend, hsuccess, hrows⟩ := hrequests members ⟨hasked, hfields, hcut⟩
  rw [← hjson] at hfails hsend
  obtain ⟨e, hquery⟩ := query_fails hensure selector fields limit hfails
  have hdone : (finalState (c.send .post (c.serviceUrl db "_find")
      (some (queryJson selector fields limit)) t₁)).databases.contains db = true := by
    rw [databases_send]
    exact contains_of_ensureDatabase hensure
  have hread := rows?_of_shows hrows
  refine ⟨s, ?_⟩
  by_cases hdepth : ∀ doc ∈ docs.values, doc.toJson.depth ≤ 124
  · rw [if_pos hdepth] at hread ⊢
    simp [find, Engine.orThrow, hvalid, Engine.fallback, hquery, listAll,
      ensureDatabase_of_contains hdone, hsend, hsuccess, Response.read_of_some hread,
      ordinary_rows hplain]
  · rw [if_neg hdepth] at hread ⊢
    simp [find, Engine.orThrow, hvalid, Engine.fallback, hquery, listAll,
      ensureDatabase_of_contains hdone, hsend, hsuccess, Response.read_of_none hread]

end Keyspace.CouchDb
