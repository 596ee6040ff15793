import Keyspace.Proofs.Engine.CouchDb.Server
import Keyspace.Proofs.Lockstep
import Keyspace.Proofs.SortedMap

set_option autoImplicit false

namespace Keyspace.CouchDb

open Http (Response Url)

variable {ν : Type} {c : CouchDb ν} {base : List String} {holdings : ν → Holdings}
  {revision : String → Prop} {db id : String} {docs : SortedMap Document} {t : State ν}

/-- A state of the engine in which the server holds these documents in a database. -/
structure Shows (holdings : ν → Holdings) (revision : String → Prop) (db : String)
    (docs : SortedMap Document) (t : State ν) : Prop where
  documents : ((holdings t.network).get? db).getD SortedMap.empty = docs
  created : t.databases.contains db = true → (holdings t.network).contains db = true
  revised : ∀ id doc, docs.get? id = some doc → ∃ rev, revision rev ∧ revisionOf doc = some rev

/-- A state in which moreover the database is there. -/
structure Holds (holdings : ν → Holdings) (revision : String → Prop) (db : String)
    (docs : SortedMap Document) (t : State ν) : Prop where
  there : (holdings t.network).get? db = some docs
  revised : ∀ id doc, docs.get? id = some doc → ∃ rev, revision rev ∧ revisionOf doc = some rev

theorem Holds.shows (h : Holds holdings revision db docs t) :
    Shows holdings revision db docs t where
  documents := by rw [h.there, Option.getD_some]
  created _ := by rw [SortedMap.contains, h.there, Option.isSome_some]
  revised := h.revised

theorem shows_start {network : ν} (h : (holdings network).get? db = none) :
    Shows holdings revision db SortedMap.empty (start network) where
  documents := by rw [start, h, Option.getD_none]
  created hdone := by simp [start, DoneSet.empty, DoneSet.contains] at hdone
  revised id doc hdoc := by simp at hdoc

theorem Holds.next (h : Holds holdings revision db docs t) {s : ν}
    (hs : holdings s = holdings t.network) :
    Holds holdings revision db docs { t with network := s } :=
  ⟨by rw [hs, h.there], h.revised⟩

theorem revised_insert (h : ∀ id doc, docs.get? id = some doc →
      ∃ rev, revision rev ∧ revisionOf doc = some rev)
    {rev : String} (hrev : revision rev) (doc : Document) (id : String) :
    ∀ other doc', (docs.insert id (kept doc id rev)).get? other = some doc' →
      ∃ rev, revision rev ∧ revisionOf doc' = some rev := by
  intro other doc' hget
  rw [SortedMap.get?_insert] at hget
  split at hget
  · cases hget
    exact ⟨rev, hrev, by simp [revisionOf, kept, Document.text?, Json.text?]⟩
  · exact h other doc' hget

theorem revised_erase (h : ∀ id doc, docs.get? id = some doc →
      ∃ rev, revision rev ∧ revisionOf doc = some rev) (id : String) :
    ∀ other doc, (docs.erase id).get? other = some doc →
      ∃ rev, revision rev ∧ revisionOf doc = some rev := by
  intro other doc hget
  rw [SortedMap.get?_erase] at hget
  split at hget
  · cases hget
  · exact h other doc hget

theorem send_run {method : Http.Method} {url : Url} {body : Option Json} {P : Response → ν → Prop}
    (htakes : c.client.Takes url) (h : c.client.Answers method url body t.network P) :
    ∃ r s, P r s ∧ c.send method url body t = .ok (r.arriving method) { t with network := s } := by
  obtain ⟨r, s, hreply, hP⟩ := h
  exact ⟨r, s, hP, by rw [send, Http.Client.send_run htakes hreply]⟩

theorem receipt?_of_reports {r : Response} {id rev : String} (h : Reports r id rev) :
    r.json?.bind receipt? = some ⟨id, rev⟩ := by
  obtain ⟨members, hbody, hflat, hid, hrev⟩ := h
  have hdepth : ∀ v, SortedMap.lookup "id" members = some v → v.depth ≤ 126 := by
    intro v hv
    rw [hid] at hv
    cases hv
    exact Nat.zero_le _
  obtain ⟨m, hread, hmembers⟩ := hbody.json?_obj hflat hdepth
  simp [hread, receipt?, Json.isStructure, Json.part?, hmembers, hid, hrev, Json.text?]

theorem mapM_map?_of_spells {items : List Json} {found : List Document}
    (h : List.Forall₂ Json.Spells items found) :
    (items.map Json.reread).mapM Json.map? = some (found.map Document.reread) := by
  induction h with
  | nil => rfl
  | cons hv _ ih =>
    simp [List.mapM_cons, hv.reread, Document.toJson, ih]

theorem found?_of_shows {r : Response} {found : List Document} (h : ShowsFound r found)
    (hdepth : ∀ doc ∈ found, doc.toJson.depth ≤ 125) :
    r.json?.bind found? = some (found.map Document.reread) := by
  obtain ⟨members, items, hbody, hflat, hdocs, hitems, hwarning⟩ := h
  have hfits : ∀ v, SortedMap.lookup "docs" members = some v → v.depth ≤ 126 := by
    intro v hv
    rw [hdocs] at hv
    cases hv
    exact (Json.forall₂_depth_le_iff (hitems.imp fun _ _ hv => hv.depth_le_iff)).2 hdepth
  obtain ⟨m, hread, hmembers⟩ := hbody.json?_obj hflat hfits
  have hwarned : ∃ w, Json.optionalPart? (.obj m.entries) "warning" 1 Json.text? = some w := by
    rw [Json.optionalPart?, Json.part?, hmembers]
    cases hw : SortedMap.lookup "warning" members with
    | none => exact ⟨none, rfl⟩
    | some v =>
      obtain ⟨text, rfl⟩ := hwarning v hw
      exact ⟨some text, rfl⟩
  obtain ⟨w, hw⟩ := hwarned
  simp [hread, found?, Json.isStructure, Json.part?, hmembers, hdocs, Json.reread_arr, Json.list?,
    mapM_map?_of_spells hitems, hw]

theorem text?_reread (doc : Document) (name : String) :
    doc.reread.text? name = doc.text? name := by
  refine Option.ext fun s => ?_
  rw [Document.text?, Document.text?, Document.reread, SortedMap.get?_map]
  cases doc.get? name with
  | none => rfl
  | some v => cases v <;> simp [Json.reread, Json.text?]

theorem queried_reread (docs : SortedMap Document) (texts : List (String × String))
    (fields : Option (List String)) (limit : Nat) :
    queried (docs.map Document.reread) texts fields limit =
      (queried docs texts fields limit).map Document.reread := by
  have hfound : (docs.map Document.reread).values.filter
      (fun doc => texts.all fun e => doc.text? e.1 == some e.2) =
        (docs.values.filter fun doc => texts.all fun e => doc.text? e.1 == some e.2).map
          Document.reread := by
    rw [SortedMap.values_map, List.filter_map]
    simp only [Function.comp_def, text?_reread]
  simp only [queried, hfound, ← List.map_take]
  cases fields with
  | none => rfl
  | some names =>
    simp only [List.map_map]
    exact List.map_congr_left fun doc _ =>
      SortedMap.filter_map doc Json.reread fun name => names.contains name

theorem mem_queried {texts : List (String × String)} {fields : Option (List String)} {limit : Nat}
    {doc : Document} (h : doc ∈ queried docs texts fields limit) :
    ∃ id whole, docs.get? id = some whole ∧
      doc = fields.elim whole fun names => whole.filter fun name _ => names.contains name := by
  have hheld : ∀ {whole : Document},
      whole ∈ (docs.values.filter fun doc => texts.all fun e => doc.text? e.1 == some e.2).take
        limit → ∃ id, docs.get? id = some whole :=
    fun hmem => SortedMap.mem_values_iff.1 (List.mem_filter.1 (List.mem_of_mem_take hmem)).1
  cases fields with
  | none =>
    obtain ⟨id, hid⟩ := hheld h
    exact ⟨id, doc, hid, rfl⟩
  | some names =>
    obtain ⟨whole, hmem, rfl⟩ := List.mem_map.1 h
    obtain ⟨id, hid⟩ := hheld hmem
    exact ⟨id, whole, hid, rfl⟩

theorem revisionOf_outgoing (doc : Document) (id : String) (rev : Option String) :
    revisionOf (outgoing doc id rev) = rev := by
  cases rev with
  | none => simp [revisionOf, outgoing, Document.text?, SortedMap.get?_erase]
  | some rev => simp [revisionOf, outgoing, Document.text?, Json.text?]

/-- What is sent is kept as the document itself would be. -/
theorem kept_outgoing (doc : Document) (id : String) (rev : Option String) (new : String) :
    kept (outgoing doc id rev) id new = kept doc id new := by
  refine SortedMap.ext_get? fun name => ?_
  cases rev <;> simp only [kept, outgoing, SortedMap.get?_insert, SortedMap.get?_erase] <;>
    split <;> simp_all

def wanted : Option (List String) → Option (List String)
  | none | some [] => none
  | some names => some (Document.idField :: names.filter (· != Document.idField))

theorem queryJson_members {selector : Selector} {texts : List (String × String)}
    (hselector : selector.entries = texts.map fun e => (e.1, .str e.2))
    (fields : Option (List String)) (limit : Nat) :
    ∃ members, queryJson selector fields limit = .obj members ∧
      SortedMap.lookup "selector" members = some (.obj (texts.map fun e => (e.1, .str e.2))) ∧
      SortedMap.lookup "fields" members = (wanted fields).map (fun names => .arr (names.map .str)) ∧
      SortedMap.lookup "limit" members = some (.num (.natural (UInt64.ofNat limit))) := by
  rw [← hselector]
  rcases fields with _ | _ | ⟨name, names⟩
  · exact ⟨_, rfl, by simp [SortedMap.lookup, Json.ofCount, wanted]⟩
  · exact ⟨_, rfl, by simp [SortedMap.lookup, Json.ofCount, wanted]⟩
  · exact ⟨_, rfl, by simp [SortedMap.lookup, Json.ofCount, wanted]⟩

theorem find_of_answer {selector : Selector} (hvalid : selector.validate = .ok ())
    {fields : Option (List String)} {limit : Nat} {t' t'' : State ν} {r : Response}
    {found : List Document} (hensure : c.ensureDatabase db t = .ok () t')
    (hsend : c.send .post (c.serviceUrl db "_find") (some (queryJson selector fields limit)) t' =
      .ok r t'')
    (hsuccess : r.isSuccess = true) (hread : r.json?.bind found? = some found) :
    c.find db selector fields limit t = .ok found t'' := by
  have hrun : c.query db selector fields limit t = .ok found t'' := by
    simp [query, hensure, hsend, hsuccess, Response.read_of_some hread]
  simp [find, Engine.orThrow, hvalid, Engine.fallback, hrun]

variable (hserver : Server c base holdings revision) (hdb : Usable c base db)

include hserver hdb

theorem createIfMissing_run (h : Shows holdings revision db docs t) :
    ∃ s, c.createIfMissing db t = .ok () { t with network := s } ∧
      Holds holdings revision db docs { t with network := s } := by
  obtain ⟨r, s, ⟨hs, hstatus⟩, hsend⟩ := send_run hdb.database
    (hserver.head_database _ db t.network hdb.names_database hdb.query_database)
  cases hthere : (holdings t.network).get? db with
  | some found =>
    have hfound : found = docs := by simpa [hthere] using h.documents
    subst hfound
    rw [SortedMap.contains, hthere] at hstatus
    refine ⟨s, ?_, by rw [hs, hthere], h.revised⟩
    simp [createIfMissing, hsend, Response.isSuccess, hstatus]
  | none =>
    have hdocs : SortedMap.empty = docs := by simpa [hthere] using h.documents
    subst hdocs
    rw [SortedMap.contains, hthere] at hstatus
    have hnames := hdb.names_creation "n=1&q=2"
    obtain ⟨r', s', ⟨hstatus', hs'⟩, hsend'⟩ := send_run (t := { t with network := s })
      hdb.creation (hserver.put_database _ db s hnames.1 hnames.2 (by rw [hs, hthere]))
    refine ⟨s', ?_, by rw [hs', SortedMap.get?_insert_self], h.revised⟩
    simp [createIfMissing, putDatabase, hsend, hsend', Response.isSuccess, Response.isNotFound,
      hstatus, hstatus']

theorem ensureDatabase_run (h : Shows holdings revision db docs t) :
    ∃ t', c.ensureDatabase db t = .ok () t' ∧ Holds holdings revision db docs t' := by
  simp only [ensureDatabase, bind_apply, get_apply, DoneSet.ensure_apply, modifyGet_apply]
  cases hdone : t.databases.contains db with
  | true =>
    refine ⟨t, rfl, ?_, h.revised⟩
    obtain ⟨found, hfound⟩ := Option.isSome_iff_exists.1 (h.created hdone)
    rw [hfound, ← h.documents, hfound, Option.getD_some]
  | false =>
    obtain ⟨s, hrun, hholds⟩ := createIfMissing_run hserver hdb h
    refine ⟨{ t with network := s, databases := t.databases.insert db }, ?_, hholds.there,
      hholds.revised⟩
    simp [hrun]

theorem currentRevision_run (hid : Reaches c revision db id)
    (h : Holds holdings revision db docs t) :
    ∃ t', c.currentRevision db id t = .ok ((docs.get? id).bind revisionOf) t' ∧
      Holds holdings revision db docs t' := by
  obtain ⟨r, s, ⟨hs, hanswer⟩, hsend⟩ := send_run hid.document
    (hserver.head_document _ db id docs t.network (hdb.names_document hid.name)
      (hdb.query_document id) hid.ordinary h.there)
  refine ⟨{ t with network := s }, ?_, h.next hs⟩
  cases hdoc : docs.get? id with
  | none =>
    rw [hdoc] at hanswer
    simp [currentRevision, hsend, Response.isNotFound, hanswer]
  | some doc =>
    rw [hdoc] at hanswer
    obtain ⟨hstatus, htag⟩ := hanswer
    obtain ⟨rev, hrev, hshown⟩ := h.revised id doc hdoc
    have hread : (r.arriving .head).revision? = some rev :=
      Response.revision?_quoted (by simp [htag, hshown]) (hserver.visible rev hrev)
    simp [currentRevision, hsend, Response.isNotFound, Response.isSuccess, hstatus, hread, hshown]

theorem get_run (hid : Reaches c revision db id) (h : Shows holdings revision db docs t) :
    ∃ t', Shows holdings revision db docs t' ∧
      c.get db id t = match docs.get? id with
        | some doc =>
          if doc.toJson.depth ≤ Json.maxDepth then .ok doc.reread t' else .error Http.undecodable t'
        | none => .error (.notFound db id) t' := by
  obtain ⟨t₁, hensure, h₁⟩ := ensureDatabase_run hserver hdb h
  obtain ⟨r, s, ⟨hs, hanswer⟩, hsend⟩ := send_run hid.document
    (hserver.get_document _ db id docs t₁.network (hdb.names_document hid.name)
      (hdb.query_document id) hid.ordinary h₁.there)
  refine ⟨{ t₁ with network := s }, (h₁.next hs).shows, ?_⟩
  cases hdoc : docs.get? id with
  | none =>
    rw [hdoc] at hanswer
    simp [get, receive, hensure, hsend, Response.isNotFound, hanswer]
  | some doc =>
    rw [hdoc] at hanswer
    obtain ⟨hstatus, v, hbody, hspells⟩ := hanswer
    rw [Response.arriving_eq .get (by decide) (.inl hstatus)] at hsend
    have hjson := hbody.json?_eq
    by_cases hdepth : doc.toJson.depth ≤ Json.maxDepth
    · rw [if_pos (hspells.depth_le_iff.2 hdepth), hspells.reread] at hjson
      have hread : r.json?.bind Json.map? = some doc.reread := by simp [hjson, Document.toJson]
      simp [get, receive, hensure, hsend, Response.isNotFound, Response.isSuccess, hstatus, hdepth,
        Response.read_of_some hread]
    · rw [if_neg fun hv => hdepth (hspells.depth_le_iff.1 hv)] at hjson
      have hread : r.json?.bind Json.map? = none := by simp [hjson]
      simp [get, receive, hensure, hsend, Response.isNotFound, Response.isSuccess, hstatus, hdepth,
        Response.read_of_none hread]

theorem get_refused (h : Shows holdings revision db docs t) {reason : String}
    (hrefused : c.client.refusal? (c.documentUrl db id).bared = some reason) :
    ∃ t', c.get db id t = .error (.transport reason) t' := by
  obtain ⟨t₁, hensure, h₁⟩ := ensureDatabase_run hserver hdb h
  refine ⟨t₁, ?_⟩
  have hsend : c.send .get (c.documentUrl db id) none t₁ = .error (.transport reason) t₁ := by
    rw [send, Http.Client.send_eq, hrefused]
  simp [get, hensure, hsend]

theorem save_run (hid : Reaches c revision db id) (h : Shows holdings revision db docs t)
    (doc : Document) :
    ∃ rev t', revision rev ∧ c.save db id doc t = .ok ⟨id, rev⟩ t' ∧
      Shows holdings revision db (docs.insert id (kept doc id rev)) t' := by
  obtain ⟨t₁, hensure, h₁⟩ := ensureDatabase_run hserver hdb h
  obtain ⟨t₂, hcurrent, h₂⟩ := currentRevision_run hserver hdb hid h₁
  have hmembers : SortedMap.ofList (outgoing doc id ((docs.get? id).bind revisionOf)).entries =
      outgoing doc id ((docs.get? id).bind revisionOf) := SortedMap.ofList_entries _
  obtain ⟨r, s, ⟨rev, hrev, hstatus, hreports, hs⟩, hsend⟩ := send_run hid.document
    (hserver.put_document _ db id docs _ t₂.network (hdb.names_document hid.name)
      (hdb.query_document id) hid.ordinary h₂.there
      (by rw [hmembers, revisionOf_outgoing]))
  rw [hmembers, kept_outgoing] at hs
  refine ⟨rev, { t₂ with network := s }, hrev, ?_, ?_⟩
  · rw [Response.arriving_eq .put (by decide) (.inr hstatus)] at hsend
    simp [save, submit, lookUpRevision, settle, hensure, hcurrent, Document.toJson, hsend,
      Response.isConflict, Response.isNotFound, Response.isSuccess, hstatus,
      Response.read_of_some (receipt?_of_reports hreports)]
  · exact Holds.shows ⟨by rw [hs, SortedMap.get?_insert_self], revised_insert h.revised hrev doc id⟩

theorem delete_run (hid : Reaches c revision db id) (h : Shows holdings revision db docs t) :
    match docs.get? id with
      | some _ => ∃ t', c.delete db id t = .ok () t' ∧
        Shows holdings revision db (docs.erase id) t'
      | none => ∃ t', c.delete db id t = .error (.notFound db id) t' ∧
        Shows holdings revision db docs t' := by
  obtain ⟨t₁, hensure, h₁⟩ := ensureDatabase_run hserver hdb h
  obtain ⟨t₂, hcurrent, h₂⟩ := currentRevision_run hserver hdb hid h₁
  cases hdoc : docs.get? id with
  | none =>
    rw [hdoc] at hcurrent
    refine ⟨t₂, ?_, h₂.shows⟩
    simp [delete, lookUpRevision, withdraw, hensure, hcurrent]
  | some doc =>
    obtain ⟨rev, hrev, hshown⟩ := h.revised id doc hdoc
    rw [hdoc, Option.bind_some, hshown] at hcurrent
    obtain ⟨r, s, ⟨hstatus, hs⟩, hsend⟩ := send_run (hid.revised rev hrev)
      (hserver.delete_document ((c.documentUrl db id).withField "rev" rev) db id docs doc rev
        t₂.network ((hdb.names_document hid.name).congr (Url.path_withField ..)) hid.ordinary
        h₂.there hdoc hshown (Url.queryField?_withField (hdb.query_document id) ..))
    refine ⟨{ t₂ with network := s }, ?_, ?_⟩
    · simp [delete, lookUpRevision, withdraw, hensure, hcurrent, hsend, Response.isNotFound,
        Response.isConflict, Response.isSuccess, hstatus]
    · exact Holds.shows ⟨by rw [hs, SortedMap.get?_insert_self], revised_erase h.revised id⟩

theorem find_run {selector : Selector} {texts : List (String × String)}
    (hselector : selector.entries = texts.map fun e => (e.1, .str e.2))
    (hvalid : selector.validate = .ok ()) (fields : Option (List String)) {limit : Nat}
    (hlimit : limit < 2 ^ 64) (h : Shows holdings revision db docs t)
    (hdepth : ∀ doc ∈ queried docs texts (wanted fields) limit, doc.toJson.depth ≤ 125) :
    ∃ t', Shows holdings revision db docs t' ∧ c.find db selector fields limit t =
      .ok ((queried docs texts (wanted fields) limit).map Document.reread) t' := by
  obtain ⟨t₁, hensure, h₁⟩ := ensureDatabase_run hserver hdb h
  obtain ⟨members, hquery, hasked, hfields, hcut⟩ := queryJson_members hselector fields limit
  obtain ⟨r, s, ⟨hs, hstatus, hshows⟩, hsend⟩ := send_run hdb.queries
    (hserver.find _ db docs members texts (wanted fields) _ t₁.network
      (hdb.names_service (by decide)) h₁.there hasked hfields hcut)
  rw [UInt64.toNat_ofNat_of_lt' hlimit] at hshows
  rw [Response.arriving_eq .post (by decide) (.inl hstatus)] at hsend
  refine ⟨{ t₁ with network := s }, (h₁.next hs).shows, ?_⟩
  rw [← hquery] at hsend
  exact find_of_answer hvalid hensure hsend (by simp [Response.isSuccess, hstatus])
    (found?_of_shows hshows hdepth)

theorem requestIndex_shows (index : Index) (h : Holds holdings revision db docs t) :
    Shows holdings revision db docs (finalState (c.requestIndex db index t)) := by
  have hkeeps := hserver.index _ db (some (indexJson index)) t.network
    (hdb.names_service (by decide))
  have hsent : Shows holdings revision db docs
      (finalState (c.send .post (c.serviceUrl db "_index") (some (indexJson index)) t)) := by
    rw [send, Http.Client.send_eq]
    cases c.client.refusal? (c.serviceUrl db "_index").bared with
    | some reason => exact h.shows
    | none =>
      cases hreply : c.client.network.exchange (c.client.request .post (c.serviceUrl db "_index")
        (some (indexJson index))) t.network with
      | mk reply s =>
        rw [hreply] at hkeeps
        cases reply with
        | dropped => exact (h.next hkeeps).shows
        | answered r => exact (h.next hkeeps).shows
  simp only [requestIndex, bind_apply]
  cases hrun : c.send .post (c.serviceUrl db "_index") (some (indexJson index)) t with
  | error e t' =>
    rw [hrun] at hsent
    exact hsent
  | ok r t' =>
    rw [hrun] at hsent
    dsimp only
    split
    · exact hsent
    · split
      · exact hsent
      · exact hsent

theorem ensureIndex_shows (index : Index) (h : Shows holdings revision db docs t) :
    Shows holdings revision db docs (finalState (c.ensureIndex db index t)) := by
  obtain ⟨t₁, hensure, h₁⟩ := ensureDatabase_run hserver hdb h
  have hcreate := requestIndex_shows hserver hdb index h₁
  simp only [ensureIndex, createIndex, bind_apply, get_apply, DoneSet.ensure_apply,
    modifyGet_apply, hensure]
  cases t.indexes.contains (db, index.sortedFields) with
  | true => exact h
  | false =>
    cases hrun : c.requestIndex db index t₁ with
    | error e t₂ =>
      rw [hrun] at hcreate
      exact hcreate
    | ok _ t₂ =>
      rw [hrun] at hcreate
      exact ⟨hcreate.documents, hcreate.created, hcreate.revised⟩

end Keyspace.CouchDb
