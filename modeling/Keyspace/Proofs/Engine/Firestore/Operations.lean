import Keyspace.Proofs.Engine.Firestore.Fallback

set_option autoImplicit false

namespace Keyspace.Firestore

open Http (Response Url)

variable {ν : Type} {f : Firestore ν} {base : List String} {holdings : ν → String → Holdings}
  {db id : String} {docs : SortedMap Document} {s : ν}

/-- A document without what is not sent along: the id and the token. -/
def bare (doc : Document) : Document := (doc.erase Document.idField).erase Document.revField

/-- A document as it is shown under an id. It has no token. -/
def shown (id : String) (doc : Document) : Document :=
  (bare doc).insert Document.idField (.str id)

@[simp] theorem bare_shown (id : String) (doc : Document) : bare (shown id doc) = bare doc := by
  refine SortedMap.ext_get? fun name => ?_
  simp only [bare, shown, SortedMap.get?_erase, SortedMap.get?_insert]
  split <;> simp_all

theorem shown_shown (id other : String) (doc : Document) :
    shown id (shown other doc) = shown id doc :=
  congrArg (fun d : Document => d.insert Document.idField (.str id)) (bare_shown other doc)

structure Stores (holdings : ν → String → Holdings) (db : String) (docs : SortedMap Document)
    (s : ν) : Prop where
  fields : holdings s db = typedFields (docs.map bare)
  each : ∀ id doc, docs.get? id = some doc → '/' ∉ id.toList ∧ doc = shown id doc

structure Usable (f : Firestore ν) (base : List String) (db : String) : Prop where
  place : f.documents.IsPlace base
  name : db ≠ "." ∧ db ≠ ".."
  queries : f.client.Takes (f.documents.suffixed ":runQuery")

structure Reaches (f : Firestore ν) (db id : String) : Prop where
  name : id ≠ "." ∧ id ≠ ".."
  slashless : '/' ∉ id.toList
  document : f.client.Takes (f.documentUrl db id)
  existing : f.client.Takes ((f.documentUrl db id).withField "currentDocument.exists" "true")

theorem Usable.names_document (h : Usable f base db) (hid : id ≠ "." ∧ id ≠ "..") :
    (f.documentUrl db id).Names base [db, id] :=
  h.place.names_below [db, id] (by simpa using ⟨h.name, hid⟩)

theorem Usable.query_document (h : Usable f base db) (hid : id ≠ "." ∧ id ≠ "..") :
    (f.documentUrl db id).query = none := by
  have hurl := h.place.below_eq [db, id] (by simpa using ⟨h.name, hid⟩)
  exact (congrArg Url.query hurl).trans h.place.query

theorem Stores.get?_holdings (h : Stores holdings db docs s) (id : String) :
    (holdings s db).get? id =
      (docs.get? id).map fun doc => TypedValue.encodeFields (bare doc) := by
  rw [h.fields, typedFields, SortedMap.get?_map, SortedMap.get?_map, Option.map_map]
  rfl

theorem Stores.next (h : Stores holdings db docs s) {s' : ν} (hs : holdings s' = holdings s) :
    Stores holdings db docs s' :=
  ⟨by rw [hs, h.fields], h.each⟩

theorem stores_empty (h : holdings s db = SortedMap.empty) :
    Stores holdings db SortedMap.empty s :=
  ⟨h, fun id doc hdoc => by simp at hdoc⟩

theorem Stores.insert (h : Stores holdings db docs s) {s' : ν} (hslash : '/' ∉ id.toList)
    {doc : Document}
    (hs : holdings s' db = (holdings s db).insert id (TypedValue.encodeFields (bare doc))) :
    Stores holdings db (docs.insert id (shown id doc)) s' where
  fields := by
    refine SortedMap.ext_get? fun other => ?_
    rw [hs, SortedMap.get?_insert, h.get?_holdings, typedFields, SortedMap.get?_map,
      SortedMap.get?_map, SortedMap.get?_insert]
    split
    · rw [Option.map_some, Option.map_some, bare_shown]
    · rw [Option.map_map]
      rfl
  each other doc' hdoc := by
    rw [SortedMap.get?_insert] at hdoc
    split at hdoc
    · rename_i heq
      cases hdoc
      rw [heq]
      exact ⟨hslash, (shown_shown ..).symm⟩
    · exact h.each other doc' hdoc

theorem Stores.erase (h : Stores holdings db docs s) {s' : ν}
    (hs : holdings s' db = (holdings s db).erase id) :
    Stores holdings db (docs.erase id) s' where
  fields := by
    refine SortedMap.ext_get? fun other => ?_
    rw [hs, SortedMap.get?_erase, h.get?_holdings, typedFields, SortedMap.get?_map,
      SortedMap.get?_map, SortedMap.get?_erase]
    split
    · rfl
    · rw [Option.map_map]
      rfl
  each other doc hdoc := by
    rw [SortedMap.get?_erase] at hdoc
    split at hdoc
    · cases hdoc
    · exact h.each other doc hdoc

section Operations

variable (hserver : Server f base holdings) (hdb : Usable f base db)

include hserver hdb

theorem get_held (hid : Reaches f db id) {doc : Document}
    (h : (holdings s db).get? id = some (TypedValue.encodeFields doc)) :
    ∃ s', holdings s' = holdings s ∧ f.get db id s =
      if doc.typedDepth ≤ 126 then .ok (doc.restored.insert Document.idField (.str id)) s'
      else .error Http.undecodable s' := by
  obtain ⟨r, s', ⟨hs, hanswer⟩, hsend⟩ := send_run hid.document
    (hserver.get_document _ db id s (hdb.names_document hid.name) (hdb.query_document hid.name)
      hid.slashless)
  rw [h] at hanswer
  obtain ⟨hstatus, members, hbody, hshows⟩ := hanswer
  have hresource : ShowsDocument (.obj members) (id, doc) := ⟨members, rfl, hshows⟩
  rw [Response.arriving_eq .get (by decide) (.inl hstatus)] at hsend
  refine ⟨s', hs, ?_⟩
  by_cases hdepth : doc.typedDepth ≤ 126
  · obtain ⟨res, d, hres, hd, name, rfl, hname⟩ := hresource.resource
    rw [hname hid.slashless] at hd
    have hread : r.json?.bind Resource.ofJson? = some res := by
      rw [hbody.json?_of_le (hresource.depth_le_iff.2 hdepth), Option.bind_some, hres]
    simp [get, hsend, Response.isNotFound, Response.isSuccess, hstatus,
      Response.read_of_some hread, hd, Engine.orThrow, hdepth]
  · have hread : r.json?.bind Resource.ofJson? = none := by
      rw [hbody.json?_of_not_le fun h => hdepth (hresource.depth_le_iff.1 h), Option.bind_none]
    simp [get, hsend, Response.isNotFound, Response.isSuccess, hstatus,
      Response.read_of_none hread, hdepth]

theorem get_run (hid : Reaches f db id) (h : Stores holdings db docs s) :
    ∃ s', Stores holdings db docs s' ∧
      f.get db id s = match docs.get? id with
        | some doc =>
          if (bare doc).typedDepth ≤ 126 then
            .ok ((bare doc).restored.insert Document.idField (.str id)) s'
          else .error Http.undecodable s'
        | none => .error (.notFound db id) s' := by
  have hheld := h.get?_holdings id
  cases hdoc : docs.get? id with
  | none =>
    obtain ⟨r, s', ⟨hs, hanswer⟩, hsend⟩ := send_run hid.document
      (hserver.get_document _ db id s (hdb.names_document hid.name) (hdb.query_document hid.name)
        hid.slashless)
    rw [hheld, hdoc] at hanswer
    simp only [Option.map_none] at hanswer
    refine ⟨s', h.next hs, ?_⟩
    simp [get, hsend, Response.isNotFound, hanswer]
  | some doc =>
    rw [hdoc] at hheld
    obtain ⟨s', hs, hrun⟩ := get_held hserver hdb hid hheld
    exact ⟨s', h.next hs, hrun⟩

/-- What is written is held as typed fields, whatever was there, and whether or not the report of it
can be read. -/
theorem save_sent (hid : Reaches f db id) (doc : Document) (s : ν) :
    holdings (finalState (f.save db id doc s)) db =
        (holdings s db).insert id (TypedValue.encodeFields (bare doc)) ∧
      ((bare doc).typedDepth ≤ 126 → ∃ rev s', f.save db id doc s = .ok ⟨id, rev⟩ s') := by
  obtain ⟨r, s', ⟨⟨hstatus, members, hbody, hreports⟩, hs⟩, hsend⟩ := send_run hid.document
    (hserver.patch_document _ db id (TypedValue.encodeFields (bare doc)).entries s
      (hdb.names_document hid.name) (hdb.query_document hid.name) hid.slashless)
  rw [SortedMap.ofList_entries] at hs hreports
  rw [Response.arriving_eq .patch (by decide) (.inl hstatus)] at hsend
  have houtgoing : outgoing doc =
      .obj [("fields", .obj (TypedValue.encodeFields (bare doc)).entries)] := rfl
  cases hread : r.json?.bind Resource.ofJson? with
  | none =>
    refine ⟨?_, fun hdepth => ?_⟩
    · simpa [save, houtgoing, hsend, Response.isSuccess, hstatus, Response.read_of_none hread,
        finalState] using hs
    · obtain ⟨res, hres⟩ := hreports.resource hbody hdepth
      rw [hread] at hres
      cases hres
  | some res =>
    have hrun : f.save db id doc s = .ok ⟨id, res.updateTime.getD ""⟩ s' := by
      simp [save, houtgoing, hsend, Response.isSuccess, hstatus, Response.read_of_some hread]
    exact ⟨by rw [hrun]; exact hs, fun _ => ⟨_, s', hrun⟩⟩

theorem save_run (hid : Reaches f db id) (h : Stores holdings db docs s) {doc : Document}
    (hdepth : (bare doc).typedDepth ≤ 126) :
    ∃ rev s', f.save db id doc s = .ok ⟨id, rev⟩ s' ∧
      Stores holdings db (docs.insert id (shown id doc)) s' := by
  obtain ⟨hs, hreported⟩ := save_sent hserver hdb hid doc s
  obtain ⟨rev, s', hrun⟩ := hreported hdepth
  rw [hrun] at hs
  exact ⟨rev, s', hrun, h.insert hid.slashless hs⟩

theorem delete_run (hid : Reaches f db id) (h : Stores holdings db docs s) :
    match docs.get? id with
      | some _ => ∃ s', f.delete db id s = .ok () s' ∧ Stores holdings db (docs.erase id) s'
      | none => ∃ s', f.delete db id s = .error (.notFound db id) s' ∧
        Stores holdings db docs s' := by
  obtain ⟨r, s', hanswer, hsend⟩ := send_run hid.existing
    (hserver.delete_document _ db id s ((hdb.names_document hid.name).congr (Url.path_withField ..))
      hid.slashless (Url.queryField?_withField (hdb.query_document hid.name) ..))
  rw [h.get?_holdings] at hanswer
  cases hdoc : docs.get? id with
  | none =>
    rw [hdoc] at hanswer
    obtain ⟨hstatus, hs⟩ := hanswer
    refine ⟨s', ?_, h.next hs⟩
    simp [delete, hsend, Response.isNotFound, hstatus]
  | some doc =>
    rw [hdoc] at hanswer
    obtain ⟨hstatus, hs⟩ := hanswer
    refine ⟨s', ?_, h.erase hs⟩
    simp [delete, hsend, Response.isNotFound, Response.isSuccess, hstatus]

theorem find_run {selector : Selector} {texts : List (String × String)}
    (hselector : selector.entries = texts.map fun e => (e.1, .str e.2))
    (hvalid : selector.validate = .ok ()) (hplain : ∀ e ∈ texts, Plain e.1)
    {fields : Option (List String)} (hkept : ∀ names ∈ fields, ∀ name ∈ names, Plain name)
    {limit : Nat} (hlimit : limit ≤ StructuredQuery.maxLimit) (h : Stores holdings db docs s)
    (hdepth : ∀ e ∈ found (docs.map bare) texts (kept fields) limit, e.2.typedDepth ≤ 124) :
    ∃ ds s', Stores holdings db docs s' ∧
      List.Forall₂ ReadAs ds (found (docs.map bare) texts (kept fields) limit) ∧
      f.find db selector fields limit s = .ok (cutTo fields ds) s' := by
  refine find_of_answer hselector hvalid hplain hkept hlimit hdepth fun members hasks => ?_
  obtain ⟨r, s', hs, hanswer⟩ := send_query hserver hdb.place hdb.queries h.fields
    (Nat.lt_of_le_of_lt hlimit (by decide)) hasks
  exact ⟨r, s', h.next hs, hanswer⟩

end Operations

theorem get_refused {reason : String}
    (hrefused : f.client.refusal? (f.documentUrl db id).bared = some reason) :
    f.get db id s = .error (.transport reason) s := by
  have hsend : f.send .get (f.documentUrl db id) none s = .error (.transport reason) s := by
    rw [send, Http.Client.send_eq, hrefused]
  simp [get, hsend]

end Keyspace.Firestore
