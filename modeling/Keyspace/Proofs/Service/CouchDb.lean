import Keyspace.Proofs.Engine.CouchDb.Operations
import Keyspace.Proofs.Engine.CouchDb.Shelf
import Keyspace.Proofs.Service.Serving
import Keyspace.Proofs.Service.SetOverHttp
import Keyspace.Proofs.Service.Upkeep

set_option autoImplicit false

namespace Keyspace.Service

variable {ν : Type} {c : CouchDb ν} {base : List String} {holdings : ν → CouchDb.Holdings}
  {revision : String → Prop}

abbrev anyTokens (_ _ : String) : Prop := True

/-- The URLs under which a user's key is kept can be sent. -/
def Fits (c : CouchDb ν) (revision : String → Prop) (user space key : String) : Prop :=
  c.client.Takes (c.documentUrl database (docId user space key)) ∧
    ∀ rev, revision rev →
      c.client.Takes ((c.documentUrl database (docId user space key)).withField "rev" rev)

/-- Values that are read back as they are, in documents with at most one more level of containers
than `limit`. -/
def exactly (limit : Nat) : Upkeep.Rule where
  field v := v.reread = v ∧ v.depth ≤ limit + 1
  member v := v.reread = v ∧ v.depth ≤ limit
  within _ := True
  within_of_le _ _ := trivial
  within_zero := trivial
  null := ⟨rfl, Nat.zero_le _⟩
  str s := ⟨rfl, Nat.zero_le _⟩
  count n _ := ⟨congrArg Json.num (Json.Number.reread_natural n), Nat.zero_le _⟩
  members h e he := ⟨Json.reread_of_mem h.1 e he, Json.depth_obj_le_iff.1 h.2 e he⟩
  toJson {m} h := by
    refine ⟨?_, Json.depth_obj_le_iff.2 fun e he => (SortedMap.All.iff_entries.1 h e he).2⟩
    rw [(Json.spells_toJson m).reread, Document.reread, (h.imp fun _ hv => hv.1).map_eq_self]

/-- What a CouchDB server and the memory have in common. Every document has a token of its own.
Whole documents are listed if they fit the answer. -/
abbrev onCouchDb (c : CouchDb ν) (revision : String → Prop) (limit : Nat) : Contract where
  allowed := Fits c revision
  ready := False
  whole := limit ≤ 123
  tokens := Option.Rel anyTokens
  tokens_none := .none
  upkeep := .ofRule (exactly limit)

theorem docId_ordinary (user space key : String) :
    (docId user space key ≠ "." ∧ docId user space key ≠ "..") ∧
      docId user space key ∉ CouchDb.services := by
  have hother : ∀ s ∈ CouchDb.services, ':' ∉ s.toList := by decide
  exact ⟨docId_not_dots user space key, fun hmem => docId_ne (hother _ hmem) user space key rfl⟩

theorem Fits.reaches {user space key : String} (h : Fits c revision user space key) :
    CouchDb.Reaches c revision database (docId user space key) :=
  ⟨(docId_ordinary user space key).1, (docId_ordinary user space key).2, h.1, h.2⟩

theorem reaches_of_addresses {limit : Nat} {id : String}
    (h : (onCouchDb c revision limit).Addresses id) : CouchDb.Reaches c revision database id := by
  obtain ⟨user, space, key, hfits, rfl⟩ := h
  exact Fits.reaches hfits

/-- What is found by its texts is what a selector of these texts accepts first. -/
theorem queried_eq_firstFound {selector : Selector} {texts : List (String × String)}
    (h : AsksFor selector texts) (docs : SortedMap Document) :
    CouchDb.queried docs texts none findLimit = firstFound selector docs.values := by
  have hfound : (docs.values.filter fun doc => texts.all fun e => doc.text? e.1 == some e.2) =
      docs.values.filter selector.accepts := by
    refine List.filter_congr fun doc _ => ?_
    rw [Bool.eq_iff_iff, h.accepts, List.all_eq_true]
    refine forall₂_congr fun e _ => ?_
    rw [beq_iff_eq, text?_eq_some_iff]
  simp only [CouchDb.queried, hfound, firstFound]

theorem looksLike_queried {selector : Selector} {texts : List (String × String)}
    (h : AsksFor selector texts) (docs : SortedMap Document) (fields : Option (List String)) :
    List.Forall₂ (LooksLike fields) (CouchDb.queried docs texts (CouchDb.wanted fields) findLimit)
      (firstFound selector docs.values) := by
  rw [← queried_eq_firstFound h]
  rcases fields with _ | _ | ⟨first, rest⟩
  · exact looksLike_refl ..
  · exact looksLike_refl ..
  · refine List.forall₂_map_left_iff.2 (List.forall₂_same.2 fun doc _ => looksLike_filter doc ?_)
    intro name hname hid
    exact List.mem_cons_of_mem _ (List.mem_filter.2 ⟨hname, bne_iff_ne.2 hid⟩)

theorem exact_of_copies {limit n : Nat} {docs : SortedMap Document}
    (h : (onCouchDb c revision limit).Copies n docs) {id : String} {doc : Document}
    (hdoc : docs.get? id = some doc) : doc.reread = doc ∧ doc.toJson.depth ≤ limit + 2 := by
  obtain ⟨d, halike, -, hd, -⟩ := h id doc hdoc
  have hall := Upkeep.Rule.all_of_alike halike hd
  exact ⟨(hall.imp fun _ hv => hv.1).map_eq_self,
    Json.depth_obj_le_iff.2 fun e he => (SortedMap.All.iff_entries.1 hall e he).2⟩

theorem texts_of_copies {limit n : Nat} {docs : SortedMap Document}
    {texts : List (String × String)}
    (h : (onCouchDb c revision limit).Copies n docs) {name : String}
    (hname : name = Record.keyField ∨ name = Record.spaceField) {doc : Document}
    (hdoc : doc ∈ CouchDb.queried docs texts (CouchDb.wanted (some [name])) findLimit) :
    doc.All fun v => ∃ s, v = .str s := by
  obtain ⟨id, whole, hwhole, rfl⟩ := CouchDb.mem_queried hdoc
  have hnames : CouchDb.wanted (some [name]) = some [Document.idField, name] := by
    rcases hname with rfl | rfl <;> rfl
  intro other v hv
  simp only [hnames, Option.elim_some, SortedMap.get?_filter, Option.filter_eq_some_iff] at hv
  obtain ⟨hv, hother⟩ := hv
  have hother : other = Document.idField ∨ other = name := by simpa using hother
  obtain ⟨s, hs⟩ := h.exists_text hwhole (hother.imp_right fun heq => heq ▸ hname)
  exact ⟨s, Option.some.inj (hv.symm.trans hs)⟩

/-- A CouchDB server serves the documents that it holds, if the client can read them. -/
theorem serves_couchDb (hserver : CouchDb.Server c base holdings revision)
    (hdb : CouchDb.Usable c base database) {limit : Nat} (hlimit : limit ≤ 125) :
    (Engine.couchDb c).Serves (onCouchDb c revision limit)
      (CouchDb.Shows holdings revision database) where
  get {n docs t id} hcopies hid hshows := by
    obtain ⟨t', hshows', hrun⟩ := CouchDb.get_run hserver hdb (reaches_of_addresses hid) hshows
    refine ⟨t', hshows', hrun.trans ?_⟩
    cases hdoc : docs.get? id with
    | none => rfl
    | some doc =>
      obtain ⟨hread, hdepth⟩ := exact_of_copies hcopies hdoc
      simp only [hread]
      exact if_pos (Nat.le_trans hdepth (by rw [Json.maxDepth]; omega))
  save {docs t n id d d'} now hpair hshows := by
    have hid := reaches_of_addresses hpair.2.addresses
    obtain ⟨rev, t', -, hrun, hshows'⟩ := CouchDb.save_run hserver hdb hid hshows d'
    refine ⟨rev, CouchDb.kept d' id rev, t', hrun, hshows', fun token => ?_⟩
    exact ⟨.some trivial, (hpair.1.insert (by decide) _).insert_rev (.some trivial)⟩
  delete hid hshows := CouchDb.delete_run hserver hdb (reaches_of_addresses hid) hshows
  findSome {n docs t selector texts} name hcopies hasks hname hshows := by
    have htexts : ∀ doc ∈ CouchDb.queried docs texts (CouchDb.wanted (some [name])) findLimit,
        doc.All fun v => ∃ s, v = .str s := fun _ hdoc => texts_of_copies hcopies hname hdoc
    have hdepth : ∀ doc ∈ CouchDb.queried docs texts (CouchDb.wanted (some [name])) findLimit,
        doc.toJson.depth ≤ 125 := by
      intro doc hdoc
      refine Json.depth_obj_le_iff.2 fun e he => ?_
      obtain ⟨s, hs⟩ := SortedMap.All.iff_entries.1 (htexts doc hdoc) e he
      exact hs ▸ Nat.zero_le _
    have hread : ∀ doc ∈ CouchDb.queried docs texts (CouchDb.wanted (some [name])) findLimit,
        doc.reread = doc := fun doc hdoc =>
      ((htexts doc hdoc).imp fun _ ⟨s, hs⟩ => hs ▸ rfl).map_eq_self
    obtain ⟨t', hshows', hrun⟩ := CouchDb.find_run hserver hdb hasks.entries hasks.valid
      (some [name]) (show findLimit < 2 ^ 64 by decide) hshows hdepth
    rw [List.map_congr_left hread, List.map_id'] at hrun
    exact ⟨_, t', hshows', hrun, looksLike_queried hasks docs (some [name])⟩
  findWhole hwhole {n docs t selector texts} hcopies hasks hshows := by
    have hexact : ∀ doc ∈ CouchDb.queried docs texts none findLimit,
        doc.reread = doc ∧ doc.toJson.depth ≤ 125 := by
      intro doc hdoc
      obtain ⟨id, whole, hheld, rfl⟩ := CouchDb.mem_queried hdoc
      obtain ⟨hread, hdepth⟩ := exact_of_copies hcopies hheld
      exact ⟨hread, Nat.le_trans hdepth (Nat.add_le_add_right hwhole 2)⟩
    obtain ⟨t', hshows', hrun⟩ := CouchDb.find_run hserver hdb hasks.entries hasks.valid none
      (show findLimit < 2 ^ 64 by decide) hshows fun doc hdoc => (hexact doc hdoc).2
    refine ⟨t', hshows', hrun.trans ?_⟩
    have hsame := List.map_congr_left fun doc hdoc => (hexact doc hdoc).1
    rw [List.map_id'] at hsame
    rw [← queried_eq_firstFound hasks]
    exact congrArg (EStateM.Result.ok · t') hsame
  ensureIndex index hshows := CouchDb.ensureIndex_shows hserver hdb index hshows

/-- Over a server of documents, a value that is set and then got as in memory is one that the reader
gives back from its document. -/
theorem exact_of_agree (hserver : CouchDb.Server c base holdings revision)
    (hdb : CouchDb.Usable c base database) {user space key : String}
    (hfits : Fits c revision user space key) {network : ν}
    (hempty : (holdings network).get? database = none) {value : Json}
    (h : List.Forall₂ (fun x y => x.1 = y.1 ∧ Agree (Answer.Alike anyTokens) x.2 y.2)
      (transcript Engine.memory (setThen user space key value (.get space key none))
        (start Memory.empty))
      (transcript (Engine.couchDb c) (setThen user space key value (.get space key none))
        (start (CouchDb.start network)))) :
    value.reread = value ∧ value.depth ≤ 126 := by
  have hid := hfits.reaches
  have hmissing : ∀ t, CouchDb.Shows holdings revision database SortedMap.empty t →
      ∃ t', CouchDb.Shows holdings revision database SortedMap.empty t' ∧
        (Engine.couchDb c).get database (docId user space key) t =
          .error (.notFound database (docId user space key)) t' := fun t ht => by
    obtain ⟨t', ht', hrun⟩ := CouchDb.get_run hserver hdb hid ht
    rw [SortedMap.get?_empty] at hrun
    exact ⟨t', ht', hrun⟩
  -- The look-up that agrees with the memory's shows the value.
  obtain ⟨d, store, hget, hvalue⟩ := exists_value_of_agree (fun r a hra => by
    cases hra with
    | record hr => exact ⟨_, rfl, by rw [hr.parts]⟩
    | same => exact ⟨r, rfl, rfl⟩) h
  obtain ⟨t₁, doc, hshows, hdoc, hstore⟩ :=
    store_afterSet (I := CouchDb.Shows holdings revision database SortedMap.empty)
      (fun index t ht => CouchDb.ensureIndex_shows hserver hdb index ht) hmissing value
      (s := start (CouchDb.start network)) (CouchDb.shows_start hempty)
  obtain ⟨rev, t₂, -, hsave, hshows'⟩ := CouchDb.save_run hserver hdb hid hshows doc
  have hafter : (afterSet (Engine.couchDb c) user space key value
      (start (CouchDb.start network))).store = t₂ :=
    hstore.trans (congrArg finalState hsave)
  have hkept : (CouchDb.kept doc (docId user space key) rev).get? Record.valueField =
      some value := by
    rw [CouchDb.kept, SortedMap.get?_insert, if_neg (by decide), SortedMap.get?_insert,
      if_neg (by decide), hdoc]
  -- It also shows what the reader makes of the document that was saved, if that can be read.
  obtain ⟨t₃, -, hrun⟩ := CouchDb.get_run hserver hdb hid hshows'
  rw [hafter] at hget
  simp only [SortedMap.get?_insert_self] at hrun
  have hboth := hrun.symm.trans hget
  by_cases hdepth : (CouchDb.kept doc (docId user space key) rev).toJson.depth ≤ Json.maxDepth
  · rw [if_pos hdepth] at hboth
    cases hboth
    rw [Document.field, Document.reread, SortedMap.get?_map, hkept] at hvalue
    exact ⟨hvalue, Json.depth_obj_le_iff.1 hdepth _ (SortedMap.get?_eq_some_iff.1 hkept)⟩
  · rw [if_neg hdepth] at hboth
    cases hboth

open CouchDb (Shelf)

theorem usable_database : CouchDb.Usable Shelf.connected [] database where
  root := Shelf.isRoot
  name := by decide
  database := Shelf.takes_of_size (by decide +kernel) (by decide +kernel) (by decide +kernel)
  creation := Shelf.takes_of_size (by decide +kernel) (by decide +kernel) (by decide +kernel)
  queries := Shelf.takes_of_size (by decide +kernel) (by decide +kernel) (by decide +kernel)

theorem fits_of_size {user space key : String}
    (h : (Text.encodeSegment database).utf8ByteSize +
      (Text.encodeSegment (docId user space key)).utf8ByteSize ≤ 65000) :
    Fits Shelf.connected Shelf.revision user space key := by
  have hordinary := docId_ordinary user space key
  have hreaches : CouchDb.Reaches Shelf.connected Shelf.revision database
      (docId user space key) :=
    Shelf.reaches_of_size (by decide) hordinary.1 hordinary.2 h
  exact ⟨hreaches.document, hreaches.revised⟩

def sampleRequests : List Request :=
  [⟨"ann", Instant.epoch, .set "notes" "k" (.bool true) (some "writer") none⟩,
    ⟨"bob", Instant.epoch, .set "" "k" .null none none⟩,
    ⟨"bob", Instant.epoch, .set "" "k" (.str "v") none none⟩,
    ⟨"ann", Instant.epoch, .get "notes" "k" (some "reader")⟩,
    ⟨"bob", Instant.epoch, .listSpaces⟩,
    ⟨"ann", Instant.epoch, .getMany "notes" ["k", "l"] none⟩,
    ⟨"ann", Instant.epoch, .getAll "notes" (some "reader")⟩,
    ⟨"ann", Instant.epoch, .delete "notes" "k"⟩,
    ⟨"bob", Instant.epoch, .clear "default"⟩]

theorem transcripts_differ_of_long {user : String}
    (hsize : Http.Url.longest < user.utf8ByteSize) :
    ¬ List.Forall₂ (fun x y => x.1 = y.1 ∧ Agree (Answer.Alike anyTokens) x.2 y.2)
      (transcript Engine.memory [⟨user, Instant.epoch, .get "n" "k" none⟩] (start Memory.empty))
      (transcript (Engine.couchDb Shelf.connected) [⟨user, Instant.epoch, .get "n" "k" none⟩]
        (start (CouchDb.start Shelf.empty))) := by
  have hname := docId_ordinary user "n" "k"
  have hid := utf8ByteSize_le_encodeSegment_docId user "n" "k"
  have hlong : Http.Url.longest <
      (Shelf.connected.documentUrl database (docId user "n" "k")).text.utf8ByteSize := by
    rw [Shelf.text_documentUrl (by decide) hname.1]
    simp only [String.utf8ByteSize_append]
    omega
  obtain ⟨reason, hrefused⟩ := Option.isSome_iff_exists.1
    (Http.Client.refusal?_of_long (c := Shelf.connected.client) hlong)
  rw [← Shelf.bared_documentUrl (by decide) hname.1] at hrefused
  have hshows : CouchDb.Shows Shelf.holdings Shelf.revision database SortedMap.empty
      (CouchDb.start Shelf.empty) := CouchDb.shows_start rfl
  obtain ⟨t', hget⟩ := CouchDb.get_refused (Shelf.server rfl) usable_database hshows hrefused
  exact not_forall₂_transcript []
    (answers_differ_of_transport (f := Engine.couchDb Shelf.connected) hget Instant.epoch)

/-- A value with an array too many for a listing of its document. -/
theorem not_isOk_getAll_nested :
    (outcome (Engine.couchDb Shelf.connected) ⟨"u", Instant.epoch, .getAll "n" none⟩
      (afterSet (Engine.couchDb Shelf.connected) "u" "n" "k" (nested 125)
        (start (CouchDb.start Shelf.empty)))).1.isOk = false := by decide +kernel

end Keyspace.Service
