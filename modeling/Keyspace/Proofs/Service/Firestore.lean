import Keyspace.Proofs.Engine.Firestore.Operations
import Keyspace.Proofs.Engine.Firestore.Shelf
import Keyspace.Proofs.Service.Reads
import Keyspace.Proofs.Service.Serving
import Keyspace.Proofs.Service.SetOverHttp
import Keyspace.Proofs.Service.Upkeep

set_option autoImplicit false

namespace Keyspace.Service

variable {ν : Type} {f : Firestore ν} {base : List String}
  {holdings : ν → String → Firestore.Holdings} {selector : Selector}
  {texts : List (String × String)} {fields : Option (List String)}

theorem plain_of_asksFor (h : AsksFor selector texts) : ∀ e ∈ texts, Firestore.Plain e.1 := by
  have hspace : Firestore.Plain Record.spaceField := by decide +kernel
  have huser : Firestore.Plain Record.userField := by decide +kernel
  intro e he
  rcases h.fields e he with heq | heq
  · rw [heq]
    exact hspace
  · rw [heq]
    exact huser

theorem looksLike_of_readAs {d : Document} {e : String × Document} (h : Firestore.ReadAs d e) :
    LooksLike none d e.2.restored := by
  obtain ⟨name, rfl, -⟩ := h
  intro other hother _
  rw [Document.field, Document.field, SortedMap.get?_insert, if_neg hother]

theorem looksLike_cutTo {held : SortedMap Document} {ds : List Document}
    (h : List.Forall₂ Firestore.ReadAs ds
      (Firestore.found held texts (Firestore.kept fields) findLimit)) :
    List.Forall₂ (fun d e => LooksLike fields d e.2.restored) (Firestore.cutTo fields ds)
      (Firestore.found held texts none findLimit) := by
  rcases fields with _ | _ | ⟨first, rest⟩
  · exact h.imp fun d e hd => looksLike_of_readAs hd
  · exact h.imp fun d e hd name hname _ => looksLike_of_readAs hd name hname (by simp)
  · simp only [Firestore.found, Firestore.kept] at h ⊢
    rw [List.forall₂_map_right_iff] at h
    refine List.forall₂_map_left_iff.2 (h.imp fun d e hd name hname hnames => ?_)
    rw [looksLike_project d _ name hname hnames, looksLike_of_readAs hd name hname (by simp),
      Document.restored, ← SortedMap.filter_map e.2 Json.restored
        fun name => ((first :: rest).filter (· != Document.idField)).contains name]
    exact looksLike_filter _ (fun name hname hid =>
      List.mem_filter.2 ⟨hname, bne_iff_ne.2 hid⟩) name hname hnames

theorem firstFound_stored {docs : SortedMap Document} {s : ν} (hasks : AsksFor selector texts)
    (h : Firestore.Stores holdings database docs s)
    (hread : ∀ id doc, docs.get? id = some doc →
      (Firestore.bare doc).restored = Firestore.bare doc) :
    firstFound selector docs.values =
      (Firestore.found (docs.map Firestore.bare) texts none findLimit).map fun e =>
        e.2.restored.insert Document.idField (.str e.1) := by
  have haccepts : ∀ doc : Document, selector.accepts doc =
      texts.all fun t => (Firestore.bare doc).get? t.1 = some (.str t.2) := by
    intro doc
    rw [Bool.eq_iff_iff, hasks.accepts, List.all_eq_true]
    refine forall₂_congr fun e he => ?_
    rw [decide_eq_true_iff, Firestore.bare, SortedMap.get?_erase, SortedMap.get?_erase,
      if_neg (hasks.ne_rev e he), if_neg (hasks.ne_id e he)]
  simp only [firstFound, Firestore.found, SortedMap.values, SortedMap.map, List.filter_map,
    ← List.map_take, List.map_map, Function.comp_def, ← haccepts]
  refine List.map_congr_left fun e he => ?_
  have hget := SortedMap.get?_eq_some_iff.2 (List.mem_filter.1 (List.mem_of_mem_take he)).1
  exact (h.each e.1 e.2 hget).2.trans (congrArg
    (fun d : Document => d.insert Document.idField (.str e.1)) (hread e.1 e.2 hget).symm)

theorem slashless_of_found {docs : SortedMap Document} {s : ν}
    (h : Firestore.Stores holdings database docs s) (limit : Nat) :
    ∀ e ∈ Firestore.found (docs.map Firestore.bare) texts none limit, '/' ∉ e.1.toList := by
  intro e he
  obtain ⟨whole, hget, -⟩ := Firestore.mem_found he
  rw [SortedMap.get?_map] at hget
  obtain ⟨doc, hdoc, -⟩ := Option.map_eq_some_iff.1 hget
  exact (h.each e.1 doc hdoc).1

/-- A user's key under an id without a slash, whose URLs can be sent. -/
def Addressable (f : Firestore ν) (user space key : String) : Prop :=
  ('/' ∉ user.toList ∧ '/' ∉ space.toList) ∧
    f.client.Takes (f.documentUrl database (docId user space key)) ∧
    f.client.Takes
      ((f.documentUrl database (docId user space key)).withField "currentDocument.exists" "true")

abbrev optionalTokens (_ _ : Option String) : Prop := True

/-- Values that are read back from their typed form as they are. That nests at most `limit`
containers deep for a member, and one object of members deeper for a field. -/
def exactlyTyped (limit : Nat) : Upkeep.Rule where
  field v := (v.isPortable = true ∧ v.reread = v) ∧ (TypedValue.encode v).depth ≤ limit + 3
  member v := (v.isPortable = true ∧ v.reread = v) ∧ (TypedValue.encode v).depth ≤ limit
  within n := n < 2 ^ 63
  within_of_le hle h := Nat.lt_of_le_of_lt hle h
  within_zero := by decide
  null := ⟨⟨rfl, rfl⟩, TypedValue.depth_typed_le_iff.2 (Nat.zero_le _)⟩
  str s := ⟨⟨rfl, rfl⟩, TypedValue.depth_typed_le_iff.2 (Nat.zero_le _)⟩
  count n h := by
    have hint : (Json.Number.natural n).int64? = some n.toNat := by simp [Json.Number.int64?, h]
    refine ⟨⟨decide_eq_true h, congrArg Json.num (Json.Number.reread_natural n)⟩, ?_⟩
    rw [TypedValue.encode, TypedValue.encodeNumber, hint]
    exact TypedValue.depth_typed_le_iff.2 (Nat.zero_le _)
  members {ms} h e he := by
    obtain ⟨⟨hportable, hread⟩, hdepth⟩ := h
    rw [Json.isPortable, Json.havePortable_iff] at hportable
    exact ⟨⟨hportable e he, Json.reread_of_mem hread e he⟩,
      TypedValue.depth_encode_obj_le_iff.1 hdepth e he⟩
  toJson {m} h := by
    refine ⟨⟨Document.Portable.iff_toJson.1 (h.imp fun _ hv => hv.1.1), ?_⟩, ?_⟩
    · rw [(Json.spells_toJson m).reread, Document.reread, (h.imp fun _ hv => hv.1.2).map_eq_self]
    · exact TypedValue.depth_encode_obj_le_iff.2 fun e he =>
        (SortedMap.All.iff_entries.1 h e he).2

/-- What a Firestore service and the memory have in common. Whole documents are listed if they fit
the answer. -/
abbrev onFirestore (f : Firestore ν) (limit : Nat) : Contract where
  allowed := Addressable f
  ready := False
  whole := limit ≤ 120
  tokens := optionalTokens
  tokens_none := trivial
  upkeep := .ofRule (exactlyTyped limit)

theorem Addressable.reaches {user space key : String} (h : Addressable f user space key) :
    Firestore.Reaches f database (docId user space key) :=
  ⟨docId_not_dots user space key, slash_notMem_docId h.1.1 h.1.2 key, h.2.1, h.2.2⟩

theorem reachable_of_addresses {limit : Nat} {id : String}
    (h : (onFirestore f limit).Addresses id) : Firestore.Reaches f database id := by
  obtain ⟨user, space, key, hplace, rfl⟩ := h
  exact Addressable.reaches hplace

theorem bare_alike {U : Option String → Option String → Prop} {d d' : Document}
    (h : Document.Alike U d d') : Firestore.bare d' = Firestore.bare d := by
  refine SortedMap.ext_get? fun name => ?_
  simp only [Firestore.bare, SortedMap.get?_erase]
  split
  · rfl
  · rename_i hrev
    rw [h.fields name hrev]

theorem stamped_alike_shown (doc : Document) (id token : String) :
    Document.Alike optionalTokens (Memory.stamped doc id token) (Firestore.shown id doc) where
  fields name hname := by
    simp only [Memory.stamped, Firestore.shown, Firestore.bare, SortedMap.get?_insert,
      SortedMap.get?_erase, if_neg hname]
    split <;> simp_all
  tokens := by
    refine ⟨some token, none, SortedMap.get?_insert_self .., ?_, trivial⟩
    have hne : Document.revField ≠ Document.idField := by decide
    simp [Firestore.shown, Firestore.bare, SortedMap.get?_insert, SortedMap.get?_erase, hne]

theorem exact_of_all {limit : Nat} {doc : Document} (h : doc.All (exactlyTyped limit).field) :
    (Firestore.bare doc).restored = Firestore.bare doc ∧
      (Firestore.bare doc).typedDepth ≤ limit + 4 := by
  have hbare : SortedMap.All (exactlyTyped limit).field (Firestore.bare doc) :=
    (h.erase _).erase _
  exact ⟨(hbare.imp fun _ hv => Json.restored_eq_self hv.1.1 hv.1.2).map_eq_self,
    TypedValue.typedDepth_le_iff.2 fun e he => (SortedMap.All.iff_entries.1 hbare e he).2⟩

theorem all_of_copies {limit n : Nat} {docs : SortedMap Document}
    (h : (onFirestore f limit).Copies n docs) {id : String} {doc : Document}
    (hdoc : docs.get? id = some doc) : doc.All (exactlyTyped limit).field := by
  obtain ⟨d, halike, -, hd, -⟩ := h id doc hdoc
  exact Upkeep.Rule.all_of_alike halike hd

theorem typedDepth_of_found {limit n : Nat} {docs : SortedMap Document}
    (h : (onFirestore f limit).Copies n docs) {name : String}
    (hname : name = Record.keyField ∨ name = Record.spaceField) {e : String × Document}
    (he : e ∈ Firestore.found (docs.map Firestore.bare) texts (Firestore.kept (some [name]))
      findLimit) : e.2.typedDepth ≤ 124 := by
  obtain ⟨whole, hwhole, hcut⟩ := Firestore.mem_found he
  rw [SortedMap.get?_map] at hwhole
  obtain ⟨doc, hdoc, rfl⟩ := Option.map_eq_some_iff.1 hwhole
  have hnames : Firestore.kept (some [name]) = some [name] := by
    rcases hname with rfl | rfl <;> rfl
  have hother : name ≠ Document.idField ∧ name ≠ Document.revField := by
    rcases hname with rfl | rfl <;> decide
  refine TypedValue.typedDepth_le_iff.2 fun entry hentry => ?_
  have hget := SortedMap.get?_eq_some_iff.2 hentry
  simp only [hcut, hnames, Option.elim_some, SortedMap.get?_filter,
    Option.filter_eq_some_iff] at hget
  obtain ⟨hget, hheld⟩ := hget
  have hfield : entry.1 = name := by simpa using hheld
  rw [hfield, Firestore.bare, SortedMap.get?_erase, if_neg hother.2, SortedMap.get?_erase,
    if_neg hother.1] at hget
  obtain ⟨s, hs⟩ := h.exists_text hdoc (.inr hname)
  rw [Option.some.inj (hget.symm.trans hs)]
  exact TypedValue.depth_typed_le_iff.2 (Nat.zero_le _)

/-- A Firestore service serves the documents that it holds as typed fields, if the client can read
them. -/
theorem serves_firestore (hserver : Firestore.Server f base holdings)
    (hdb : Firestore.Usable f base database) {limit : Nat} (hlimit : limit ≤ 122) :
    (Engine.firestore f).Serves (onFirestore f limit) (Firestore.Stores holdings database) where
  get {n docs s id} hcopies hid hstores := by
    obtain ⟨s', hstores', hrun⟩ :=
      Firestore.get_run hserver hdb (reachable_of_addresses hid) hstores
    refine ⟨s', hstores', hrun.trans ?_⟩
    cases hdoc : docs.get? id with
    | none => rfl
    | some doc =>
      obtain ⟨hread, hdepth⟩ := exact_of_all (all_of_copies hcopies hdoc)
      have hshown := (hstores.each id doc hdoc).2
      rw [Firestore.shown] at hshown
      simp only [hread, if_pos (Nat.le_trans hdepth (Nat.add_le_add_right hlimit 4)), ← hshown]
  save {docs s n id d d'} now hpair hstores := by
    have hid := reachable_of_addresses hpair.2.addresses
    obtain ⟨halike, -, hall, -⟩ := hpair
    have hbare := bare_alike halike
    have hdepth := (exact_of_all hall).2
    rw [← hbare] at hdepth
    obtain ⟨rev, s', hrun, hstores'⟩ := Firestore.save_run hserver hdb hid hstores
      (Nat.le_trans hdepth (Nat.add_le_add_right hlimit 4))
    rw [Firestore.shown, hbare] at hstores'
    exact ⟨rev, _, s', hrun, hstores', fun token => ⟨trivial, stamped_alike_shown d id token⟩⟩
  delete hid hstores := Firestore.delete_run hserver hdb (reachable_of_addresses hid) hstores
  findSome {n docs s selector texts} name hcopies hasks hname hstores := by
    have hplain : ∀ names ∈ some [name], ∀ other ∈ names, Firestore.Plain other := by
      rcases hname with rfl | rfl <;> decide +kernel
    obtain ⟨ds, s', hstores', hds, hrun⟩ := Firestore.find_run hserver hdb hasks.entries hasks.valid
      (plain_of_asksFor hasks) hplain (show findLimit ≤ StructuredQuery.maxLimit by decide) hstores
      fun e he => typedDepth_of_found hcopies hname he
    refine ⟨_, s', hstores', hrun, ?_⟩
    rw [firstFound_stored hasks hstores fun id doc hdoc =>
      (exact_of_all (all_of_copies hcopies hdoc)).1, List.forall₂_map_right_iff]
    refine (looksLike_cutTo hds).imp fun d e hd other hother hnames => ?_
    rw [hd other hother hnames, Document.field, Document.field, SortedMap.get?_insert,
      if_neg hother]
  findWhole hwhole {n docs s selector texts} hcopies hasks hstores := by
    have hplain : ∀ names ∈ (none : Option (List String)), ∀ other ∈ names,
        Firestore.Plain other := by simp
    have hdepth : ∀ e ∈ Firestore.found (docs.map Firestore.bare) texts none findLimit,
        e.2.typedDepth ≤ 124 := by
      intro e he
      obtain ⟨whole, hheld, hcut⟩ := Firestore.mem_found he
      rw [SortedMap.get?_map] at hheld
      obtain ⟨doc, hdoc, rfl⟩ := Option.map_eq_some_iff.1 hheld
      rw [hcut]
      exact Nat.le_trans (exact_of_all (all_of_copies hcopies hdoc)).2
        (Nat.add_le_add_right hwhole 4)
    obtain ⟨ds, s', hstores', hds, hrun⟩ := Firestore.find_run hserver hdb hasks.entries hasks.valid
      (plain_of_asksFor hasks) hplain (show findLimit ≤ StructuredQuery.maxLimit by decide) hstores
      hdepth
    have hwhole := (Firestore.eq_map_of_readAs hds (slashless_of_found hstores findLimit)).trans
      (firstFound_stored hasks hstores fun id doc hdoc =>
        (exact_of_all (all_of_copies hcopies hdoc)).1).symm
    exact ⟨s', hstores', hwhole ▸ hrun⟩
  ensureIndex _ hstores := hstores

/-- Over a Firestore service, a value that is set and then got as in memory is one that the reader
gives back from its typed form. -/
theorem restored_of_agree (hserver : Firestore.Server f base holdings)
    (hdb : Firestore.Usable f base database) {user space key : String}
    (hplace : Addressable f user space key) {network : ν}
    (hempty : holdings network database = SortedMap.empty) {value : Json}
    (h : List.Forall₂ (fun x y => x.1 = y.1 ∧ Agree (Answer.AlikeBy optionalTokens) x.2 y.2)
      (transcript Engine.memory (setThen user space key value (.get space key none))
        (start Memory.empty))
      (transcript (Engine.firestore f) (setThen user space key value (.get space key none))
        (start network))) :
    value.restored = value ∧ (TypedValue.encode value).depth ≤ 125 := by
  have hid := hplace.reaches
  have hmissing : ∀ s, Firestore.Stores holdings database SortedMap.empty s →
      ∃ s', Firestore.Stores holdings database SortedMap.empty s' ∧
        (Engine.firestore f).get database (docId user space key) s =
          .error (.notFound database (docId user space key)) s' := fun s hs => by
    obtain ⟨s', hs', hrun⟩ := Firestore.get_run hserver hdb hid hs
    rw [SortedMap.get?_empty] at hrun
    exact ⟨s', hs', hrun⟩
  -- The look-up that agrees with the memory's shows the value.
  obtain ⟨d, store, hget, hvalue⟩ := exists_value_of_agree (fun r a hra => by
    cases hra with
    | record hr => exact ⟨_, rfl, by rw [hr.parts]⟩
    | same => exact ⟨r, rfl, rfl⟩) h
  obtain ⟨s₁, doc, -, hdoc, hstore⟩ :=
    store_afterSet (e := Engine.firestore f)
      (I := Firestore.Stores holdings database SortedMap.empty) (fun _ _ hs => hs) hmissing value
      (s := start network) (Firestore.stores_empty hempty)
  have hbare : (Firestore.bare doc).get? Record.valueField = some value := by
    rw [Firestore.bare, SortedMap.get?_erase, if_neg (by decide), SortedMap.get?_erase,
      if_neg (by decide), hdoc]
  have hwritten := (Firestore.save_sent hserver hdb hid doc s₁).1
  have hafter : (afterSet (Engine.firestore f) user space key value (start network)).store =
      finalState (f.save database (docId user space key) doc s₁) := hstore
  rw [← hafter] at hwritten
  -- It also shows what is read of the typed fields that were sent, if they can be read.
  obtain ⟨s₂, -, hrun⟩ := Firestore.get_held hserver hdb hid
    (by rw [hwritten, SortedMap.get?_insert_self])
  have hboth := hrun.symm.trans hget
  by_cases hdepth : (Firestore.bare doc).typedDepth ≤ 126
  · rw [if_pos hdepth] at hboth
    cases hboth
    rw [Document.field, SortedMap.get?_insert, if_neg (by decide), Document.restored,
      SortedMap.get?_map, hbare] at hvalue
    exact ⟨hvalue, TypedValue.typedDepth_le_iff.1 hdepth _ (SortedMap.get?_eq_some_iff.1 hbare)⟩
  · rw [if_neg hdepth] at hboth
    cases hboth

open Firestore (Shelf)

theorem usable_shelf : Firestore.Usable Shelf.connected Shelf.base database where
  place := Shelf.isPlace
  name := by decide
  queries := Shelf.takes_of_size (by decide +kernel) (by decide +kernel) (by decide +kernel)

theorem addressable_of_size {user space key : String} (huser : '/' ∉ user.toList)
    (hspace : '/' ∉ space.toList)
    (hsize : (Text.encodeSegment (docId user space key)).utf8ByteSize ≤ 65000) :
    Addressable Shelf.connected user space key := by
  have hdb : database ≠ "." ∧ database ≠ ".." := by decide
  have hid := docId_not_dots user space key
  have hurl := Shelf.documentUrl_eq hdb hid
  have hlength : (Shelf.connected.documentUrl database (docId user space key)).text.utf8ByteSize ≤
      65100 := by
    have hplace : Shelf.documents.text.utf8ByteSize = 68 := by decide +kernel
    have hcollection : (Text.encodeSegment database).utf8ByteSize = 16 := by decide +kernel
    have hslash : "/".utf8ByteSize = 1 := by decide
    rw [Shelf.text_documentUrl hdb hid]
    simp only [String.utf8ByteSize_append, hplace, hcollection, hslash]
    omega
  refine ⟨⟨huser, hspace⟩, Shelf.takes_of_size ?_ ?_ ?_, Shelf.takes_of_size ?_ ?_ ?_⟩
  · rw [hurl]
  · rw [hurl]
  · rw [Http.Url.longest]
    omega
  · rw [Http.Url.withField, hurl]
  · rw [Http.Url.withField, hurl]
  · have hname : (Text.encodeField "currentDocument.exists").utf8ByteSize = 22 := by decide +kernel
    have hvalue : (Text.encodeField "true").utf8ByteSize = 4 := by decide +kernel
    have hmark : "?".utf8ByteSize = 1 := by decide
    have hequals : "=".utf8ByteSize = 1 := by decide
    rw [Http.Url.text_withField (by rw [hurl]; rfl) (by rw [hurl]; rfl), Http.Url.longest]
    simp only [String.utf8ByteSize_append, hname, hvalue, hmark, hequals]
    omega

def nestedRequests : List Request :=
  [⟨"ann", Instant.epoch, .set "notes" "k"
      (.obj [("list", .arr [.num (.negative 0), .bool true, .arr []])]) (some "writer")
      (some (SortedMap.ofList [("note", .null)]))⟩,
    ⟨"ann", Instant.epoch, .get "notes" "k" (some "reader")⟩,
    ⟨"bob", Instant.epoch, .set "" "k" (.str "v") none none⟩,
    ⟨"bob", Instant.epoch, .set "" "k" .null none none⟩,
    ⟨"bob", Instant.epoch, .listSpaces⟩,
    ⟨"ann", Instant.epoch, .getMany "notes" ["k", "l"] none⟩,
    ⟨"ann", Instant.epoch, .getAll "notes" none⟩,
    ⟨"ann", Instant.epoch, .delete "notes" "k"⟩,
    ⟨"bob", Instant.epoch, .clear "default"⟩]

theorem answers_differ_of_long {user : String} (hsize : Http.Url.longest < user.utf8ByteSize) :
    ¬ Agree (Answer.AlikeBy optionalTokens)
      (outcome Engine.memory ⟨user, Instant.epoch, .get "n" "k" none⟩ (start Memory.empty)).1
      (outcome (Engine.firestore Shelf.connected) ⟨user, Instant.epoch, .get "n" "k" none⟩
        (start Shelf.empty)).1 := by
  have hdb : database ≠ "." ∧ database ≠ ".." := by decide
  have hname := docId_not_dots user "n" "k"
  have hid := utf8ByteSize_le_encodeSegment_docId user "n" "k"
  have hlong : Http.Url.longest <
      (Shelf.connected.documentUrl database (docId user "n" "k")).text.utf8ByteSize := by
    rw [Shelf.text_documentUrl hdb hname]
    simp only [String.utf8ByteSize_append]
    omega
  obtain ⟨reason, hrefused⟩ := Option.isSome_iff_exists.1
    (Http.Client.refusal?_of_long (c := Shelf.connected.client) hlong)
  rw [← Shelf.bared_documentUrl hdb hname] at hrefused
  exact answers_differ_of_transport (f := Engine.firestore Shelf.connected)
    (Firestore.get_refused hrefused) Instant.epoch

theorem not_reads_of_countRead {doc c : Document} {agent : String} {now : Instant}
    (hcount : Record.countRead doc agent now = some c)
    (hreads : ¬ (Record.readsOf doc).toNat + 1 < 2 ^ 63) (id : String) (r : Record) :
    ¬ Record.Reads ((Firestore.bare c).restored.insert Document.idField (.str id)) r := by
  intro hr
  have hid : Record.accessCountField ≠ Document.idField := by decide
  have hrev : Record.accessCountField ≠ Document.revField := by decide
  rw [← Record.toNat_readsOf_succ hcount] at hreads
  obtain ⟨x, hdouble⟩ := Json.exists_restored_natural hreads
  have hread := hr.accessCount
  rw [Record.readField, SortedMap.get?_insert, if_neg hid, Document.restored, SortedMap.get?_map,
    Firestore.bare, SortedMap.get?_erase, if_neg hrev, SortedMap.get?_erase, if_neg hid,
    Record.get?_countRead hcount, if_pos rfl, Option.map_some, hdouble] at hread
  cases hread

theorem not_isOk_of_readTimes (hserver : Firestore.Server f base holdings)
    (hdb : Firestore.Usable f base database) {limit : Nat} (hlimit : limit ≤ 122)
    {user space key : String} {n count : Nat} {s : State Memory} {t : State ν} {now : Instant}
    (h : ReadTimes user space key n s) (hn : n + 1 = 2 ^ 63) (hplace : Addressable f user space key)
    (hmirrors : Mirrors (onFirestore f limit) (Firestore.Stores holdings database) count s.store
      t.store) (agent : String) :
    ¬ (outcome (Engine.firestore f) ⟨user, now, .get space key none⟩
      (outcome (Engine.firestore f) ⟨user, now, .get space key (some agent)⟩ t).2).1.isOk := by
  have haddress : (onFirestore f limit).Addresses (docId user space key) :=
    ⟨user, space, key, hplace, rfl⟩
  have hid := hplace.reaches
  obtain ⟨stored, hstored, -, hreads⟩ := h
  obtain ⟨doc, t₁, hget, halike, -⟩ :=
    (serves_firestore hserver hdb hlimit).get_of_mirrors hmirrors haddress hstored
  have hdocReads : (Record.readsOf doc).toNat = n := by
    rw [← hreads, Record.readsOf, Record.readsOf, halike.fields _ (by decide)]
  obtain ⟨c, hcount⟩ : ∃ c, Record.countRead doc agent now = some c :=
    Record.countRead_eq_some_iff.2 (by omega)
  rw [outcome_get_state]
  have hwritten := (Firestore.save_sent hserver hdb hid c t₁).1
  have hstore : (finalState (get (Engine.firestore f) now user space key (some agent) t)).store =
      finalState (f.save database (docId user space key) c t₁) := store_get_counted hget hcount
  rw [← hstore] at hwritten
  obtain ⟨t₂, -, hagain⟩ := Firestore.get_held hserver hdb hid
    (by rw [hwritten, SortedMap.get?_insert_self])
  intro hok
  obtain ⟨a, hanswer⟩ := exists_of_isOk hok
  rcases found_of_outcome hanswer with ⟨d, store, r, hfound, hr, -⟩ | ⟨-, err, store, hfound, hno⟩
  · have hboth := hagain.symm.trans hfound
    split at hboth
    · cases hboth
      exact not_reads_of_countRead hcount (by omega) _ r hr
    · cases hboth
  · have hboth := hagain.symm.trans hfound
    split at hboth
    · cases hboth
    · cases hboth
      cases hno

def readOften (user space key agent : String) (now : Instant) (count : Nat) : List Request :=
  setAndRead user space key agent now count ++ [⟨user, now, .get space key none⟩]

/-- When the reads of a key have left the signed range, the key can be read in memory only. -/
theorem transcripts_differ_of_reads (hserver : Firestore.Server f base holdings)
    (hdb : Firestore.Usable f base database) {user space key : String}
    (hplace : Addressable f user space key) (hnamed : Addressable f user (Record.named space) key)
    {network : ν} (hempty : holdings network database = SortedMap.empty) (agent : String)
    {now : Instant} (hnow : now.InRange) {count : Nat} (hcount : count = 2 ^ 63) :
    ¬ List.Forall₂ (fun x y => x.1 = y.1 ∧ Agree (Answer.AlikeBy optionalTokens) x.2 y.2)
      (transcript Engine.memory (readOften user space key agent now count) (start Memory.empty))
      (transcript (Engine.firestore f) (readOften user space key agent now count)
        (start network)) := by
  obtain ⟨n, rfl⟩ : ∃ n, count = n + 1 := ⟨2 ^ 63 - 1, by omega⟩
  rw [readOften, setAndRead_succ]
  refine not_forall₂_transcript _ fun hagree => ?_
  rw [after_append, after_append] at hagree
  have hwrites : ∀ r ∈ setAndRead user space key agent now n,
      r.operation.Writes (exactlyTyped 0).field :=
    writes_setAndRead (exactlyTyped 0).null user space key agent now n
  have hwithin : taggedReads (setAndRead user space key agent now n) < 2 ^ 63 := by
    rw [taggedReads_setAndRead]
    omega
  have hwhole : ∀ r ∈ setAndRead user space key agent now n,
      r.operation.listsWhole = true → 0 ≤ 120 := fun _ _ _ => Nat.zero_le _
  obtain ⟨-, hmirrors⟩ := (serves_firestore hserver hdb (Nat.zero_le 122)).transcript_alike
    (fun _ _ => False.elim) hwhole (within_setAndRead hplace hnamed agent now n) hwrites hwithin
    (Firestore.stores_empty hempty)
  have hreads := readTimes_setAndRead user space key agent hnow (by omega : n < 2 ^ 64)
  exact not_isOk_of_readTimes hserver hdb (Nat.zero_le 122) hreads hcount hplace hmirrors agent
    (hagree.isOk (hreads.tagged (by omega) hnow agent).isOk)

/-- A value with an array too many for a listing of its document. -/
theorem not_isOk_getAll_nested_typed :
    (outcome (Engine.firestore Shelf.connected) ⟨"u", Instant.epoch, .getAll "n" none⟩
      (afterSet (Engine.firestore Shelf.connected) "u" "n" "k" (nested 41)
        (start Shelf.empty))).1.isOk = false := by decide +kernel

end Keyspace.Service
