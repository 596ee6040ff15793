import Keyspace.Proofs.DocId
import Keyspace.Proofs.Engine.Firestore.Fallback
import Keyspace.Proofs.Runs
import Keyspace.Proofs.TypedValue.Decoding
import Mathlib.Data.List.TakeWhile

set_option autoImplicit false

namespace Keyspace

theorem Engine.orThrow_eq_ok_iff {σ α : Type} {result : Except StoreError α} {a : α} {s s' : σ} :
    orThrow result s = .ok a s' ↔ result = .ok a ∧ s' = s := by
  cases result with
  | ok b => simp [orThrow, eq_comm]
  | error e => simp [orThrow]

theorem Document.get?_project_id {doc : Document} {v : Json}
    (h : doc.get? Document.idField = some v) (names : List String) :
    (doc.project names).get? Document.idField = some v := by
  have hfold : ∀ p : Document, p.get? Document.idField = some v → (names.foldl
      (fun (p : Document) name => p.insert name (doc.field name)) p).get? Document.idField =
        some v := by
    induction names with
    | nil => exact fun _ hp => hp
    | cons name rest ih =>
      intro p hp
      refine ih _ ?_
      rw [SortedMap.get?_insert]
      split
      · rename_i heq
        rw [← heq, Document.field, h, Option.getD_some]
      · exact hp
  rw [Document.project, h]
  exact hfold _ (SortedMap.get?_insert_self ..)

namespace Firestore

open Http (Response)

variable {ν α : Type} {f : Firestore ν} {db id : String} {doc : Document} {s s' : ν}

namespace Resource

def NamedFor (res : Resource) (db id : String) : Prop :=
  ∃ project database, res.name =
    "projects/" ++ project ++ "/databases/" ++ database ++ "/documents/" ++ db ++ "/" ++ id

theorem slash_notMem_id (res : Resource) : '/' ∉ res.id.toList := by
  intro h
  rw [Resource.id, String.toList_ofList, List.mem_reverse] at h
  simpa using List.mem_takeWhile_imp h

theorem id_eq_iff {res : Resource} (h : res.NamedFor db id) :
    res.id = id ↔ '/' ∉ id.toList := by
  refine ⟨fun hid => hid ▸ slash_notMem_id res, fun hslash => ?_⟩
  obtain ⟨project, database, hname⟩ := h
  rw [Resource.id, hname, takeWhile_reverse_of_slash hslash, List.reverse_reverse,
    String.ofList_toList]

theorem get?_id_of_toDocument {res : Resource} (h : res.toDocument = .ok doc) :
    doc.get? Document.idField = some (.str res.id) := by
  unfold Resource.toDocument at h
  split at h
  · cases h
    exact SortedMap.get?_insert_self ..
  · cases h

end Resource

def returned (fields : Option (List String)) (doc : Document) : Document :=
  match fields with
  | none | some [] => doc
  | some names => doc.project names

theorem cutTo_eq_map (fields : Option (List String)) (docs : List Document) :
    cutTo fields docs = docs.map (returned fields) := by
  rcases fields with _ | _ | ⟨name, names⟩
  · exact (List.map_id _).symm
  · exact (List.map_id _).symm
  · rfl

/-- A document that is returned was read from a resource. -/
def ReadFrom (fields : Option (List String)) (res : Resource) (doc : Document) : Prop :=
  ∃ whole, res.toDocument = .ok whole ∧ doc = returned fields whole

theorem ReadFrom.get?_id {fields : Option (List String)} {res : Resource}
    (h : ReadFrom fields res doc) : doc.get? Document.idField = some (.str res.id) := by
  obtain ⟨whole, hwhole, rfl⟩ := h
  have hid := Resource.get?_id_of_toDocument hwhole
  rcases fields with _ | _ | ⟨name, names⟩
  · exact hid
  · exact hid
  · exact Document.get?_project_id hid _

theorem readFrom_none_iff {res : Resource} : ReadFrom none res doc ↔ res.toDocument = .ok doc := by
  simp [ReadFrom, returned]

theorem mapM_toDocument_eq_ok_iff {rs : List Resource} {docs : List Document} :
    rs.mapM Resource.toDocument = .ok docs ↔ List.Forall₂ (ReadFrom none) rs docs := by
  induction rs generalizing docs with
  | nil => simp [pure, Except.pure, eq_comm]
  | cons res rs ih =>
    rw [List.mapM_cons, List.forall₂_cons_left_iff]
    simp only [readFrom_none_iff, ← ih]
    cases res.toDocument with
    | error e => simp [bind, Except.bind]
    | ok d =>
      cases rs.mapM Resource.toDocument <;>
        simp [bind, Except.bind, pure, Except.pure, eq_comm]

theorem forall₂_readFrom_map {rs : List Resource} {docs : List Document}
    (h : List.Forall₂ (ReadFrom none) rs docs) (fields : Option (List String)) :
    List.Forall₂ (ReadFrom fields) rs (docs.map (returned fields)) :=
  List.forall₂_map_right_iff.2 (h.imp fun _ _ hread => ⟨_, readFrom_none_iff.1 hread, rfl⟩)

theorem readFrom_unique {fields : Option (List String)} {rs : List Resource}
    {docs docs' : List Document} (h : List.Forall₂ (ReadFrom fields) rs docs)
    (h' : List.Forall₂ (ReadFrom fields) rs docs') : docs = docs' := by
  refine List.right_unique_forall₂' (fun res doc doc' hdoc hdoc' => ?_) h h'
  obtain ⟨whole, hwhole, rfl⟩ := hdoc
  obtain ⟨whole', hwhole', rfl⟩ := hdoc'
  rw [Except.ok.inj (hwhole.symm.trans hwhole')]

theorem readable_of_readFrom {rs : List Resource} {docs : List Document}
    (h : List.Forall₂ (ReadFrom none) rs docs) : ∀ res ∈ rs, ∃ doc, res.toDocument = .ok doc := by
  induction h with
  | nil => simp
  | cons hread _ ih =>
    exact List.forall_mem_cons.2 ⟨⟨_, readFrom_none_iff.1 hread⟩, ih⟩

theorem exists_readFrom {rs : List Resource}
    (h : ∀ res ∈ rs, ∃ doc, res.toDocument = .ok doc) :
    ∃ docs, List.Forall₂ (ReadFrom none) rs docs :=
  TypedValue.exists_forall₂ fun res hres => (h res hres).imp fun _ => readFrom_none_iff.2

theorem exists_whole {fields : Option (List String)} {rs : List Resource} {docs : List Document}
    (h : List.Forall₂ (ReadFrom fields) rs docs) :
    ∃ whole, List.Forall₂ (ReadFrom none) rs whole ∧ docs = whole.map (returned fields) := by
  induction h with
  | nil => exact ⟨[], .nil, rfl⟩
  | cons hread _ ih =>
    obtain ⟨doc, hdoc, rfl⟩ := hread
    obtain ⟨whole, hwhole, rfl⟩ := ih
    exact ⟨doc :: whole, .cons (readFrom_none_iff.2 hdoc) hwhole, rfl⟩

/-- A look-up is answered with a resource. -/
def Fetches (f : Firestore ν) (db id : String) (s : ν) (res : Resource) (s' : ν) : Prop :=
  ∃ r, f.send .get (f.documentUrl db id) none s = .ok r s' ∧ r.isSuccess = true ∧
    r.json?.bind Resource.ofJson? = some res

/-- The page of a listing with a token, and those after it, are answered with resources. -/
inductive Lists (f : Firestore ν) (db : String) :
    Nat → Option String → ν → List Resource → ν → Prop where
  | last {pages : Nat} {token : Option String} {s s' : ν} {r : Response} {page : Page}
    (sent : f.send .get (f.pageUrl db token) none s = .ok r s') (success : r.isSuccess = true)
    (body : r.json?.bind Page.ofJson? = some page) (ends : page.nextToken? = none) :
    Lists f db (pages + 1) token s page.resources s'
  | more {pages : Nat} {token : Option String} {s s' s'' : ν} {r : Response} {page : Page}
    {next : String} {rest : List Resource}
    (sent : f.send .get (f.pageUrl db token) none s = .ok r s') (success : r.isSuccess = true)
    (body : r.json?.bind Page.ofJson? = some page) (goes : page.nextToken? = some next)
    (others : Lists f db pages (some next) s' rest s'') :
    Lists f db (pages + 1) token s (page.resources ++ rest) s''

/-- A query is answered with resources. -/
def Queries (f : Firestore ν) (db : String) (selector : Selector) (fields : Option (List String))
    (limit : Nat) (s : ν) (rs : List Resource) (s' : ν) : Prop :=
  ∃ r items, f.send .post (f.documents.suffixed ":runQuery")
      (some (StructuredQuery.ofSelector db selector fields limit).toJson) s = .ok r s' ∧
    r.isSuccess = true ∧ r.json?.bind (Json.list? item?) = some items ∧
    rs = items.filterMap fun item => item

def accepted (selector : Selector) (res : Resource) : Bool :=
  match res.toDocument with
  | .ok doc => selector.accepts doc
  | .error _ => false

/-- A search finds resources: those that its query is answered with; or, where the query fails,
those on all pages whose documents the selector accepts, up to the limit. -/
inductive Finds (f : Firestore ν) (db : String) (selector : Selector)
    (fields : Option (List String)) (limit : Nat) (s : ν) : List Resource → ν → Prop where
  | answered {rs : List Resource} {s' : ν} (queries : Queries f db selector fields limit s rs s') :
    Finds f db selector fields limit s rs s'
  | listed {e : StoreError} {s₁ s' : ν} {rs : List Resource}
    (fails : f.query db selector fields limit s = .error e s₁)
    (lists : Lists f db (f.client.network.horizon s₁) none s₁ rs s')
    (readable : ∀ res ∈ rs, ∃ doc, res.toDocument = .ok doc) :
    Finds f db selector fields limit s ((rs.filter (accepted selector)).take limit) s'

theorem get_eq_ok_iff :
    f.get db id s = .ok doc s' ↔ ∃ res, Fetches f db id s res s' ∧ ReadFrom none res doc := by
  simp only [readFrom_none_iff]
  constructor
  · intro h
    obtain ⟨r, s₁, hsend, hget⟩ := bind_eq_ok_iff.1 h
    split at hget
    · cases hget
    · split at hget
      · rename_i hsuccess
        obtain ⟨res, s₂, hread, hthrow⟩ := bind_eq_ok_iff.1 hget
        obtain ⟨hres, rfl⟩ := Response.read_eq_ok_iff.1 hread
        obtain ⟨hdoc, rfl⟩ := Engine.orThrow_eq_ok_iff.1 hthrow
        exact ⟨res, ⟨r, hsend, hsuccess, hres⟩, hdoc⟩
      · cases hget
  · rintro ⟨res, ⟨r, hsend, hsuccess, hres⟩, hdoc⟩
    have hthere : ¬ r.isNotFound = true := fun hmissing => by
      simp [Response.isSuccess_of_isNotFound hmissing] at hsuccess
    refine bind_eq_ok_iff.2 ⟨r, s', hsend, ?_⟩
    rw [if_neg hthere, if_pos hsuccess]
    exact bind_eq_ok_iff.2 ⟨res, s', Response.read_eq_ok_iff.2 ⟨hres, rfl⟩,
      Engine.orThrow_eq_ok_iff.2 ⟨hdoc, rfl⟩⟩

/-- A page that can be read, with what its token says is to follow. -/
theorem pagesFrom_succ_eq_ok_iff {pages : Nat} {token : Option String} {docs : List Document} :
    f.pagesFrom db (pages + 1) token s = .ok docs s' ↔
      ∃ r s₁ page shown, f.send .get (f.pageUrl db token) none s = .ok r s₁ ∧
        r.isSuccess = true ∧ r.json?.bind Page.ofJson? = some page ∧
        List.Forall₂ (ReadFrom none) page.resources shown ∧
        match page.nextToken? with
          | none => docs = shown ∧ s' = s₁
          | some next => ∃ rest, f.pagesFrom db pages (some next) s₁ = .ok rest s' ∧
            docs = shown ++ rest := by
  simp only [← mapM_toDocument_eq_ok_iff]
  constructor
  · intro h
    obtain ⟨r, s₁, hsend, hpage⟩ := bind_eq_ok_iff.1 h
    split at hpage
    · cases hpage
    · rename_i hsuccess
      obtain ⟨page, s₂, hread, hdocs⟩ := bind_eq_ok_iff.1 hpage
      obtain ⟨hbody, rfl⟩ := Response.read_eq_ok_iff.1 hread
      obtain ⟨shown, s₃, hshown, hnext⟩ := bind_eq_ok_iff.1 hdocs
      obtain ⟨hmap, rfl⟩ := Engine.orThrow_eq_ok_iff.1 hshown
      refine ⟨r, s₃, page, shown, hsend, by simpa using hsuccess, hbody, hmap, ?_⟩
      cases htoken : page.nextToken? with
      | none =>
        rw [htoken] at hnext
        cases hnext
        exact ⟨rfl, rfl⟩
      | some next =>
        rw [htoken] at hnext
        obtain ⟨rest, s₄, hrest, hdone⟩ := bind_eq_ok_iff.1 hnext
        cases hdone
        exact ⟨rest, hrest, rfl⟩
  · rintro ⟨r, s₁, page, shown, hsend, hsuccess, hbody, hmap, hnext⟩
    refine bind_eq_ok_iff.2 ⟨r, s₁, hsend, ?_⟩
    rw [if_neg (by simp [hsuccess])]
    refine bind_eq_ok_iff.2 ⟨page, s₁, Response.read_eq_ok_iff.2 ⟨hbody, rfl⟩,
      bind_eq_ok_iff.2 ⟨shown, s₁, Engine.orThrow_eq_ok_iff.2 ⟨hmap, rfl⟩, ?_⟩⟩
    cases htoken : page.nextToken? with
    | none =>
      rw [htoken] at hnext
      obtain ⟨rfl, rfl⟩ := hnext
      rfl
    | some next =>
      rw [htoken] at hnext
      obtain ⟨rest, hrest, rfl⟩ := hnext
      exact bind_eq_ok_iff.2 ⟨rest, s', hrest, rfl⟩

theorem pagesFrom_eq_ok_iff {pages : Nat} {token : Option String} {docs : List Document} :
    f.pagesFrom db pages token s = .ok docs s' ↔
      ∃ rs, Lists f db pages token s rs s' ∧ List.Forall₂ (ReadFrom none) rs docs := by
  induction pages generalizing token s docs with
  | zero =>
    constructor
    · intro h
      cases h
    · rintro ⟨rs, hlists, -⟩
      cases hlists
  | succ pages ih =>
    rw [pagesFrom_succ_eq_ok_iff]
    constructor
    · rintro ⟨r, s₁, page, shown, hsend, hsuccess, hbody, hshown, hnext⟩
      cases htoken : page.nextToken? with
      | none =>
        rw [htoken] at hnext
        obtain ⟨rfl, rfl⟩ := hnext
        exact ⟨_, .last hsend hsuccess hbody htoken, hshown⟩
      | some next =>
        rw [htoken] at hnext
        obtain ⟨rest, hrest, rfl⟩ := hnext
        obtain ⟨rs, hlists, hread⟩ := ih.1 hrest
        exact ⟨_, .more hsend hsuccess hbody htoken hlists, List.rel_append hshown hread⟩
    · rintro ⟨rs, hlists, hread⟩
      cases hlists with
      | @last _ _ _ _ r page hsend hsuccess hbody hends =>
        refine ⟨r, s', page, docs, hsend, hsuccess, hbody, hread, ?_⟩
        rw [hends]
        exact ⟨rfl, rfl⟩
      | @more _ _ _ s₁ _ r page next rest hsend hsuccess hbody hgoes hothers =>
        have hshown := List.forall₂_take page.resources.length hread
        have hrest := List.forall₂_drop page.resources.length hread
        rw [List.take_left] at hshown
        rw [List.drop_left] at hrest
        refine ⟨r, s₁, page, _, hsend, hsuccess, hbody, hshown, ?_⟩
        rw [hgoes]
        exact ⟨_, ih.2 ⟨rest, hothers, hrest⟩, (List.take_append_drop ..).symm⟩

theorem listAll_eq_ok_iff {docs : List Document} :
    f.listAll db s = .ok docs s' ↔
      ∃ rs, Lists f db (f.client.network.horizon s) none s rs s' ∧
        List.Forall₂ (ReadFrom none) rs docs :=
  pagesFrom_eq_ok_iff

section Searches

variable {selector : Selector} {fields : Option (List String)} {limit : Nat} {docs : List Document}

theorem query_eq_ok_iff :
    f.query db selector fields limit s = .ok docs s' ↔
      ∃ rs, Queries f db selector fields limit s rs s' ∧
        List.Forall₂ (ReadFrom fields) rs docs := by
  have hcut : ∀ (whole : List Document) (t : ν),
      (match fields with
        | none | some [] => pure whole
        | some names => pure (whole.map fun doc => doc.project names) :
        Action ν (List Document)) t =
      .ok (whole.map (returned fields)) t := by
    intro whole t
    rw [← cutTo_eq_map]
    rcases fields with _ | _ | ⟨name, names⟩ <;> rfl
  constructor
  · intro h
    obtain ⟨r, s₁, hsend, hanswer⟩ := bind_eq_ok_iff.1 h
    split at hanswer
    · cases hanswer
    · rename_i hsuccess
      obtain ⟨items, s₂, hread, hdocs⟩ := bind_eq_ok_iff.1 hanswer
      obtain ⟨hitems, rfl⟩ := Response.read_eq_ok_iff.1 hread
      obtain ⟨whole, s₃, hthrow, hwhole⟩ := bind_eq_ok_iff.1 hdocs
      obtain ⟨hmap, rfl⟩ := Engine.orThrow_eq_ok_iff.1 hthrow
      obtain ⟨rfl, rfl⟩ := EStateM.Result.ok.inj ((hcut whole s₃).symm.trans hwhole)
      exact ⟨_, ⟨r, items, hsend, by simpa using hsuccess, hitems, rfl⟩,
        forall₂_readFrom_map (mapM_toDocument_eq_ok_iff.1 hmap) fields⟩
  · rintro ⟨rs, ⟨r, items, hsend, hsuccess, hitems, rfl⟩, hread⟩
    obtain ⟨whole, hmap, rfl⟩ := exists_whole hread
    refine bind_eq_ok_iff.2 ⟨r, s', hsend, ?_⟩
    rw [if_neg (by simp [hsuccess])]
    exact bind_eq_ok_iff.2 ⟨items, s', Response.read_eq_ok_iff.2 ⟨hitems, rfl⟩, bind_eq_ok_iff.2
      ⟨whole, s', Engine.orThrow_eq_ok_iff.2 ⟨mapM_toDocument_eq_ok_iff.2 hmap, rfl⟩,
        hcut whole s'⟩⟩

theorem select_eq_map (selector : Selector) (fields : Option (List String)) (limit : Nat)
    (docs : List Document) :
    selector.select fields limit docs =
      ((docs.filter selector.accepts).take limit).map (returned fields) := by
  rw [← cutTo_eq_map]
  rcases fields with _ | _ | ⟨name, names⟩ <;> rfl

/-- What is picked from the documents on all pages was read from the resources picked. -/
theorem readFrom_select {rs : List Resource} {whole : List Document}
    (h : List.Forall₂ (ReadFrom none) rs whole) (selector : Selector)
    (fields : Option (List String)) (limit : Nat) :
    List.Forall₂ (ReadFrom fields) ((rs.filter (accepted selector)).take limit)
      (selector.select fields limit whole) := by
  rw [select_eq_map]
  refine forall₂_readFrom_map (List.forall₂_take _ (List.rel_filter ?_ h)) fields
  intro res doc hread
  simp only [accepted, readFrom_none_iff.1 hread]

theorem find_eq_ok_iff :
    f.find db selector fields limit s = .ok docs s' ↔ selector.validate = .ok () ∧
      ∃ rs, Finds f db selector fields limit s rs s' ∧ List.Forall₂ (ReadFrom fields) rs docs := by
  constructor
  · intro h
    obtain ⟨_, s₁, hthrow, hfind⟩ := bind_eq_ok_iff.1 h
    obtain ⟨hvalid, rfl⟩ := Engine.orThrow_eq_ok_iff.1 hthrow
    refine ⟨hvalid, ?_⟩
    unfold Engine.fallback at hfind
    cases hquery : f.query db selector fields limit s₁ with
    | ok found s₂ =>
      rw [hquery] at hfind
      cases hfind
      obtain ⟨rs, hqueries, hread⟩ := query_eq_ok_iff.1 hquery
      exact ⟨rs, .answered hqueries, hread⟩
    | error e s₂ =>
      rw [hquery] at hfind
      obtain ⟨whole, s₃, hlist, hselect⟩ := bind_eq_ok_iff.1 hfind
      cases hselect
      obtain ⟨rs, hlists, hread⟩ := listAll_eq_ok_iff.1 hlist
      exact ⟨_, .listed hquery hlists (readable_of_readFrom hread),
        readFrom_select hread selector fields limit⟩
  · rintro ⟨hvalid, rs, hfinds, hread⟩
    refine bind_eq_ok_iff.2 ⟨(), s, Engine.orThrow_eq_ok_iff.2 ⟨hvalid, rfl⟩, ?_⟩
    unfold Engine.fallback
    cases hfinds with
    | answered hqueries => rw [query_eq_ok_iff.2 ⟨rs, hqueries, hread⟩]
    | @listed e s₁ _ rs hfails hlists hreadable =>
      obtain ⟨whole, hwhole⟩ := exists_readFrom hreadable
      rw [hfails]
      refine bind_eq_ok_iff.2 ⟨whole, s', listAll_eq_ok_iff.2 ⟨rs, hlists, hwhole⟩, ?_⟩
      rw [readFrom_unique hread (readFrom_select hwhole selector fields limit)]
      rfl

end Searches

end Firestore

end Keyspace
