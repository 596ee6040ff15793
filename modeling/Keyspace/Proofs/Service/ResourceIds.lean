import Keyspace.Proofs.Engine.Firestore.Absence
import Keyspace.Proofs.Engine.Firestore.Resources
import Keyspace.Proofs.Engine.Firestore.Shelf
import Keyspace.Proofs.Service.Calls
import Keyspace.Proofs.Service.Lockstep
import Keyspace.Proofs.Service.Selector

set_option autoImplicit false

namespace Keyspace.Service

open Firestore (Fetches Lists ReadFrom Resource)
open Http (Exchange Shared)

variable {σ ν : Type} {n : Http.Network ν} {others : List (Exchange ν) → ν → ν}

/-- A document that is returned was read from a resource, and if that is the resource of a key, the
document has the key's id exactly when neither the user nor the namespace has a slash. -/
def ComesBack (db : String) (fields : Option (List String)) (res : Resource) (doc : Document) :
    Prop :=
  ReadFrom fields res doc ∧
    ∀ user space key, res.NamedFor db (docId user space key) →
      (doc.get? Document.idField = some (.str (docId user space key)) ↔
        '/' ∉ user.toList ∧ '/' ∉ space.toList)

/-- The read of a document is written under an id, and if the document's resource is that of a key,
this is the key's id exactly when neither the user nor the namespace has a slash. -/
def TrackedAt (f : Firestore (Shared ν)) (res : Resource) (x : Exchange ν) : Prop :=
  ∃ id body, x.request = f.client.request .patch (f.documentUrl database id) (some body) ∧
    ∀ user space key, res.NamedFor database (docId user space key) →
      (id = docId user space key ↔ '/' ∉ user.toList ∧ '/' ∉ space.toList)

theorem id_eq_docId_iff {res : Resource} {db user space key : String}
    (h : res.NamedFor db (docId user space key)) :
    res.id = docId user space key ↔ '/' ∉ user.toList ∧ '/' ∉ space.toList :=
  (Resource.id_eq_iff h).trans slash_notMem_docId_iff

theorem comesBack_iff_readFrom {db : String} {fields : Option (List String)} {res : Resource}
    {doc : Document} : ComesBack db fields res doc ↔ ReadFrom fields res doc := by
  refine ⟨fun h => h.1, fun h => ⟨h, fun user space key hname => ?_⟩⟩
  rw [h.get?_id, Option.some.injEq, Json.str.injEq]
  exact id_eq_docId_iff hname

def sendable (f : Firestore ν) (id : String) : Bool :=
  (f.client.refusal? (f.documentUrl database id).bared).isNone

variable {f : Firestore (Shared ν)}

theorem exchanges_save (hc : f.client.network = n.shared others) (id : String) (doc : Document)
    (s : Shared ν) :
    ∃ es, (finalState (f.save database id doc s)).exchanges = s.exchanges ++ es ∧
      es.map (·.request) = if sendable f id then
        [f.client.request .patch (f.documentUrl database id) (some (Firestore.outgoing doc))]
        else [] := by
  have hstate : finalState (f.save database id doc s) =
      finalState (f.send .patch (f.documentUrl database id) (some (Firestore.outgoing doc)) s) := by
    simp only [Firestore.save, bind_apply]
    cases f.send .patch (f.documentUrl database id) (some (Firestore.outgoing doc)) s with
    | error e s' => rfl
    | ok r s' =>
      dsimp only
      split
      · unfold Http.Response.read
        cases r.json?.bind Resource.ofJson? <;> rfl
      · rfl
  rw [hstate, Firestore.send, Http.Client.send_eq, hc, sendable]
  cases f.client.refusal? (f.documentUrl database id).bared with
  | some reason => exact ⟨[], by simp [finalState], rfl⟩
  | none =>
    rw [Shared.exchange_shared]
    dsimp only
    cases (s.next n others _).reply <;> exact ⟨[_], rfl, rfl⟩

/-- Every document that can be sent is written back under its id, in order. -/
theorem writeBack_sent (hc : f.client.network = n.shared others) (now : Instant)
    (counted : List (String × Document)) (s : State (Shared ν)) :
    ∃ s' es, writeBack (Engine.firestore f) now counted s = .ok () s' ∧
      s'.store.exchanges = s.store.exchanges ++ es ∧
      List.Forall₂ (fun e x => x.request = f.client.request .patch (f.documentUrl database e.1)
          (some (Firestore.outgoing e.2)))
        (counted.filter fun e => sendable f e.1) es := by
  induction counted generalizing s with
  | nil => exact ⟨s, [], rfl, by simp, .nil⟩
  | cons e rest ih =>
    obtain ⟨r, hsave⟩ := exists_attempt ((Engine.firestore f).save now database e.1 e.2) s
    obtain ⟨es, hlog, hrequests⟩ := exchanges_save hc e.1 e.2 s.store
    obtain ⟨s', es', hrun, hlog', hsent⟩ :=
      ih { s with store := finalState (f.save database e.1 e.2 s.store) }
    refine ⟨s', es ++ es', (writeBack_cons hsave rest).trans hrun, ?_, ?_⟩
    · rw [hlog', hlog, List.append_assoc]
    · rw [List.filter_cons]
      split at hrequests
      · rename_i hsend
        obtain ⟨x, rfl, hx⟩ := List.map_eq_singleton_iff.1 hrequests
        rw [if_pos hsend]
        exact .cons hx hsent
      · rename_i hsend
        rw [List.map_eq_nil_iff.1 hrequests, if_neg hsend]
        exact hsent

theorem writeBack_tracked (hc : f.client.network = n.shared others) (now : Instant)
    (counted : List (String × Document)) (s : State (Shared ν)) :
    ∃ s' es, writeBack (Engine.firestore f) now counted s = .ok () s' ∧
      s'.store.exchanges = s.store.exchanges ++ es ∧
      List.Forall₂ (fun id x => ∃ body,
        x.request = f.client.request .patch (f.documentUrl database id) (some body))
        ((counted.map (·.1)).filter (sendable f)) es := by
  obtain ⟨s', es, hrun, hlog, hsent⟩ := writeBack_sent hc now counted s
  refine ⟨s', es, hrun, hlog, ?_⟩
  rw [List.filter_map, List.forall₂_map_left_iff]
  exact hsent.imp fun _ _ hx => ⟨_, hx⟩

def CountedFrom (agent : String) (now : Instant) (res : Resource) (e : String × Document) : Prop :=
  e.1 = res.id ∧
    ∃ doc, res.toDocument = .ok doc ∧ Record.countRead doc agent now = some e.2

theorem forall₂_countReads {rs : List Resource} {docs : List Document}
    {counted : List (String × Document)} {user space agent : String} {now : Instant}
    (h : List.Forall₂ (ReadFrom none) rs docs)
    (hcounted : countReads user space agent now docs = some counted) :
    List.Forall₂ (CountedFrom agent now) rs counted := by
  induction h generalizing counted with
  | nil =>
    cases hcounted
    exact .nil
  | @cons res doc rs docs hread _ ih =>
    rw [countReads_cons, Option.bind_eq_some_iff] at hcounted
    obtain ⟨c, hcount, hrest⟩ := hcounted
    obtain ⟨cs, hcs, rfl⟩ := Option.map_eq_some_iff.1 hrest
    refine .cons ⟨?_, doc, Firestore.readFrom_none_iff.1 hread, hcount⟩ (ih hcs)
    rw [text?_eq_some_iff.2 hread.get?_id]
    rfl

theorem ids_of_countReads {rs : List Resource} {docs : List Document}
    {counted : List (String × Document)} {user space agent : String} {now : Instant}
    (h : List.Forall₂ (ReadFrom none) rs docs)
    (hcounted : countReads user space agent now docs = some counted) :
    counted.map (·.1) = rs.map Resource.id := by
  rw [← List.forall₂_eq_eq_eq, List.forall₂_map_left_iff, List.forall₂_map_right_iff]
  exact ((forall₂_countReads h hcounted).imp fun _ _ he => he.1).flip

theorem getAll_tagged_ok {engine : Engine σ} {now : Instant} {user space agent : String}
    {values : SortedMap Json} {s s' : State σ}
    (h : getAll engine now user space (some agent) s = .ok values s') :
    ∃ docs store counted, engine.find database (spaceSelector user space) none findLimit s.store =
        .ok docs store ∧ countReads user space agent now docs = some counted ∧
      writeBack engine now counted { s with store := store } = .ok () s' := by
  obtain ⟨docs, s₁, hfind, htrack⟩ := bind_eq_ok_iff.1 h
  cases hcounted : countReads user space agent now docs with
  | none =>
    simp only [hcounted] at htrack
    cases htrack
  | some counted =>
    simp only [hcounted] at htrack
    obtain ⟨_, s₂, hwrite, hdone⟩ := bind_eq_ok_iff.1 htrack
    cases hdone
    obtain ⟨store, hfound, rfl⟩ := onStore_eq_ok_iff.1 hfind
    exact ⟨docs, store, counted, hfound, hcounted, hwrite⟩

/-- Look-ups, listings and searches return the documents of the resources that they are answered
with, each under its key's id exactly when neither the user nor the namespace has a slash; and just
then the read of it is counted on itself. -/
theorem returned_under_id_iff (f : Firestore ν) (others : List (Exchange ν) → ν → ν) :
    (∀ db id doc s s', f.get db id s = .ok doc s' ↔
      ∃ res, Fetches f db id s res s' ∧ ComesBack db none res doc) ∧
    (∀ db docs s s', f.listAll db s = .ok docs s' ↔
      ∃ rs, Lists f db (f.client.network.horizon s) none s rs s' ∧
        List.Forall₂ (ComesBack db none) rs docs) ∧
    (∀ db selector fields limit docs s s', f.find db selector fields limit s = .ok docs s' ↔
      selector.validate = .ok () ∧ ∃ rs, Firestore.Finds f db selector fields limit s rs s' ∧
        List.Forall₂ (ComesBack db fields) rs docs) ∧
    ∀ now user space agent values s s',
      getAll (Engine.firestore (f.shared others)) now user space (some agent) s = .ok values s' →
      ∃ docs rs store es,
        (f.shared others).find database (spaceSelector user space) none findLimit s.store =
          .ok docs store ∧
        Firestore.Finds (f.shared others) database (spaceSelector user space) none findLimit
          s.store rs store ∧
        List.Forall₂ (ComesBack database none) rs docs ∧
        s'.store.exchanges = store.exchanges ++ es ∧
        List.Forall₂ (TrackedAt (f.shared others))
          (rs.filter fun res => sendable (f.shared others) res.id) es := by
  have hback : ∀ db fields, ComesBack db fields = ReadFrom fields := fun db fields =>
    funext fun res => funext fun doc => propext comesBack_iff_readFrom
  simp only [hback]
  refine ⟨fun _ _ _ _ _ => Firestore.get_eq_ok_iff, fun _ _ _ _ => Firestore.listAll_eq_ok_iff,
    fun _ _ _ _ _ _ _ => Firestore.find_eq_ok_iff, ?_⟩
  intro now user space agent values s s' h
  obtain ⟨docs, store, counted, hfind, hcounted, hwrite⟩ := getAll_tagged_ok h
  obtain ⟨-, rs, hfinds, hread⟩ := Firestore.find_eq_ok_iff.1 hfind
  obtain ⟨s₁, es, hrun, hlog, htracked⟩ :=
    writeBack_tracked (Firestore.network_shared f others) now counted { s with store := store }
  rw [hwrite] at hrun
  cases hrun
  refine ⟨docs, rs, store, es, hfind, hfinds, hread, hlog, ?_⟩
  rw [ids_of_countReads hread hcounted, List.filter_map, List.forall₂_map_left_iff] at htracked
  refine htracked.imp fun res x htrack => ?_
  obtain ⟨body, hrequest⟩ := htrack
  exact ⟨res.id, body, hrequest, fun _ _ _ hname => id_eq_docId_iff hname⟩

def holdingKey (space : String) : Firestore.Shelf :=
  ⟨SortedMap.ofList [(database, SortedMap.ofList [(docId "u" space "k",
    TypedValue.encodeFields (SortedMap.ofList [(Record.userField, .str "u"),
      (Record.spaceField, .str space), (Record.keyField, .str "k"),
      (Record.valueField, .bool true)]))])], 0⟩

abbrev loggedShelf : Firestore (Shared Firestore.Shelf) :=
  Firestore.Shelf.connected.shared fun _ s => s

def unread (space : String) : State (Shared Firestore.Shelf) := start ⟨holdingKey space, []⟩

def trackedAll (space : String) :
    EStateM.Result Failure (State (Shared Firestore.Shelf)) (SortedMap Json) :=
  getAll (Engine.firestore loggedShelf) Instant.epoch "u" space (some "a") (unread space)

theorem returned_under_id_holdingKey :
    (∃ docs rs store es,
      loggedShelf.find database (spaceSelector "u" "n") none findLimit (unread "n").store =
        .ok docs store ∧
      Firestore.Finds loggedShelf database (spaceSelector "u" "n") none findLimit
        (unread "n").store rs store ∧
      List.Forall₂ (ComesBack database none) rs docs ∧
      (finalState (trackedAll "n")).store.exchanges = store.exchanges ++ es ∧
      List.Forall₂ (TrackedAt loggedShelf)
        (rs.filter fun res => sendable loggedShelf res.id) es) ∧
    (finalState (trackedAll "n")).store.exchanges.map
        (fun x => (x.request.method, x.request.url)) =
      [(.post, Firestore.Shelf.documents.suffixed ":runQuery"),
        (.patch, loggedShelf.documentUrl database (docId "u" "n" "k"))] := by
  have hok : (answer? (trackedAll "n")).isSome = true := by decide +kernel
  obtain ⟨values, hvalues⟩ := Option.isSome_iff_exists.1 hok
  have hrun := eq_ok_of_answer? hvalues
  refine ⟨?_, by decide +kernel⟩
  unfold trackedAll at hrun ⊢
  obtain ⟨docs, rs, store, es, hfind, hfinds, hback, hlog, htracked⟩ :=
    (returned_under_id_iff Firestore.Shelf.connected fun _ s => s).2.2.2 Instant.epoch "u" "n" "a"
      values (unread "n") _ hrun
  exact ⟨docs, rs, store, es, hfind, hfinds, hback, by rw [hlog], htracked⟩

/-- The document comes back under another id, and the read is written to another document. -/
theorem not_returned_under_id_nested :
    let id := docId "u" "a/b" "k"
    (∃ res doc s', Fetches Firestore.Shelf.connected database id (holdingKey "a/b") res s' ∧
      res.NamedFor database id ∧
      Firestore.Shelf.connected.get database id (holdingKey "a/b") = .ok doc s' ∧
      doc.get? Document.idField ≠ some (.str id)) ∧
    ∃ x ∈ (finalState (trackedAll "a/b")).store.exchanges,
      x.request.method = .patch ∧ x.request.url ≠ loggedShelf.documentUrl database id := by
  intro id
  constructor
  · have hsent : (answer? (Firestore.Shelf.connected.send .get
        (Firestore.Shelf.connected.documentUrl database id) none (holdingKey "a/b"))).map
          (fun r => (r.isSuccess, (r.json?.bind Resource.ofJson?).map fun res =>
            (res.name, res.id))) =
        some (true, some ("projects/demo/databases/(default)/documents/" ++ database ++ "/" ++ id,
          "b:aw==")) := by decide +kernel
    have hgot : (answer? (Firestore.Shelf.connected.get database id (holdingKey "a/b"))).isSome =
        true := by decide +kernel
    obtain ⟨r, hr, hshape⟩ := Option.map_eq_some_iff.1 hsent
    obtain ⟨hsuccess, hres⟩ := Prod.mk.inj hshape
    obtain ⟨res, hbody, hnames⟩ := Option.map_eq_some_iff.1 hres
    obtain ⟨hname, hid⟩ := Prod.mk.inj hnames
    obtain ⟨doc, hdoc⟩ := Option.isSome_iff_exists.1 hgot
    have hget := eq_ok_of_answer? hdoc
    obtain ⟨res', ⟨r', hsend', -, hbody'⟩, hread⟩ := Firestore.get_eq_ok_iff.1 hget
    have hsend := eq_ok_of_answer? hr
    obtain ⟨rfl, -⟩ := EStateM.Result.ok.inj (hsend.symm.trans hsend')
    obtain rfl : res = res' := Option.some.inj (hbody.symm.trans hbody')
    refine ⟨res, doc, _, ⟨r, hsend', hsuccess, hbody⟩, ⟨"demo", "(default)", hname⟩, hget, ?_⟩
    rw [hread.get?_id, hid]
    decide +kernel
  · have hpatch : (finalState (trackedAll "a/b")).store.exchanges[1]?.map (fun x =>
        (x.request.method, x.request.url)) =
          some (.patch, loggedShelf.documentUrl database "b:aw==") := by decide +kernel
    obtain ⟨x, hx, hrequest⟩ := Option.map_eq_some_iff.1 hpatch
    obtain ⟨hmethod, hurl⟩ := Prod.mk.inj hrequest
    refine ⟨x, List.mem_of_getElem? hx, hmethod, ?_⟩
    rw [hurl]
    decide +kernel

end Keyspace.Service
