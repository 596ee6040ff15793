import Keyspace.Proofs.Service.Reads
import Keyspace.Proofs.Service.ResourceIds
import Keyspace.Proofs.TypedValue.Types

set_option autoImplicit false

namespace Keyspace.Service

open Firestore (Fetches ReadFrom Resource)
open Http (Exchange Shared)
open TypedValue (Decodes NoWholeDouble Plain SameTypes typed)

variable {ν : Type} {n : Http.Network ν} {others : List (Exchange ν) → ν → ν}
  {f : Firestore (Shared ν)}

def ownFields : List String := Document.idField :: Record.bookkeeping

/-- The read of a resource is written under an id. Of the other fields, just those without a double
spelled as an integer keep the types of everything in them. -/
def WritesBack (f : Firestore (Shared ν)) (id : String) (res : Resource) (x : Exchange ν) : Prop :=
  ∃ sent : SortedMap Json,
    x.request = f.client.request .patch (f.documentUrl database id)
      (some (.obj [("fields", .obj sent.entries)])) ∧
    ∀ name w, res.fields.get? name = some w → name ∉ ownFields → Plain w →
      ∃ w', sent.get? name = some w' ∧ (SameTypes w' w ↔ NoWholeDouble w)

theorem decodes_of_toDocument {res : Resource} {doc : Document} (h : res.toDocument = .ok doc)
    {name : String} (hname : name ≠ Document.idField) :
    Option.Rel Decodes (res.fields.get? name) (doc.get? name) := by
  unfold Resource.toDocument at h
  split at h
  · rename_i fields hfields
    cases h
    rw [SortedMap.get?_insert, if_neg hname]
    exact TypedValue.rel_lookup (TypedValue.decodeFields_eq_ok_iff.1 hfields) name
  · cases h

theorem writesBack {res : Resource} {doc counted : Document} {agent id : String} {now : Instant}
    (hdoc : res.toDocument = .ok doc) (hcount : Record.countRead doc agent now = some counted)
    {x : Exchange ν} (hx : x.request = f.client.request .patch (f.documentUrl database id)
      (some (Firestore.outgoing counted))) : WritesBack f id res x := by
  refine ⟨_, hx, fun name w hw hname hplain => ?_⟩
  obtain ⟨hid, hrev, hcounts⟩ : name ≠ Document.idField ∧ name ≠ Document.revField ∧
      name ∉ [Record.accessCountField, Record.lastAccessedAtField, Record.lastAccessedByField] := by
    simpa [ownFields, Record.bookkeeping] using hname
  have hdecodes := decodes_of_toDocument hdoc hid
  rw [hw] at hdecodes
  cases hv : doc.get? name with
  | none =>
    rw [hv] at hdecodes
    cases hdecodes
  | some v =>
    rw [hv] at hdecodes
    cases hdecodes with
    | some h =>
      refine ⟨TypedValue.encode v, ?_, TypedValue.sameTypes_encode_iff h hplain⟩
      rw [TypedValue.encodeFields, SortedMap.get?_map, SortedMap.get?_erase, if_neg hrev,
        SortedMap.get?_erase, if_neg hid, Record.get?_countRead_of_ne hcount hcounts, hv]
      rfl

theorem sendable_of_fetches {id : String} {res : Resource} {s s' : Shared ν}
    (h : Fetches f database id s res s') : sendable f id = true := by
  obtain ⟨r, hsend, -⟩ := h
  rw [Firestore.send, Http.Client.send_eq] at hsend
  rw [sendable]
  cases hrefusal : f.client.refusal? (f.documentUrl database id).bared with
  | none => rfl
  | some reason =>
    rw [hrefusal] at hsend
    cases hsend

theorem exists_writesBack (hc : f.client.network = n.shared others) {now : Instant}
    {user space key agent : String} {s : State (Shared ν)} {store : Shared ν} {res : Resource}
    {doc counted : Document} (hfetch : Fetches f database (docId user space key) s.store res store)
    (hdoc : res.toDocument = .ok doc) (hcount : Record.countRead doc agent now = some counted) :
    ∃ x, (finalState (get (Engine.firestore f) now user space key (some agent) s)).store.exchanges =
        store.exchanges ++ [x] ∧ WritesBack f (docId user space key) res x := by
  have hget : (Engine.firestore f).get database (docId user space key) s.store = .ok doc store :=
    Firestore.get_eq_ok_iff.2 ⟨res, hfetch, Firestore.readFrom_none_iff.2 hdoc⟩
  obtain ⟨es, hlog, hrequests⟩ := exchanges_save hc (docId user space key) counted store
  rw [if_pos (sendable_of_fetches hfetch)] at hrequests
  obtain ⟨x, rfl, hx⟩ := List.map_eq_singleton_iff.1 hrequests
  exact ⟨x, by rw [store_get_counted hget hcount]; exact hlog, writesBack hdoc hcount hx⟩

theorem store_getAll_counted {σ : Type} {engine : Engine σ} {now : Instant}
    {user space agent : String} {docs : List Document} {counted : List (String × Document)}
    {s s' : State σ} {store : σ}
    (hfind : engine.find database (spaceSelector user space) none findLimit s.store =
      .ok docs store)
    (hcounted : countReads user space agent now docs = some counted)
    (hwrite : writeBack engine now counted { s with store := store } = .ok () s') :
    finalState (getAll engine now user space (some agent) s) = s' := by
  simp only [getAll, onStore, hfind, bind_apply, hcounted, hwrite]
  rfl

theorem forall₂_trans {α β γ : Type} {R : α → β → Prop} {S : β → γ → Prop} {T : α → γ → Prop}
    (h : ∀ a b c, R a b → S b c → T a c) {as : List α} {bs : List β} {cs : List γ}
    (hab : List.Forall₂ R as bs) (hbc : List.Forall₂ S bs cs) : List.Forall₂ T as cs := by
  induction hab generalizing cs with
  | nil =>
    cases hbc
    exact .nil
  | cons hr _ ih =>
    cases hbc with
    | cons hs hrest => exact .cons (h _ _ _ hr hs) (ih hrest)

/-- Encoding what was read of a value of the plain types keeps the type of everything in it exactly
when no double in it is spelled as an integer. So it is with the fields of a document whose read is
counted, be it looked up or one of those of a namespace. -/
theorem keepsTypes_iff (f : Firestore ν) (others : List (Exchange ν) → ν → ν) :
    (∀ w v, TypedValue.decode w = .ok v → Plain w →
      (SameTypes (TypedValue.encode v) w ↔ NoWholeDouble w)) ∧
    (∀ now user space key agent s res store doc counted,
      Fetches (f.shared others) database (docId user space key) s.store res store →
      res.toDocument = .ok doc → Record.countRead doc agent now = some counted →
      ∃ x, (finalState (get (Engine.firestore (f.shared others)) now user space key (some agent)
            s)).store.exchanges = store.exchanges ++ [x] ∧
        WritesBack (f.shared others) (docId user space key) res x) ∧
    ∀ now user space agent s rs store docs counted,
      Firestore.Finds (f.shared others) database (spaceSelector user space) none findLimit
        s.store rs store →
      List.Forall₂ (ReadFrom none) rs docs → countReads user space agent now docs = some counted →
      ∃ es, (finalState (getAll (Engine.firestore (f.shared others)) now user space (some agent)
            s)).store.exchanges = store.exchanges ++ es ∧
        List.Forall₂ (fun res x => WritesBack (f.shared others) res.id res x)
          (rs.filter fun res => sendable (f.shared others) res.id) es := by
  refine ⟨fun w v => TypedValue.sameTypes_encode_iff, ?_, ?_⟩
  · intro now user space key agent s res store doc counted hfetch hdoc hcount
    exact exists_writesBack (Firestore.network_shared f others) hfetch hdoc hcount
  · intro now user space agent s rs store docs counted hfinds hread hcounted
    have hfind := Firestore.find_eq_ok_iff.2
      ⟨validate_spaceSelector user space, rs, hfinds, hread⟩
    obtain ⟨s', es, hrun, hlog, hsent⟩ :=
      writeBack_sent (Firestore.network_shared f others) now counted { s with store := store }
    refine ⟨es, by rw [store_getAll_counted hfind hcounted hrun, hlog], ?_⟩
    have hids : ∀ res e, CountedFrom agent now res e →
        (sendable (f.shared others) res.id = true ↔ sendable (f.shared others) e.1 = true) :=
      fun res e he => by rw [he.1]
    refine forall₂_trans (fun res e x he hx => ?_)
      (List.rel_filter hids (forall₂_countReads hread hcounted)) hsent
    obtain ⟨hid, doc, hdoc, hcount⟩ := he
    exact writesBack hdoc hcount (hid ▸ hx)

def spelling (w : Json) : State (Shared Firestore.Shelf) :=
  start ⟨⟨SortedMap.ofList [(database, SortedMap.ofList [(docId "u" "n" "k",
    (TypedValue.encodeFields (SortedMap.ofList [(Record.userField, .str "u"),
      (Record.spaceField, .str "n"), (Record.keyField, .str "k")])).insert Record.valueField w)])],
    0⟩, []⟩

def served : Json :=
  typed .array (.obj [("values", .arr [typed .integer (.num (.natural 7)),
    typed .null (.str "NULL_VALUE"), typed .double (.num (.natural 9223372036854775808)),
    typed .array (.obj [])])])

theorem plain_served : Plain served := by
  refine TypedValue.throughout_array rfl ⟨_, _, rfl, by decide, nofun⟩ ?_
  simp only [List.forall_mem_cons]
  refine ⟨?_, ?_, ?_, ?_, nofun⟩
  · exact TypedValue.throughout_scalar nofun nofun ⟨_, _, rfl, by decide, nofun⟩
  · exact TypedValue.throughout_scalar nofun nofun ⟨_, _, rfl, by decide, nofun⟩
  · exact TypedValue.throughout_scalar nofun nofun ⟨_, _, rfl, by decide, fun _ => ⟨_, rfl⟩⟩
  · exact TypedValue.throughout_array rfl ⟨_, _, rfl, by decide, nofun⟩ nofun

theorem noWholeDouble_served : NoWholeDouble served := by
  refine TypedValue.throughout_array rfl (by simp [TypedValue.isWholeDouble_typed_iff]) ?_
  simp only [List.forall_mem_cons]
  refine ⟨?_, ?_, ?_, ?_, nofun⟩
  · exact TypedValue.throughout_scalar nofun nofun (by simp [TypedValue.isWholeDouble_typed_iff])
  · exact TypedValue.throughout_scalar nofun nofun (by simp [TypedValue.isWholeDouble_typed_iff])
  · refine TypedValue.throughout_scalar nofun nofun ?_
    simp [TypedValue.isWholeDouble_typed_iff, Json.Number.int64?]
  · exact TypedValue.throughout_array rfl (by simp [TypedValue.isWholeDouble_typed_iff]) nofun

def trackedOne (w : Json) :
    EStateM.Result Failure (State (Shared Firestore.Shelf)) (Option Record) :=
  get (Engine.firestore loggedShelf) Instant.epoch "u" "n" "k" (some "a") (spelling w)

def trackedWithin (w : Json) :
    EStateM.Result Failure (State (Shared Firestore.Shelf)) (SortedMap Json) :=
  getAll (Engine.firestore loggedShelf) Instant.epoch "u" "n" (some "a") (spelling w)

def valueSent {α : Type} (r : EStateM.Result Failure (State (Shared Firestore.Shelf)) α) :
    Option Json :=
  (finalState r).store.exchanges[1]?.bind fun x =>
    ((x.request.body.bind fun body => body.member? "fields").bind fun fields =>
      fields.member? Record.valueField)

theorem keepsTypes_served :
    (∃ v, TypedValue.decode served = .ok v ∧ TypedValue.encode v ≠ served ∧
      SameTypes (TypedValue.encode v) served) ∧
    (∃ res store x,
      Fetches loggedShelf database (docId "u" "n" "k") (spelling served).store res store ∧
      (finalState (trackedOne served)).store.exchanges = store.exchanges ++ [x] ∧
      WritesBack loggedShelf (docId "u" "n" "k") res x) ∧
    (∃ rs store es,
      Firestore.Finds loggedShelf database (spaceSelector "u" "n") none findLimit
        (spelling served).store rs store ∧
      (finalState (trackedWithin served)).store.exchanges = store.exchanges ++ es ∧
      List.Forall₂ (fun res x => WritesBack loggedShelf res.id res x)
        (rs.filter fun res => sendable loggedShelf res.id) es) := by
  have hkeeps := keepsTypes_iff Firestore.Shelf.connected fun _ s => s
  refine ⟨?_, ?_, ?_⟩
  · exact ⟨.arr [.num (.natural 7), .null, .num (.natural 9223372036854775808), .arr []],
      by decide +kernel, by decide +kernel,
      (hkeeps.1 _ _ (by decide +kernel) plain_served).2 noWholeDouble_served⟩
  · have hgot : (answer? (loggedShelf.get database (docId "u" "n" "k") (spelling served).store)).any
        (fun doc => (Record.countRead doc "a" Instant.epoch).isSome) = true := by decide +kernel
    obtain ⟨doc, hdoc, hcount⟩ := (Option.any_eq_true _ _).1 hgot
    obtain ⟨counted, hcounted⟩ := Option.isSome_iff_exists.1 hcount
    obtain ⟨res, hfetch, hread⟩ := Firestore.get_eq_ok_iff.1 (eq_ok_of_answer? hdoc)
    obtain ⟨x, hlog, hback⟩ := hkeeps.2.1 Instant.epoch "u" "n" "k" "a" (spelling served) res _ doc
      counted hfetch (Firestore.readFrom_none_iff.1 hread) hcounted
    unfold trackedOne
    exact ⟨res, _, x, hfetch, by rw [hlog], hback⟩
  · have hok : (answer? (trackedWithin served)).isSome = true := by decide +kernel
    obtain ⟨values, hvalues⟩ := Option.isSome_iff_exists.1 hok
    have hrun := eq_ok_of_answer? hvalues
    unfold trackedWithin at hrun ⊢
    obtain ⟨docs, store, counted, hfind, hcounted, -⟩ := getAll_tagged_ok hrun
    obtain ⟨-, rs, hfinds, hread⟩ := Firestore.find_eq_ok_iff.1 hfind
    obtain ⟨es, hlog, hsent⟩ := hkeeps.2.2 Instant.epoch "u" "n" "a" (spelling served) rs store docs
      counted hfinds hread hcounted
    exact ⟨rs, store, es, hfinds, by rw [hlog], hsent⟩

/-- A double that is spelled as an integer is written back as an integer. -/
theorem not_keepsTypes_whole :
    let w := typed .double (.num (.natural 3))
    Plain w ∧ TypedValue.decode w = .ok (.num (.natural 3)) ∧
      ¬ SameTypes (TypedValue.encode (.num (.natural 3))) w ∧
      valueSent (trackedOne w) = some (typed .integer (.str "3")) ∧
      valueSent (trackedWithin w) = some (typed .integer (.str "3")) := by
  refine ⟨?_, by decide +kernel, ?_, by decide +kernel, by decide +kernel⟩
  · exact TypedValue.throughout_scalar nofun nofun ⟨_, _, rfl, by decide, fun _ => ⟨_, rfl⟩⟩
  · intro hsame
    have hroot := hsame []
    revert hroot
    decide +kernel

end Keyspace.Service
