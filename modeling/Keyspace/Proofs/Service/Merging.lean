import Keyspace.Proofs.Engine.CouchDb.Guarded
import Keyspace.Proofs.Service.Calls
import Keyspace.Proofs.Service.Draft
import Keyspace.Proofs.Time.RoundTrip

set_option autoImplicit false

namespace Keyspace.Service

open CouchDb (Databases Guards Made WithoutWrite reported shown outgoing revisionOf)
open Http (Exchange Network Response Script Shared)

variable {σ ν : Type} {n : Network ν} {others : List (Exchange ν) → ν → ν}
  {c : CouchDb (Shared ν)} {s s' : State (CouchDb.State (Shared ν))}

theorem runs_ensureIndex_couchDb (hc : c.client.network = n.shared others) (index : Index) :
    Runs (WithoutWrite n) (fun _ => True) ((Engine.couchDb c).ensureIndex database index) :=
  (CouchDb.runs_ensureIndex hc database index).mono fun _ _ => trivial

theorem runs_draft_couchDb (hc : c.client.network = n.shared others) (now : Instant)
    (user space key : String) (value : Json) (agent : Option String) (metadata : Option Document) :
    Runs (fun s s' : State (CouchDb.State (Shared ν)) => WithoutWrite n s.store s'.store)
      (fun _ => True) (draft (Engine.couchDb c) now user space key value agent metadata) :=
  runs_draft (runs_ensureIndex_couchDb hc) (fun id => CouchDb.runs_get hc database id) now user
    space key value agent metadata

theorem lookup_made (hc : c.client.network = n.shared others) {id : String}
    {found : Option Document} (h : lookup (Engine.couchDb c) id s = .ok found s') :
    ∃ es x r, Made n s.store (es ++ [x]) s'.store ∧
      x.Answers c.client .get (c.documentUrl database id) none r ∧ found = shown r ∧
      s'.store.databases.contains database = true := by
  rcases lookup_ok h with ⟨doc, rfl, hget⟩ | ⟨rfl, e, hget, hmissing⟩
  · obtain ⟨es, x, r, hmade, hanswers, hshown, hknown⟩ := CouchDb.get_found hc hget
    exact ⟨es, x, r, hmade, hanswers, hshown.symm, hknown⟩
  · obtain ⟨es, x, r, hmade, hanswers, hgone, hknown⟩ := CouchDb.get_missing hc hget hmissing
    exact ⟨es, x, r, hmade, hanswers, by rw [shown, if_pos hgone], hknown⟩

theorem draft_made (hc : c.client.network = n.shared others) {now : Instant}
    {user space key : String} {value : Json} {agent : Option String} {metadata : Option Document}
    {record : Record}
    (h : draft (Engine.couchDb c) now user space key value agent metadata s = .ok record s') :
    ∃ es x r, Made n s.store (es ++ [x]) s'.store ∧
      x.Answers c.client .get (c.documentUrl database (docId user space key)) none r ∧
      Drafted user space key value agent metadata now (shown r) record ∧
      s'.store.databases.contains database = true := by
  obtain ⟨_, s₁, hindexed, h⟩ := bind_eq_ok_iff.1 h
  obtain ⟨found, s₂, hlookup, h⟩ := bind_eq_ok_iff.1 h
  have hrun := (runs_ensureIndexed (runs_ensureIndex_couchDb hc) user space s).1
  rw [hindexed] at hrun
  obtain ⟨es, hmade, -⟩ := hrun
  obtain ⟨es', x, r, hmade', hanswers, rfl, hknown⟩ := lookup_made hc hlookup
  have hall : Made n s.store (es ++ es' ++ [x]) s₂.store := by
    rw [List.append_assoc]
    exact hmade.trans hmade'
  cases hshown : shown r with
  | none =>
    rw [hshown] at h
    cases h
    exact ⟨es ++ es', x, r, hall, hanswers, hshown ▸ .create, hknown⟩
  | some doc =>
    rw [hshown] at h
    obtain ⟨existing, s₃, hread, h⟩ := bind_eq_ok_iff.1 h
    cases h
    obtain ⟨hexisting, rfl⟩ := readRecord_eq_ok_iff.1 hread
    exact ⟨es ++ es', x, r, hall, hanswers, hshown ▸ .update hexisting, hknown⟩

def carried (x : Exchange ν) : Option String := (x.request.body.bind Json.map?).bind revisionOf

/-- The last three exchanges of a write: the document is read, its revision is asked for, and a
record made of the document is written with that revision. -/
structure Merges (c : CouchDb (Shared ν)) (id : String) (record : Record)
    (read head put : Exchange ν) (r found answer : Response) : Prop where
  read : read.Answers c.client .get (c.documentUrl database id) none r
  asked : head.Answers c.client .head (c.documentUrl database id) none found
  sent : put.Answers c.client .put (c.documentUrl database id)
    (some (outgoing record.toDocument id (reported found)).toJson) answer

theorem Merges.carried_put {id : String} {record : Record} {read head put : Exchange ν}
    {r found answer : Response} (h : Merges c id record read head put r found answer) :
    carried put = reported found := by
  rw [carried, h.sent.request]
  simp only [Http.Client.request, Option.bind_some, Document.toJson, Json.map?_obj_entries,
    CouchDb.revisionOf_outgoing]

/-- The PUT of a document in such a write is that of the save at its end. -/
theorem draft_of_write (hc : c.client.network = n.shared others) {now : Instant}
    {user space key : String} {value : Json} {agent : Option String} {metadata : Option Document}
    {es : List (Exchange ν)} {x : Exchange ν}
    (hlog : (finalState ((draft (Engine.couchDb c) now user space key value agent metadata >>=
      commit (Engine.couchDb c) now (docId user space key)) s)).store.network.exchanges =
        s.store.network.exchanges ++ es)
    (hx : x ∈ es) (hwrite : x.IsWrite) :
    ∃ record s₁ rest,
      draft (Engine.couchDb c) now user space key value agent metadata s = .ok record s₁ ∧
      (finalState (c.save database (docId user space key) record.toDocument
        s₁.store)).network.exchanges = s₁.store.network.exchanges ++ rest ∧ x ∈ rest := by
  have hbefore := (runs_draft_couchDb hc now user space key value agent metadata s).1
  simp only [bind_apply] at hlog
  cases hdraft : draft (Engine.couchDb c) now user space key value agent metadata s with
  | error e s₁ =>
    rw [hdraft] at hlog hbefore
    obtain ⟨es', hmade, hreads⟩ := hbefore
    rw [hmade.unique hlog] at hx
    exact absurd hwrite (hreads x hx)
  | ok record s₁ =>
    rw [hdraft] at hlog hbefore
    obtain ⟨es', hmade, hreads⟩ := hbefore
    dsimp only at hlog
    rw [store_commit] at hlog
    obtain ⟨rest, hrest⟩ := CouchDb.exists_made_save hc database (docId user space key)
      record.toDocument s₁.store
    rw [(hmade.trans hrest).unique hlog] at hx
    exact ⟨record, s₁, rest, rfl, hrest.log,
      (List.mem_append.1 hx).resolve_left fun hx => hreads x hx hwrite⟩

/-- A write that succeeds ends with these three exchanges: it carries the revision that was reported
after the document was read, whichever the document has shown. On a server that guards the document,
that is the revision which is replaced. And a write that is answered with a conflict fails with
one. -/
theorem set_merges (hc : c.client.network = n.shared others) (now : Instant)
    (user space key : String) (value : Json) (agent : Option String) (metadata : Option Document)
    (s : State (CouchDb.State (Shared ν))) :
    (∀ saved s', set (Engine.couchDb c) now user space key value agent metadata s = .ok saved s' →
      ∃ es read head put r found answer record,
        Made n s.store (es ++ [read, head, put]) s'.store ∧
        Merges c (docId user space key) record read head put r found answer ∧
        Drafted user space key value agent metadata now (shown r) record ∧
        carried put = reported found ∧
        ∀ databases : ν → Databases, Guards n c databases database (docId user space key) →
          (databases put.before).revision? database (docId user space key) = reported found) ∧
    ∀ es x r, (finalState (set (Engine.couchDb c) now user space key value agent metadata
        s)).store.network.exchanges = s.store.network.exchanges ++ es →
      x ∈ es → x.IsWrite → x.reply = .answered r → r.isConflict = true →
      ∃ detail s', set (Engine.couchDb c) now user space key value agent metadata s =
        .error (.store (.conflict database (docId user space key) detail)) s' := by
  rw [set_eq]
  refine ⟨fun saved s' hset => ?_, fun es x r hlog hx hwrite hreply hconflict => ?_⟩
  · obtain ⟨record, s₁, hdraft, hcommit⟩ := bind_eq_ok_iff.1 hset
    obtain ⟨receipt, hsave⟩ := commit_ok hcommit
    obtain ⟨es, read, r, hmade, hread, hdrafted, hknown⟩ := draft_made hc hdraft
    obtain ⟨last, hsubmit, hsuccess⟩ := CouchDb.save_ok hsave
    obtain ⟨rest, head, put, found, answer, hmade', hsubmitted, hnone, rfl⟩ :=
      CouchDb.submit_made hc hsubmit
    obtain rfl := hnone hknown
    rw [Response.isSuccess_arriving] at hsuccess
    have hmerges : Merges c (docId user space key) record read head put r found answer :=
      ⟨hread, hsubmitted.asked, hsubmitted.sent⟩
    refine ⟨es, read, head, put, r, found, answer, record, by simpa using hmade.trans hmade',
      hmerges, hdrafted, hmerges.carried_put, fun databases hguards => ?_⟩
    have hnamed := (hguards.of_accepted (hmade'.genuine put (by simp)) hmerges.sent hsuccess).1
    rw [CouchDb.revisionOf_outgoing] at hnamed
    exact hnamed.symm
  · obtain ⟨record, s₁, rest, hdraft, hrest, hlast⟩ := draft_of_write hc hlog hx hwrite
    obtain ⟨detail, t, hfails⟩ :=
      CouchDb.conflict_of_write hc hrest hlast hwrite hreply hconflict
    refine ⟨detail, { s₁ with store := t }, ?_⟩
    simp only [bind_apply, hdraft]
    exact commit_of_error hfails

def following : CouchDb (Shared Script) :=
  ⟨"http://localhost:5984", CouchDb.Shelf.root, ⟨Script.network.shared fun _ s => s, none⟩⟩

theorem network_following :
    following.client.network = Script.network.shared fun _ s => s := rfl

def overtaken (status : Nat) : Script where
  reachable := true
  replies := [.answered ⟨200, none, .json .null⟩,
    .answered ⟨200, none, .json (.obj [("result", .str "created")])⟩,
    .answered ⟨200, none, .json (.obj [("_rev", .str "1-a")])⟩,
    .answered ⟨200, some "\"2-b\"", .json .null⟩,
    .answered ⟨status, none, .json (.obj [("id", .str "k"), ("rev", .str "3-c")])⟩]
  requests := []

def overtakenSet (status : Nat) :
    EStateM.Result Failure (State (CouchDb.State (Shared Script))) Record :=
  set (Engine.couchDb following) Instant.epoch "u" "n" "k" .null none none
    (start (CouchDb.start ⟨overtaken status, []⟩))

theorem set_merges_overtaken :
    (∃ saved s' es read head put found, overtakenSet 201 = .ok saved s' ∧
      s'.store.network.exchanges = es ++ [read, head, put] ∧
      head.Answers following.client .head
        (following.documentUrl database (docId "u" "n" "k")) none found ∧
      carried put = reported found) ∧
    ∃ detail s', overtakenSet 409 =
      .error (.store (.conflict database (docId "u" "n" "k") detail)) s' := by
  constructor
  · have hok : (answer? (overtakenSet 201)).isSome = true := by decide +kernel
    obtain ⟨saved, hsaved⟩ := Option.isSome_iff_exists.1 hok
    have hset := eq_ok_of_answer? hsaved
    generalize finalState (overtakenSet 201) = s' at hset
    obtain ⟨es, read, head, put, r, found, answer, record, hmade, hmerges, -, hcarried, -⟩ :=
      (set_merges network_following Instant.epoch "u" "n" "k" .null none none
        (start (CouchDb.start ⟨overtaken 201, []⟩))).1 saved s' hset
    exact ⟨saved, s', es, read, head, put, found, hset, hmade.log, hmerges.asked, hcarried⟩
  · have hput : (finalState (overtakenSet 409)).store.network.exchanges[4]?.map
        (fun x => (x.request.method, x.request.body.isSome, x.reply)) =
          some (.put, true, .answered ⟨409, none,
            .json (.obj [("id", .str "k"), ("rev", .str "3-c")])⟩) := by decide +kernel
    generalize hrun : overtakenSet 409 = outcome at hput ⊢
    obtain ⟨put, hmem, hshape⟩ := Option.map_eq_some_iff.1 hput
    simp only [Prod.mk.injEq] at hshape
    have hconflict := (set_merges network_following Instant.epoch "u" "n" "k" .null none none
      (start (CouchDb.start ⟨overtaken 409, []⟩))).2
    rw [overtakenSet] at hrun
    rw [hrun] at hconflict
    exact hconflict _ put _ (List.nil_append _).symm (List.mem_of_getElem? hmem)
      ⟨hshape.1, Option.isSome_iff_ne_none.1 hshape.2.1⟩ hshape.2.2 rfl

/-- The document that was read had the revision "1-a", and another one is replaced. -/
theorem set_replaces_unread :
    ¬ ∀ saved s', overtakenSet 201 = .ok saved s' →
      ∀ read ∈ s'.store.network.exchanges, ∀ put ∈ s'.store.network.exchanges, ∀ r doc,
        read.request.method = .get → read.reply = .answered r → shown r = some doc →
        put.IsWrite → carried put = revisionOf doc := by
  intro h
  have hok : (answer? (overtakenSet 201)).isSome = true := by decide +kernel
  have hread : (finalState (overtakenSet 201)).store.network.exchanges[2]?.map
      (fun x => (x.request.method, x.reply)) = some (.get,
        .answered ⟨200, none, .json (.obj [("_rev", .str "1-a")])⟩) := by decide +kernel
  have hput : (finalState (overtakenSet 201)).store.network.exchanges[4]?.map
      (fun x => (x.request.method, x.request.body.isSome, carried x)) =
        some (.put, true, some "2-b") := by decide +kernel
  obtain ⟨saved, hsaved⟩ := Option.isSome_iff_exists.1 hok
  have hset := eq_ok_of_answer? hsaved
  generalize finalState (overtakenSet 201) = s' at hread hput hset
  obtain ⟨read, hmem, hgot⟩ := Option.map_eq_some_iff.1 hread
  obtain ⟨put, hmem', hshape⟩ := Option.map_eq_some_iff.1 hput
  simp only [Prod.mk.injEq] at hgot hshape
  have hshown : shown ⟨200, none, .json (.obj [("_rev", .str "1-a")])⟩ =
      some (SortedMap.ofList [("_rev", .str "1-a")]) := by decide +kernel
  have hsame := h saved s' hset read (List.mem_of_getElem? hmem) put (List.mem_of_getElem? hmem')
    _ _ hgot.1 hgot.2 hshown ⟨hshape.1, Option.isSome_iff_ne_none.1 hshape.2.1⟩
  rw [hshape.2.2] at hsame
  revert hsame
  decide +kernel

end Keyspace.Service
