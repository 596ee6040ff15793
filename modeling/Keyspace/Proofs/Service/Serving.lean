import Keyspace.Proofs.Http.Client
import Keyspace.Proofs.Service.Finding
import Keyspace.Proofs.Service.Listing
import Keyspace.Proofs.Service.Lockstep

/-!
Engines over which the data store answers as it does in memory.

`Engine.Serves` is what that takes of an engine. Its states show documents under ids. The operations
go by these documents and leave others, and queries find what a selector accepts among them.
`Mirrors` says that a memory keeps the documents that are shown, apart from tokens. Both engines
keep that up, and serve every user alike from there (`Engine.Serves.engineAlike`). So the
transcripts of any requests differ in tokens only (`Engine.Serves.transcript_alike`).
-/

set_option autoImplicit false

namespace Keyspace

open Service

variable {τ : Type} {k : Contract} {shows : SortedMap Document → τ → Prop} {f : Engine τ}

/-- Some documents are copies of what the data store keeps, apart from tokens. -/
def Contract.Copies (k : Contract) (n : Nat) (docs : SortedMap Document) : Prop :=
  ∀ id doc, docs.get? id = some doc → ∃ d, k.Pairs n id d doc

theorem Contract.Copies.exists_text {n : Nat} {docs : SortedMap Document} (h : k.Copies n docs)
    {id : String} {doc : Document} (hdoc : docs.get? id = some doc) {name : String}
    (hname : name = Document.idField ∨ name = Record.keyField ∨ name = Record.spaceField) :
    ∃ s, doc.get? name = some (.str s) := by
  obtain ⟨d, halike, ⟨user, space, key, -, -, hfiled, -⟩, -⟩ := h id doc hdoc
  have hrev : name ≠ Document.revField := by
    rcases hname with rfl | rfl | rfl <;> decide
  rw [← halike.fields _ hrev]
  rcases hname with rfl | rfl | rfl
  · exact ⟨id, hfiled.id⟩
  · exact ⟨key, hfiled.key⟩
  · exact hfiled.space.elim (fun hs => ⟨_, hs⟩) fun hs => ⟨_, hs⟩

/-- An engine that serves the documents that its states show, in the places that may be used. -/
structure Engine.Serves (k : Contract) (shows : SortedMap Document → τ → Prop)
    (f : Engine τ) : Prop where
  get : ∀ {n docs t id}, k.Copies n docs → k.Addresses id → shows docs t →
    ∃ t', shows docs t' ∧ f.get database id t =
      match docs.get? id with
      | some doc => .ok doc t'
      | none => .error (.notFound database id) t'
  /-- What is shown afterwards differs from what the memory makes of the document in its token. -/
  save : ∀ {docs t n id d d'} now, k.Pairs n id d d' → shows docs t →
    ∃ rev doc t', f.save now database id d' t = .ok ⟨id, rev⟩ t' ∧ shows (docs.insert id doc) t' ∧
      ∀ token, k.tokens (some token) (some rev) ∧
        Document.Alike k.tokens (Memory.stamped d id token) doc
  delete : ∀ {docs t id}, k.Addresses id → shows docs t →
    match docs.get? id with
    | some _ => ∃ t', f.delete database id t = .ok () t' ∧ shows (docs.erase id) t'
    | none => ∃ t', f.delete database id t = .error (.notFound database id) t' ∧ shows docs t'
  findSome : ∀ {n docs t selector texts} name, k.Copies n docs → AsksFor selector texts →
    name = Record.keyField ∨ name = Record.spaceField → shows docs t →
    ∃ ds t', shows docs t' ∧ f.find database selector (some [name]) findLimit t = .ok ds t' ∧
      List.Forall₂ (LooksLike (some [name])) ds (firstFound selector docs.values)
  findWhole : k.whole → ∀ {n docs t selector texts}, k.Copies n docs → AsksFor selector texts →
    shows docs t → ∃ t', shows docs t' ∧
      f.find database selector none findLimit t = .ok (firstFound selector docs.values) t'
  ensureIndex : ∀ {docs t} index, shows docs t →
    shows docs (finalState (f.ensureIndex database index t))

namespace Service

abbrev Mirrored (k : Contract) (n : Nat) (m : Memory) (docs : SortedMap Document) : Prop :=
  ∀ id, Option.Rel (fun stored doc => k.Pairs n id stored.doc doc)
    ((m.database database).get? id) (docs.get? id)

/-- A memory keeps the documents that a state of an engine shows. -/
def Mirrors (k : Contract) (shows : SortedMap Document → τ → Prop) (n : Nat) (m : Memory)
    (t : τ) : Prop :=
  ∃ docs, shows docs t ∧ Mirrored k n m docs

namespace Mirrored

variable {n : Nat} {m : Memory} {docs : SortedMap Document} {selector : Selector}
  {texts : List (String × String)}

theorem copies (h : Mirrored k n m docs) : k.Copies n docs := by
  intro id doc hdoc
  have hid := h id
  rw [hdoc] at hid
  generalize (m.database database).get? id = stored at hid
  cases hid with
  | some hpair => exact ⟨_, hpair⟩

theorem put (h : Mirrored k n m docs) (now : Instant) {id : String} {d doc : Document}
    (hkeeps : k.Keeps n id d)
    (halike : ∀ token, Document.Alike k.tokens (Memory.stamped d id token) doc) :
    Mirrored k n (m.put database id (m.written now database id d)) (docs.insert id doc) := by
  intro other
  rw [Memory.database_put, SortedMap.get?_insert, SortedMap.get?_insert]
  split
  · rename_i heq
    subst heq
    obtain ⟨_, _, _, _, _, hfiled, _⟩ := hkeeps.1
    refine .some ⟨halike _, hkeeps.1.written m now, ?_⟩
    rw [Memory.written, hfiled.stamped_eq]
    exact k.upkeep.insert_rev _ hkeeps.2
  · exact h other

theorem remove (h : Mirrored k n m docs) (id : String) :
    Mirrored k n (m.remove database id) (docs.erase id) := by
  intro other
  rw [Memory.database_remove, SortedMap.get?_erase, SortedMap.get?_erase]
  split
  · exact .none
  · exact h other

theorem firstFound (h : Mirrored k n m docs) (hasks : AsksFor selector texts) :
    List.Forall₂ (fun d doc => ∃ id, k.Pairs n id d doc)
      (firstFound selector (m.documents database)) (firstFound selector docs.values) := by
  have hall : List.Forall₂ (fun d doc => ∃ id, k.Pairs n id d doc) (m.documents database)
      docs.values := by
    refine List.forall₂_map_left_iff.2 (SortedMap.forall₂_values fun id => ?_)
    have hid := h id
    generalize (m.database database).get? id = stored, docs.get? id = doc at hid
    cases hid with
    | none => exact .none
    | some h => exact .some ⟨id, h⟩
  refine List.forall₂_take _ (List.rel_filter ?_ hall)
  rintro d doc ⟨id, hpair⟩
  dsimp only
  rw [hasks.accepts, hasks.accepts]
  refine forall₂_congr fun e he => ?_
  rw [hpair.1.fields e.1 (hasks.ne_rev e he)]

end Mirrored

end Service

namespace Engine.Serves

variable (h : f.Serves k shows)

include h

theorem get_of_mirrors {n : Nat} {m : Memory} {t : τ} (hm : Mirrors k shows n m t) {id : String}
    (hid : k.Addresses id) {stored : StoredDocument}
    (hstored : (m.database database).get? id = some stored) :
    ∃ doc t', f.get database id t = .ok doc t' ∧ k.Pairs n id stored.doc doc := by
  obtain ⟨docs, hshows, hdocs⟩ := hm
  obtain ⟨t', -, hrun⟩ := h.get (Mirrored.copies hdocs) hid hshows
  have hpair := hdocs id
  rw [hstored] at hpair
  generalize docs.get? id = doc at hpair hrun
  cases hpair with
  | some hpair => exact ⟨_, t', hrun, hpair⟩

theorem lockstep_findSome {selector : Selector} {texts : List (String × String)}
    (hasks : AsksFor selector texts) {name : String}
    (hname : name = Record.keyField ∨ name = Record.spaceField) (shown : Document → String)
    (hshown : ∀ d d' : Document, d.field name = d'.field name → shown d = shown d') (n : Nat) :
    Lockstep (Mirrors k shows n)
      (fun ds ds' => ds.map shown = ds'.map shown ∧
        ∀ s ∈ ds.map shown, ∃ d, selector.accepts d = true ∧ shown d = s ∧ ∃ id, k.Keeps n id d)
      (Engine.memory.find database selector (some [name]) findLimit)
      (f.find database selector (some [name]) findLimit) := by
  rintro m t ⟨docs, hshows, hdocs⟩
  have hne : name ≠ Document.idField ∧ name ≠ Document.revField := by
    rcases hname with rfl | rfl <;> decide
  have hlooks : ∀ d d', LooksLike (some [name]) d d' → shown d = shown d' := fun d d' hd =>
    hshown d d' (hd name hne.1 (by simp))
  obtain ⟨ds, t', hshows', hrun, hfound⟩ :=
    h.findSome name (Mirrored.copies hdocs) hasks hname hshows
  rw [Memory.find_run m database hasks.valid, hrun]
  refine .ok ?_ ⟨docs, hshows', hdocs⟩
  have hleft := map_eq_of_forall₂ (looksLike_select (looksLike_refl none (m.documents database))
    hasks (some [name])) hlooks
  have hpairs := Mirrored.firstFound hdocs hasks
  have hmiddle := map_eq_of_forall₂ hpairs fun d doc hd => by
    obtain ⟨id, hpair⟩ := hd
    exact hshown d doc (hpair.1.field_eq hne.2)
  refine ⟨hleft.trans (hmiddle.trans (map_eq_of_forall₂ hfound hlooks).symm), fun s hs => ?_⟩
  rw [hleft] at hs
  obtain ⟨d, hd, rfl⟩ := List.mem_map.1 hs
  have hkeeps := ((List.forall₂_and_left _ _).1 (hpairs.imp fun _ _ hd =>
    ⟨hd.imp fun _ hpair => hpair.2, hd⟩)).1 d hd
  exact ⟨d, (List.mem_filter.1 (List.mem_of_mem_take hd)).2, rfl, hkeeps⟩

/-- The engine and the memory serve every user alike. -/
theorem engineAlike (user : String) :
    Engine.Alike user k (Mirrors k shows) Engine.memory f where
  mono hle m t hm := by
    obtain ⟨docs, hshows, hdocs⟩ := hm
    refine ⟨docs, hshows, fun id => ?_⟩
    have hid := hdocs id
    generalize (m.database database).get? id = stored, docs.get? id = doc at hid
    cases hid with
    | none => exact .none
    | some hpair => exact .some (hpair.mono hle)
  get n space key hplace m t hm := by
    obtain ⟨docs, hshows, hdocs⟩ := hm
    obtain ⟨t', hshows', hrun⟩ :=
      h.get (Mirrored.copies hdocs) ⟨user, space, key, hplace, rfl⟩ hshows
    have hid := hdocs (docId user space key)
    simp only [Engine.memory, Memory.get_run, hrun]
    generalize (m.database database).get? (docId user space key) = stored,
      docs.get? (docId user space key) = doc at hid
    cases hid with
    | none => exact .error ⟨docs, hshows', hdocs⟩
    | some hpair => exact .ok hpair ⟨docs, hshows', hdocs⟩
  save n now id d d' hpair m t hm := by
    obtain ⟨docs, hshows, hdocs⟩ := hm
    obtain ⟨rev, doc, t', hrun, hshows', halike⟩ := h.save now hpair hshows
    simp only [Engine.memory, Memory.save_run, hrun]
    exact .ok (halike _).1
      ⟨_, hshows', Mirrored.put hdocs now hpair.2 fun token => (halike token).2⟩
  delete n space key hplace m t hm := by
    obtain ⟨docs, hshows, hdocs⟩ := hm
    have hrun := h.delete ⟨user, space, key, hplace, rfl⟩ hshows
    have hid := hdocs (docId user space key)
    simp only [Engine.memory, Memory.delete_run]
    generalize (m.database database).get? (docId user space key) = stored,
      hdoc : docs.get? (docId user space key) = doc at hid hrun
    cases hid with
    | none =>
      obtain ⟨t', hrun, hshows'⟩ := hrun
      rw [hrun]
      exact .error ⟨docs, hshows', hdocs⟩
    | some _ =>
      obtain ⟨t', hrun, hshows'⟩ := hrun
      rw [hrun]
      exact .ok trivial ⟨_, hshows', Mirrored.remove hdocs _⟩
  findKeys n space := by
    refine (h.lockstep_findSome (asksFor_space user space) (.inl rfl) keyOf
      (fun d d' hd => by rw [keyOf, keyOf, text?_eq_text?_field, text?_eq_text?_field, hd])
      n).imp fun ds ds' hds => ⟨hds.1, fun key hkey => ?_⟩
    obtain ⟨d, haccepts, rfl, id, hkeeps⟩ := hds.2 key hkey
    obtain ⟨huser, hspace⟩ := spaceSelector_accepts.1 haccepts
    exact hkeeps.1.allowed_of_shown huser hspace
  findSpaces n :=
    (h.lockstep_findSome (asksFor_user user) (.inr rfl) spaceOf
      (fun d d' hd => by rw [spaceOf, spaceOf, text?_eq_text?_field, text?_eq_text?_field, hd])
      n).imp fun _ _ hds => hds.1
  findWhole hwhole n space m t hm := by
    obtain ⟨docs, hshows, hdocs⟩ := hm
    obtain ⟨t', hshows', hrun⟩ :=
      h.findWhole hwhole (Mirrored.copies hdocs) (asksFor_space user space) hshows
    rw [Memory.find_run m database (validate_spaceSelector user space), hrun]
    exact .ok (Mirrored.firstFound hdocs (asksFor_space user space)) ⟨docs, hshows', hdocs⟩
  ensureIndex_left n index m t hm := by
    obtain ⟨docs, hshows, hdocs⟩ := hm
    obtain ⟨m', hrun, hsame⟩ := Memory.ensureIndex_run m database index
    simp only [Engine.memory, hrun, finalState]
    exact ⟨docs, hshows, fun id => hsame database ▸ hdocs id⟩
  ensureIndex_right n index m t hm := by
    obtain ⟨docs, hshows, hdocs⟩ := hm
    exact ⟨docs, h.ensureIndex index hshows, hdocs⟩

/-- Requests over an engine that shows no documents yet are answered as they are in memory, and
leave the same documents there. -/
theorem transcript_alike {requests : List Request}
    (hnow : ∀ r ∈ requests, k.ready → r.now.InRange)
    (hwhole : ∀ r ∈ requests, r.operation.listsWhole = true → k.whole)
    (hplaces : ∀ r ∈ requests, r.operation.Within (k.allowed r.user))
    (hwrites : ∀ r ∈ requests, r.operation.Writes k.upkeep.writes)
    (hwithin : k.upkeep.within (taggedReads requests)) {t : τ} (hempty : shows SortedMap.empty t) :
    List.Forall₂ (fun x y => x.1 = y.1 ∧ Agree (Answer.AlikeBy k.tokens) x.2 y.2)
        (transcript Engine.memory requests (start Memory.empty))
        (transcript f requests (start t)) ∧
      Mirrors k shows (taggedReads requests)
        (after Engine.memory requests (start Memory.empty)).store
        (after f requests (start t)).store := by
  have hstart : Mirrors k shows 0 Memory.empty t := ⟨SortedMap.empty, hempty, fun _ => .none⟩
  rw [← Nat.zero_add (taggedReads requests)] at hwithin ⊢
  exact Service.transcript_alike (fun r _ => h.engineAlike r.user) hnow hwhole hplaces hwrites
    hwithin hstart

end Engine.Serves

namespace Service

def longName : String := String.ofList (List.replicate (Http.Url.longest + 1) 'u')

theorem longest_lt_longName : Http.Url.longest < longName.utf8ByteSize := by
  have hlength := Text.length_le_utf8ByteSize (List.replicate (Http.Url.longest + 1) 'u')
  rw [List.length_replicate] at hlength
  exact hlength

theorem utf8ByteSize_le_encodeSegment_docId (user space key : String) :
    user.utf8ByteSize ≤ (Text.encodeSegment (docId user space key)).utf8ByteSize := by
  refine Nat.le_trans ?_ (Text.utf8ByteSize_le_percentEncode Text.isUnreserved _)
  simp only [docId, String.utf8ByteSize_append]
  omega

theorem slash_notMem_longName : '/' ∉ longName.toList := by
  rw [longName, String.toList_ofList]
  intro h
  exact absurd (List.eq_of_mem_replicate h) (by decide)

theorem answers_differ_of_transport {Q : Answer → Answer → Prop} {user space key reason : String}
    {t t' : τ} (h : f.get database (docId user space key) t = .error (.transport reason) t')
    (now : Instant) :
    ¬ Agree Q
      (outcome Engine.memory ⟨user, now, .get space key none⟩ (start Memory.empty)).1
      (outcome f ⟨user, now, .get space key none⟩ (start t)).1 := by
  have hmemory : (outcome Engine.memory ⟨user, now, .get space key none⟩
      (start Memory.empty)).1 = .ok (.record none) := by
    simp only [outcome, perform, bind_apply]
    rw [get_absent (by simp)]
    rfl
  have hengine : (outcome f ⟨user, now, .get space key none⟩ (start t)).1 =
      .error (.store (.transport reason)) := by
    simp [outcome, perform, get, lookup, attempt, start, h, StoreError.isNotFound]
  rw [hmemory, hengine]
  intro hagree
  cases hagree

end Service

end Keyspace
