import Keyspace.Proofs.Service.Lockstep
import Keyspace.Proofs.Service.Memory

/-!
What a user sees of the engine in memory.

`Owned` says that the documents under the ids of a user are those that show the user, and that they
are filed as the data store files them. Then the user is served alike by the memory and by the part
of it that shows the user, and no request of the user touches the rest (`Viewed.engineAlike`).
-/

set_option autoImplicit false

namespace Keyspace.Service

def shows (user : String) (_ : String) (stored : StoredDocument) : Bool :=
  decide (stored.doc.get? Record.userField = some (.str user))

/-- A memory in which the documents of a user are those under the user's ids. -/
structure Owned (user : String) (ready : Prop) (m : Memory) : Prop where
  kept : ∀ id stored, (m.database database).get? id = some stored → shows user id stored = true →
    Kept (placesOf user) ready id stored.doc
  shown : ∀ space key stored,
    (m.database database).get? (docId user space key) = some stored →
    shows user (docId user space key) stored = true
  tokens : ∀ id stored, (m.database database).get? id = some stored →
    ∃ rev, stored.doc.get? Document.revField = some (.str rev)

abbrev ofUser (user : String) (ready : Prop) : Contract where
  allowed := placesOf user
  ready := ready
  whole := True
  tokens := Eq
  tokens_none := rfl
  upkeep := .filing

/-- A memory, and the part of it that shows a user; the rest is `hidden`. -/
structure Viewed (user : String) (ready : Prop) (hidden : SortedMap StoredDocument)
    (m m' : Memory) : Prop where
  owned : Owned user ready m
  part : m'.database database = (m.database database).filter (shows user)
  rest : (m.database database).filter (fun id stored => !shows user id stored) = hidden

theorem shows_of_kept {user id : String} {ready : Prop}
    {stored : StoredDocument} (h : Kept (placesOf user) ready id stored.doc) (other : String) :
    shows other id stored = decide (user = other) := by
  obtain ⟨_, space, key, rfl, _, hfiled, _⟩ := h
  simp [shows, hfiled.user]

theorem eq_docId_of_kept {user id : String} {ready : Prop}
    {doc : Document} (h : Kept (placesOf user) ready id doc) :
    ∃ space key, id = docId user space key := by
  obtain ⟨_, space, key, rfl, _, hfiled, _⟩ := h
  exact ⟨space, key, hfiled.id_eq⟩

namespace Owned

variable {user : String} {ready : Prop} {m : Memory}

theorem kept_docId (h : Owned user ready m) {id : String}
    (hid : ∃ space key, id = docId user space key) {stored : StoredDocument}
    (hstored : (m.database database).get? id = some stored) :
    Kept (placesOf user) ready id stored.doc := by
  obtain ⟨space, key, rfl⟩ := hid
  exact h.kept _ stored hstored (h.shown space key stored hstored)

theorem alike_refl (h : Owned user ready m) {id : String} {stored : StoredDocument}
    (hstored : (m.database database).get? id = some stored) :
    Document.Alike Eq stored.doc stored.doc := by
  obtain ⟨rev, hrev⟩ := h.tokens id stored hstored
  exact Document.Alike.refl_of_rev hrev

theorem put (h : Owned user ready m) (now : Instant) {id : String} {doc : Document}
    (hdoc : Kept (placesOf user) ready id doc) :
    Owned user ready (m.put database id (m.written now database id doc)) := by
  have hkept := hdoc.written m now
  constructor
  · intro other stored hstored hshows
    rcases Memory.of_get?_put hstored with ⟨rfl, rfl⟩ | hold
    · exact hkept
    · exact h.kept other stored hold hshows
  · intro space key stored hstored
    rcases Memory.of_get?_put hstored with ⟨heq, rfl⟩ | hold
    · rw [heq, shows_of_kept hkept, decide_eq_true rfl]
    · exact h.shown space key stored hold
  · intro other stored hstored
    rcases Memory.of_get?_put hstored with ⟨rfl, rfl⟩ | hold
    · exact ⟨_, Memory.get?_rev_written ..⟩
    · exact h.tokens other stored hold

theorem remove (h : Owned user ready m) (id : String) :
    Owned user ready (m.remove database id) where
  kept other stored hstored := h.kept other stored (Memory.of_get?_remove hstored)
  shown space key stored hstored := h.shown space key stored (Memory.of_get?_remove hstored)
  tokens other stored hstored := h.tokens other stored (Memory.of_get?_remove hstored)

theorem exists_viewed (h : Owned user ready m) :
    ∃ m', Viewed user ready
      ((m.database database).filter fun id stored => !shows user id stored) m m' := by
  let part := (m.database database).filter (shows user)
  refine ⟨⟨SortedMap.empty.insert database part, SortedMap.empty⟩, h, ?_, rfl⟩
  simp [Memory.database, part]

theorem of_databases {m' : Memory} (h : Owned user ready m)
    (hsame : m'.database database = m.database database) : Owned user ready m' :=
  ⟨hsame ▸ h.kept, hsame ▸ h.shown, hsame ▸ h.tokens⟩

theorem empty (user : String) (ready : Prop) : Owned user ready Memory.empty :=
  ⟨fun _ _ h => absurd h (by simp [Memory.empty, Memory.database]),
    fun _ _ _ h => absurd h (by simp [Memory.empty, Memory.database]),
    fun _ _ h => absurd h (by simp [Memory.empty, Memory.database])⟩

end Owned

namespace Viewed

variable {user : String} {ready : Prop} {hidden : SortedMap StoredDocument} {m m' : Memory}

theorem get?_eq (h : Viewed user ready hidden m m') {id : String}
    (hid : ∃ space key, id = docId user space key) :
    (m'.database database).get? id = (m.database database).get? id := by
  rw [h.part, SortedMap.get?_filter]
  cases hstored : (m.database database).get? id with
  | none => rfl
  | some stored => simp [shows_of_kept (h.owned.kept_docId hid hstored)]

theorem get?_rest (h : Viewed user ready hidden m m') {id : String}
    (hid : ∃ space key, id = docId user space key) :
    ((m.database database).get? id).filter (fun stored => !shows user id stored) = none := by
  cases hstored : (m.database database).get? id with
  | none => rfl
  | some stored => simp [shows_of_kept (h.owned.kept_docId hid hstored)]

theorem put (h : Viewed user ready hidden m m') (now : Instant) {id : String} {doc : Document}
    (hdoc : Kept (placesOf user) ready id doc) :
    Viewed user ready hidden (m.put database id (m.written now database id doc))
      (m'.put database id (m'.written now database id doc)) := by
  have hid := eq_docId_of_kept hdoc
  have hshows := shows_of_kept (hdoc.written m now) user
  refine ⟨h.owned.put now hdoc, ?_, ?_⟩
  · rw [Memory.database_put, Memory.database_put, h.part,
      Memory.written_congr (h.get?_eq hid), SortedMap.filter_insert_of_keep (by simp [hshows])]
  · rw [Memory.database_put,
      SortedMap.filter_insert_of_not_keep (by simp [hshows]) (h.get?_rest hid), h.rest]

theorem remove (h : Viewed user ready hidden m m') {id : String}
    (hid : ∃ space key, id = docId user space key) :
    Viewed user ready hidden (m.remove database id) (m'.remove database id) := by
  have hold := h.get?_rest hid
  refine ⟨h.owned.remove id, ?_, ?_⟩
  · rw [Memory.database_remove, Memory.database_remove, h.part, SortedMap.filter_erase]
  · rw [Memory.database_remove, SortedMap.filter_erase, h.rest, SortedMap.erase_eq_self]
    rw [← h.rest, SortedMap.get?_filter, hold]

/-- Queries that ask for the user find the same documents in either memory. -/
theorem select_eq (h : Viewed user ready hidden m m') {selector : Selector}
    (hselector : ∀ doc, selector.accepts doc = true →
      doc.get? Record.userField = some (.str user)) (fields : Option (List String)) (limit : Nat) :
    selector.select fields limit (m.documents database) =
      selector.select fields limit (m'.documents database) := by
  have hfound : (m.documents database).filter selector.accepts =
      (m'.documents database).filter selector.accepts := by
    simp only [Memory.documents, h.part, SortedMap.values, SortedMap.filter, List.map_map,
      List.filter_map, List.filter_filter]
    congr 1
    refine List.filter_congr fun e _ => ?_
    simp only [Function.comp_apply, shows]
    cases haccepts : selector.accepts e.2.doc with
    | false => simp
    | true => simp [hselector _ haccepts]
  simp only [Selector.select, hfound]

/-- The engine in memory serves the user alike with and without the hidden documents. -/
theorem engineAlike (user : String) (ready : Prop) (hidden : SortedMap StoredDocument) :
    Engine.Alike user (ofUser user ready) (fun _ => Viewed user ready hidden) Engine.memory
      Engine.memory where
  mono _ _ _ h := h
  get _ space key _ m m' h := by
    simp only [Engine.memory, Memory.get_run, h.get?_eq ⟨space, key, rfl⟩]
    cases hstored : (m.database database).get? (docId user space key) with
    | none => exact .error h
    | some stored =>
      have hkept := h.owned.kept_docId ⟨space, key, rfl⟩ hstored
      exact .ok ⟨h.owned.alike_refl hstored, hkept, trivial⟩ h
  save _ now id d d' hpair m m' h := by
    obtain ⟨halike, hkept, _⟩ := hpair
    obtain rfl := halike.eq
    simp only [Engine.memory, Memory.save_run]
    rw [Memory.nextRevision_congr (h.get?_eq (eq_docId_of_kept hkept))]
    exact .ok rfl (h.put now hkept)
  delete _ space key _ m m' h := by
    simp only [Engine.memory, Memory.delete_run, h.get?_eq ⟨space, key, rfl⟩]
    cases (m.database database).get? (docId user space key) with
    | none => exact .error h
    | some stored => exact .ok trivial (h.remove ⟨space, key, rfl⟩)
  findKeys _ space m m' h := by
    rw [Memory.find_run m database (validate_spaceSelector user space),
      Memory.find_run m' database (validate_spaceSelector user space),
      h.select_eq fun doc hdoc => (spaceSelector_accepts.1 hdoc).1]
    exact .ok ⟨rfl, fun _ _ => rfl⟩ h
  findSpaces _ m m' h := by
    rw [Memory.find_run m database (validate_userSelector user),
      Memory.find_run m' database (validate_userSelector user),
      h.select_eq fun doc hdoc => userSelector_accepts.1 hdoc]
    exact .ok rfl h
  findWhole _ _ space m m' h := by
    rw [Memory.find_run m database (validate_spaceSelector user space),
      Memory.find_run m' database (validate_spaceSelector user space),
      ← h.select_eq fun doc hdoc => (spaceSelector_accepts.1 hdoc).1]
    refine .ok (List.forall₂_same.2 fun doc hdoc => ?_) h
    have hmem := List.mem_filter.1 (List.mem_of_mem_take hdoc)
    obtain ⟨id, stored, hstored, rfl⟩ := Memory.mem_documents_iff.1 hmem.1
    have hshows : shows user id stored = true :=
      decide_eq_true (spaceSelector_accepts.1 hmem.2).1
    exact ⟨id, h.owned.alike_refl hstored, h.owned.kept id stored hstored hshows, trivial⟩
  ensureIndex_left _ index m m' h := by
    obtain ⟨m'', hrun, hsame⟩ := Memory.ensureIndex_run m database index
    simp only [Engine.memory, hrun, finalState]
    exact ⟨h.owned.of_databases (hsame database), hsame database ▸ h.part,
      hsame database ▸ h.rest⟩
  ensureIndex_right _ index m m' h := by
    obtain ⟨m'', hrun, hsame⟩ := Memory.ensureIndex_run m' database index
    simp only [Engine.memory, hrun, finalState]
    exact ⟨h.owned, hsame database ▸ h.part, h.rest⟩

theorem engineAlike_of_eq {user served : String} (h : served = user) (ready : Prop)
    (hidden : SortedMap StoredDocument) :
    Engine.Alike served (ofUser user ready) (fun _ => Viewed user ready hidden) Engine.memory
      Engine.memory := by
  subst h
  exact engineAlike served ready hidden

end Viewed

end Keyspace.Service
