import Keyspace.Proofs.Service.Listing
import Keyspace.Proofs.Service.Lockstep

set_option autoImplicit false

namespace Keyspace

variable {allowed : String → String → String → Prop} {ready : Prop}

namespace Service

/-- Memories with the same documents of the data store, all of them filed in allowed places. -/
structure SameKept (allowed : String → String → String → Prop) (ready : Prop)
    (m m' : Memory) : Prop where
  same : m'.database database = m.database database
  kept : ∀ id stored, (m.database database).get? id = some stored →
    Kept allowed ready id stored.doc
  tokens : ∀ id stored, (m.database database).get? id = some stored →
    ∃ rev, stored.doc.get? Document.revField = some (.str rev)

namespace SameKept

variable {m m' : Memory}

theorem alike_refl (h : SameKept allowed ready m m') {id : String} {stored : StoredDocument}
    (hstored : (m.database database).get? id = some stored) :
    Document.Alike Eq stored.doc stored.doc := by
  obtain ⟨rev, hrev⟩ := h.tokens id stored hstored
  exact Document.Alike.refl_of_rev hrev

theorem put (h : SameKept allowed ready m m') (now : Instant) {id : String} {doc : Document}
    (hdoc : Kept allowed ready id doc) :
    SameKept allowed ready (m.put database id (m.written now database id doc))
      (m'.put database id (m'.written now database id doc)) := by
  constructor
  · rw [Memory.database_put, Memory.database_put, h.same,
      Memory.written_congr (congrArg (·.get? id) h.same)]
  · intro other stored hstored
    rcases Memory.of_get?_put hstored with ⟨rfl, rfl⟩ | hold
    · exact hdoc.written m now
    · exact h.kept other stored hold
  · intro other stored hstored
    rcases Memory.of_get?_put hstored with ⟨rfl, rfl⟩ | hold
    · exact ⟨_, Memory.get?_rev_written ..⟩
    · exact h.tokens other stored hold

theorem remove (h : SameKept allowed ready m m') (id : String) :
    SameKept allowed ready (m.remove database id) (m'.remove database id) where
  same := by rw [Memory.database_remove, Memory.database_remove, h.same]
  kept other stored hstored := h.kept other stored (Memory.of_get?_remove hstored)
  tokens other stored hstored := h.tokens other stored (Memory.of_get?_remove hstored)

theorem documents_eq (h : SameKept allowed ready m m') :
    m'.documents database = m.documents database := by
  rw [Memory.documents, Memory.documents, h.same]

theorem engineAlike (user : String) (allowed : String → String → String → Prop) (ready : Prop) :
    Engine.Alike user ⟨allowed, ready, True, Eq, rfl, .filing⟩ (fun _ => SameKept allowed ready)
      Engine.memory Engine.memory where
  mono _ _ _ h := h
  get _ space key _ m m' h := by
    simp only [Engine.memory, Memory.get_run, h.same]
    cases hstored : (m.database database).get? (docId user space key) with
    | none => exact .error h
    | some stored => exact .ok ⟨h.alike_refl hstored, h.kept _ stored hstored, trivial⟩ h
  save _ now id d d' hpair m m' h := by
    obtain ⟨halike, hkept, _⟩ := hpair
    obtain rfl := halike.eq
    simp only [Engine.memory, Memory.save_run]
    rw [Memory.nextRevision_congr (congrArg (·.get? id) h.same)]
    exact .ok rfl (h.put now hkept)
  delete _ space key _ m m' h := by
    simp only [Engine.memory, Memory.delete_run, h.same]
    cases (m.database database).get? (docId user space key) with
    | none => exact .error h
    | some stored => exact .ok trivial (h.remove _)
  findKeys _ space m m' h := by
    rw [Memory.find_run m database (validate_spaceSelector user space),
      Memory.find_run m' database (validate_spaceSelector user space), h.documents_eq]
    refine .ok ⟨rfl, fun key hkey => ?_⟩ h
    simp only [Selector.select, List.map_map, List.mem_map, Function.comp_apply,
      keyOf_project] at hkey
    obtain ⟨doc, hdoc, rfl⟩ := hkey
    obtain ⟨hmem, haccepts⟩ := List.mem_filter.1 (List.mem_of_mem_take hdoc)
    obtain ⟨id, stored, hstored, rfl⟩ := Memory.mem_documents_iff.1 hmem
    obtain ⟨huser, hspace⟩ := spaceSelector_accepts.1 haccepts
    exact (h.kept id stored hstored).allowed_of_shown huser hspace
  findSpaces _ m m' h := by
    rw [Memory.find_run m database (validate_userSelector user),
      Memory.find_run m' database (validate_userSelector user), h.documents_eq]
    exact .ok rfl h
  findWhole _ _ space m m' h := by
    rw [Memory.find_run m database (validate_spaceSelector user space),
      Memory.find_run m' database (validate_spaceSelector user space), h.documents_eq]
    refine .ok (List.forall₂_same.2 fun doc hdoc => ?_) h
    obtain ⟨hmem, _⟩ := List.mem_filter.1 (List.mem_of_mem_take hdoc)
    obtain ⟨id, stored, hstored, rfl⟩ := Memory.mem_documents_iff.1 hmem
    exact ⟨id, h.alike_refl hstored, h.kept id stored hstored, trivial⟩
  ensureIndex_left _ index m m' h := by
    obtain ⟨m'', hrun, hsame⟩ := Memory.ensureIndex_run m database index
    simp only [Engine.memory, hrun, finalState]
    exact ⟨h.same.trans (hsame database).symm, hsame database ▸ h.kept,
      hsame database ▸ h.tokens⟩
  ensureIndex_right _ index m m' h := by
    obtain ⟨m'', hrun, hsame⟩ := Memory.ensureIndex_run m' database index
    simp only [Engine.memory, hrun, finalState]
    exact ⟨(hsame database).trans h.same, h.kept, h.tokens⟩

end SameKept

theorem kept_of_within {requests : List Request}
    (hwithin : ∀ r ∈ requests, r.operation.Within (allowed r.user))
    (hnow : ready → ∀ r ∈ requests, r.now.InRange) {id : String} {stored : StoredDocument}
    (hstored : (docs (after Engine.memory requests (start Memory.empty))).get? id = some stored) :
    Kept allowed ready id stored.doc := by
  have hstart : SameKept allowed ready Memory.empty Memory.empty := by
    refine ⟨rfl, fun id stored h => ?_, fun id stored h => ?_⟩ <;>
      simp [Memory.empty, Memory.database] at h
  have hafter := (transcript_alike (n := 0)
    (fun r _ => SameKept.engineAlike r.user allowed ready)
    (fun r hr h => hnow h r hr) (fun _ _ _ => trivial) hwithin
    (fun r _ => r.operation.writes_filing) trivial
    (s := start Memory.empty) (t := start Memory.empty) hstart).2
  exact hafter.kept id stored hstored

end Service

end Keyspace
