import Keyspace.Proofs.Engine.Memory
import Keyspace.Proofs.Record.Filed
import Keyspace.Proofs.Service.Alike
import Keyspace.Proofs.Service.Selector

set_option autoImplicit false

namespace Keyspace

open Service in
theorem Kept.written {allowed : String → String → String → Prop} {ready : Prop} {id : String}
    {doc : Document} (h : Kept allowed ready id doc) (m : Memory) (now : Instant) :
    Kept allowed ready id (m.written now database id doc).doc := by
  obtain ⟨user, space, key, hplace, hnamed, hfiled, hready⟩ := h
  rw [Memory.written, hfiled.stamped_eq]
  exact Kept.insert_rev ⟨user, space, key, hplace, hnamed, hfiled, hready⟩ _

namespace Service

def docs (s : State Memory) : SortedMap StoredDocument := s.store.database database

@[simp] theorem docs_start : docs (start Memory.empty) = SortedMap.empty := rfl

theorem ensureIndexed_memory (user space : String) (s : State Memory) :
    ∃ s', ensureIndexed Engine.memory user space s = .ok () s' ∧
      s'.store.database database = s.store.database database := by
  refine ensureIndexed_keeps
    (I := fun m : Memory => m.database database = s.store.database database)
    (fun index m hm => ?_) user space rfl
  obtain ⟨m', hrun, hsame⟩ := Memory.ensureIndex_run m database index
  simp only [Engine.memory, hrun, finalState]
  exact (hsame database).trans hm

theorem lookup_memory (id : String) (s : State Memory) :
    lookup Engine.memory id s = .ok (((docs s).get? id).map (·.doc)) s := by
  simp only [lookup, attempt, bind_apply, Engine.memory, Memory.get_run, docs]
  cases (s.store.database database).get? id <;> rfl

theorem readRecord_ok {σ : Type} {doc : Document} {r : Record} (h : Record.Reads doc r)
    (s : State σ) : readRecord doc s = .ok r s := by
  rw [readRecord, Record.ofDocument_eq_ok_iff.2 h]
  rfl

theorem readRecord_error {σ : Type} {doc : Document} (h : ∀ r, ¬ Record.Reads doc r)
    (s : State σ) : ∃ e, readRecord doc s = .error (.store (.serialization e)) s := by
  rw [readRecord]
  cases hdoc : Record.ofDocument doc with
  | ok r => exact absurd (Record.ofDocument_eq_ok_iff.1 hdoc) (h r)
  | error e => exact ⟨e.message, rfl⟩

def written (s : State Memory) (now : Instant) (id : String) (doc : Document) : State Memory :=
  { s with store := s.store.put database id (s.store.written now database id doc) }

def nextToken (s : State Memory) (id : String) : String :=
  Memory.token (s.store.nextRevision database id)

theorem docs_written (s : State Memory) (now : Instant) (id : String) (doc : Document) :
    docs (written s now id doc) =
      (docs s).insert id (s.store.written now database id doc) := by
  simp [docs, written]

theorem attempt_save (now : Instant) (id : String) (doc : Document) (s : State Memory) :
    attempt (Engine.memory.save now database id doc) s =
      .ok (.ok ⟨id, nextToken s id⟩) (written s now id doc) := rfl

section Operations

variable {user space key : String} {s : State Memory} {now : Instant}

theorem get_absent (h : (docs s).get? (docId user space key) = none) (agent : Option String) :
    get Engine.memory now user space key agent s = .ok none s := by
  simp [get, lookup_memory, h]

theorem get_untagged {stored : StoredDocument}
    (h : (docs s).get? (docId user space key) = some stored) :
    get Engine.memory now user space key none s =
      (do return some (← readRecord stored.doc)) s := by
  simp [get, lookup_memory, h]

theorem get_tagged {stored : StoredDocument} {agent : String} {counted : Document}
    (h : (docs s).get? (docId user space key) = some stored)
    (hcount : Record.countRead stored.doc agent now = some counted) :
    get Engine.memory now user space key (some agent) s =
      (do return some (← readRecord (SortedMap.insert counted Document.revField
        (.str (nextToken s (docId user space key))))))
        (written s now (docId user space key) counted) := by
  simp [get, lookup_memory, h, trackRead, hcount, attempt_save]

theorem nextToken_congr {s s' : State Memory} (h : docs s' = docs s) (id : String) :
    nextToken s' id = nextToken s id := by
  rw [nextToken, nextToken, Memory.nextRevision_congr (congrArg (·.get? id) h)]

theorem docs_written_congr {s s' : State Memory} (h : docs s' = docs s) (now : Instant)
    (id : String) (doc : Document) :
    docs (written s' now id doc) = docs (written s now id doc) := by
  rw [docs_written, docs_written, h, Memory.written_congr (congrArg (·.get? id) h)]

theorem set_absent (h : (docs s).get? (docId user space key) = none) (now : Instant) (value : Json)
    (agent : Option String) (metadata : Option Document) :
    let r := Record.fresh user space key value (metadata.getD SortedMap.empty) agent now
    ∃ s', set Engine.memory now user space key value agent metadata s =
        .ok { r with rev := some (nextToken s (docId user space key)) } s' ∧
      docs s' = docs (written s now (docId user space key) r.toDocument) := by
  intro r
  obtain ⟨s', hrun, hdocs⟩ := ensureIndexed_memory user space s
  have hsame : docs s' = docs s := hdocs
  refine ⟨_, ?_, docs_written_congr hsame now _ r.toDocument⟩
  rw [← nextToken_congr hsame]
  simp only [set, bind_apply, hrun, lookup_memory, hsame, h]
  rfl

theorem set_present {stored : StoredDocument} {r : Record}
    (h : (docs s).get? (docId user space key) = some stored) (hr : Record.Reads stored.doc r)
    (now : Instant) (value : Json) (agent : Option String) (metadata : Option Document) :
    let r := updated r (docId user space key) value agent metadata now
    ∃ s', set Engine.memory now user space key value agent metadata s =
        .ok { r with rev := some (nextToken s (docId user space key)) } s' ∧
      docs s' = docs (written s now (docId user space key) r.toDocument) := by
  intro r'
  obtain ⟨s', hrun, hdocs⟩ := ensureIndexed_memory user space s
  have hsame : docs s' = docs s := hdocs
  refine ⟨_, ?_, docs_written_congr hsame now _ r'.toDocument⟩
  rw [← nextToken_congr hsame]
  simp only [set, bind_apply, hrun, lookup_memory, hsame, h, Option.map_some,
    readRecord_ok hr]
  rfl

def removed (s : State Memory) (id : String) : State Memory :=
  { s with store := s.store.remove database id }

theorem docs_removed (s : State Memory) (id : String) :
    docs (removed s id) = (docs s).erase id := by
  simp [docs, removed]

theorem delete_absent (h : (docs s).get? (docId user space key) = none) :
    delete Engine.memory user space key s = .ok false s := by
  rw [docs] at h
  simp only [delete, attempt, bind_apply, Engine.memory, Memory.delete_run, h]
  rfl

theorem delete_present {stored : StoredDocument}
    (h : (docs s).get? (docId user space key) = some stored) :
    delete Engine.memory user space key s = .ok true (removed s (docId user space key)) := by
  rw [docs] at h
  simp only [delete, attempt, bind_apply, Engine.memory, Memory.delete_run, h]
  rfl

end Operations

end Service

end Keyspace
