import Keyspace.Engine.Observed
import Keyspace.Proofs.Service.Calls
import Keyspace.Proofs.Service.Listing

set_option autoImplicit false

namespace Keyspace.Service

abbrev WatchedState := State (Observed Memory)

abbrev watched : Engine (Observed Memory) := Engine.memory.observed

def inMemory (s : WatchedState) : State Memory := ⟨s.store.inner, s.indexed⟩

def fates (s : WatchedState) : List (Option StoreError) := s.store.schedule.save

def OnlyWritesFail (s : WatchedState) : Prop := s.store.schedule = { save := fates s }

def NextWriteReaches (faults : List (Option StoreError)) : Prop := faults.head?.join = none

instance (faults : List (Option StoreError)) : Decidable (NextWriteReaches faults) :=
  inferInstanceAs (Decidable (faults.head?.join = none))

structure Unchanged (s s' : WatchedState) : Prop where
  docs : docs (inMemory s') = docs (inMemory s)
  schedule : s'.store.schedule = s.store.schedule

namespace Unchanged

variable {s s' s'' : WatchedState}

theorem trans (h : Unchanged s s') (h' : Unchanged s' s'') : Unchanged s s'' :=
  ⟨h'.docs.trans h.docs, h'.schedule.trans h.schedule⟩

theorem fates_eq (h : Unchanged s s') : fates s' = fates s := by
  rw [fates, fates, h.schedule]

theorem onlyWritesFail (h : Unchanged s s') (hs : OnlyWritesFail s) : OnlyWritesFail s' := by
  rw [OnlyWritesFail, h.schedule, h.fates_eq]
  exact hs

end Unchanged

structure Saved (s s' : WatchedState) (now : Instant) (id : String) (doc : Document) : Prop where
  docs : docs (inMemory s') =
    if NextWriteReaches (fates s) then docs (written (inMemory s) now id doc)
    else docs (inMemory s)
  schedule : s'.store.schedule = { save := (fates s).tail }

variable {s : WatchedState} {user space key : String} {now : Instant}

theorem Saved.onlyWritesFail {s' : WatchedState} {id : String} {doc : Document}
    (h : Saved s s' now id doc) : OnlyWritesFail s' := by
  rw [OnlyWritesFail, fates, h.schedule]

theorem observe_run {α : Type} {store : Observed Memory} {faults : List (Option StoreError)}
    (h : store.schedule = { save := faults }) (call : Call) (action : Action Memory α)
    (hcall : ∀ db id, call ≠ .save db id) :
    Observed.observe call action store = match action store.inner with
      | .ok a inner => .ok a ⟨inner, store.calls ++ [call], store.schedule⟩
      | .error e inner => .error e ⟨inner, store.calls ++ [call], store.schedule⟩ := by
  have hnext : store.schedule.next call = (none, store.schedule) := by
    rw [h]
    cases call with
    | save db id => exact absurd rfl (hcall db id)
    | get | delete | listAll | find | ensureIndex => rfl
  simp only [Observed.observe, hnext]
  cases action store.inner <;> rfl

theorem lookup_watched (h : OnlyWritesFail s) (id : String) :
    ∃ s', lookup watched id s = .ok (((docs (inMemory s)).get? id).map (·.doc)) s' ∧
      Unchanged s s' := by
  have hget : s.store.inner.database database = docs (inMemory s) := rfl
  simp only [lookup, attempt, bind_apply, watched, Engine.observed,
    observe_run h (.get _ _) _ (by simp), Engine.memory, Memory.get_run, hget]
  cases (docs (inMemory s)).get? id with
  | none => exact ⟨_, rfl, rfl, rfl⟩
  | some stored => exact ⟨_, rfl, rfl, rfl⟩

theorem save_watched (h : OnlyWritesFail s) (now : Instant) (id : String) (doc : Document) :
    ∃ store', Saved s ⟨store', s.indexed⟩ now id doc ∧
      ((NextWriteReaches (fates s) ∧ ∃ receipt,
          watched.save now database id doc s.store = .ok receipt store') ∨
        (¬ NextWriteReaches (fates s) ∧ ∃ e,
          watched.save now database id doc s.store = .error e store')) := by
  have hnext : s.store.schedule.next (.save database id) =
      ((fates s).head?.join, { save := (fates s).tail }) := by
    rw [OnlyWritesFail] at h
    rw [h]
    rfl
  simp only [watched, Engine.observed, Observed.observe, hnext, Engine.memory, Memory.save_run]
  cases hfate : (fates s).head?.join with
  | none => exact ⟨_, ⟨(if_pos hfate).symm, rfl⟩, .inl ⟨hfate, _, rfl⟩⟩
  | some e =>
    have hmissed : ¬ NextWriteReaches (fates s) := by simp [NextWriteReaches, hfate]
    exact ⟨⟨s.store.inner, s.store.calls ++ [.save database id], { save := (fates s).tail }⟩,
      ⟨(if_neg hmissed).symm, rfl⟩, .inr ⟨hmissed, e, rfl⟩⟩

theorem attempt_save_watched (h : OnlyWritesFail s) (now : Instant) (id : String)
    (doc : Document) :
    ∃ r s', attempt (watched.save now database id doc) s = .ok r s' ∧ Saved s s' now id doc := by
  obtain ⟨store', hsaved, ⟨_, receipt, hrun⟩ | ⟨_, e, hrun⟩⟩ := save_watched h now id doc
  · exact ⟨.ok receipt, _, by rw [attempt, hrun], hsaved⟩
  · exact ⟨.error e, _, by rw [attempt, hrun], hsaved⟩

theorem onStore_save_watched (h : OnlyWritesFail s) (now : Instant) (id : String)
    (doc : Document) :
    ∃ s', Saved s s' now id doc ∧
      ((NextWriteReaches (fates s) ∧ ∃ receipt,
          onStore (watched.save now database id doc) s = .ok receipt s') ∨
        (¬ NextWriteReaches (fates s) ∧ ∃ e,
          onStore (watched.save now database id doc) s = .error e s')) := by
  obtain ⟨store', hsaved, ⟨hreaches, receipt, hrun⟩ | ⟨hmissed, e, hrun⟩⟩ :=
    save_watched h now id doc
  · exact ⟨_, hsaved, .inl ⟨hreaches, receipt, by rw [onStore, hrun]⟩⟩
  · exact ⟨_, hsaved, .inr ⟨hmissed, .store e, by rw [onStore, hrun]⟩⟩

theorem delete_watched (h : OnlyWritesFail s) (user space key : String) :
    ∃ s', delete watched user space key s =
        .ok ((docs (inMemory s)).get? (docId user space key)).isSome s' ∧
      docs (inMemory s') = (docs (inMemory s)).erase (docId user space key) ∧
      s'.store.schedule = s.store.schedule := by
  have hget : s.store.inner.database database = docs (inMemory s) := rfl
  simp only [delete, attempt, bind_apply, watched, Engine.observed,
    observe_run h (.delete _ _) _ (by simp), Engine.memory, Memory.delete_run, hget]
  cases hstored : (docs (inMemory s)).get? (docId user space key) with
  | none => exact ⟨_, rfl, (SortedMap.erase_eq_self hstored).symm, rfl⟩
  | some stored => exact ⟨_, rfl, docs_removed (inMemory s) _, rfl⟩

theorem find_watched (h : OnlyWritesFail s) {selector : Selector}
    (hselector : selector.validate = .ok ()) (fields : Option (List String)) (limit : Nat) :
    ∃ s', onStore (watched.find database selector fields limit) s =
        .ok (selector.select fields limit (s.store.inner.documents database)) s' ∧
      Unchanged s s' := by
  have hfind := Memory.find_run s.store.inner database hselector fields limit
  simp only [onStore, watched, Engine.observed, observe_run h (.find _ _ _ _) _ (by simp), hfind]
  exact ⟨_, rfl, rfl, rfl⟩

theorem ensureIndexed_watched (h : OnlyWritesFail s) (user space : String) :
    ∃ s', ensureIndexed watched user space s = .ok () s' ∧ Unchanged s s' := by
  let I := fun store : Observed Memory =>
    store.inner.database database = s.store.inner.database database ∧
      store.schedule = s.store.schedule
  have hindex : ∀ index store, I store →
      I (finalState (watched.ensureIndex database index store)) := by
    rintro index store ⟨hdocs, hschedule⟩
    obtain ⟨m', hrun, hsame⟩ := Memory.ensureIndex_run store.inner database index
    simp only [watched, Engine.observed,
      observe_run (hschedule.trans h) (.ensureIndex _ _) _ (by simp), Engine.memory, hrun]
    exact ⟨(hsame database).trans hdocs, hschedule⟩
  obtain ⟨s', hrun, hdocs, hschedule⟩ := ensureIndexed_keeps hindex user space ⟨rfl, rfl⟩
  exact ⟨s', hrun, hdocs, hschedule⟩

def saveRecord (now : Instant) (id : String) (r : Record) : Run (Observed Memory) Record := do
  let receipt ← onStore (watched.save now database id r.toDocument)
  return { r with rev := some receipt.rev }

theorem saveRecord_watched (h : OnlyWritesFail s) (now : Instant) (id : String) (r : Record) :
    ∃ s', Saved s s' now id r.toDocument ∧
      ((NextWriteReaches (fates s) ∧ ∃ r', saveRecord now id r s = .ok r' s') ∨
        (¬ NextWriteReaches (fates s) ∧ ∃ e, saveRecord now id r s = .error e s')) := by
  unfold saveRecord
  simp only [bind_apply]
  obtain ⟨s', hsaved, ⟨hreaches, receipt, hrun⟩ | ⟨hmissed, e, hrun⟩⟩ :=
    onStore_save_watched h now id r.toDocument
  · exact ⟨s', hsaved, .inl ⟨hreaches, _, by rw [hrun]; rfl⟩⟩
  · exact ⟨s', hsaved, .inr ⟨hmissed, e, by rw [hrun]⟩⟩

theorem saveRecord_reaches (h : OnlyWritesFail s) (hreaches : NextWriteReaches (fates s))
    (now : Instant) (id : String) (r : Record) :
    ∃ rev s', saveRecord now id r s = .ok { r with rev := some rev } s' ∧
      Saved s s' now id r.toDocument := by
  obtain ⟨s', hsaved, ⟨_, receipt, hrun⟩ | ⟨hmissed, _⟩⟩ :=
    onStore_save_watched h now id r.toDocument
  · refine ⟨receipt.rev, s', ?_, hsaved⟩
    simp only [saveRecord, bind_apply, hrun]
    rfl
  · exact absurd hreaches hmissed

/-- To set a key is to save a new record, or the one that is there with the new value. -/
theorem set_watched (h : OnlyWritesFail s) (now : Instant) (user space key : String) (value : Json)
    (agent : Option String) (metadata : Option Document) :
    ∃ s', Unchanged s s' ∧ set watched now user space key value agent metadata s =
      match (docs (inMemory s)).get? (docId user space key) with
      | none => saveRecord now (docId user space key)
          (Record.fresh user space key value (metadata.getD SortedMap.empty) agent now) s'
      | some stored => match Record.ofDocument stored.doc with
        | .ok r => saveRecord now (docId user space key)
            (updated r (docId user space key) value agent metadata now) s'
        | .error e => .error (.store (.serialization e.message)) s' := by
  obtain ⟨s₁, hindexed, hsame₁⟩ := ensureIndexed_watched h user space
  obtain ⟨s₂, hlookup, hsame₂⟩ :=
    lookup_watched (hsame₁.onlyWritesFail h) (docId user space key)
  refine ⟨s₂, hsame₁.trans hsame₂, ?_⟩
  rw [hsame₁.docs] at hlookup
  simp only [set, bind_apply, hindexed, hlookup]
  cases (docs (inMemory s)).get? (docId user space key) with
  | none => rfl
  | some stored =>
    simp only [Option.map_some, readRecord]
    cases Record.ofDocument stored.doc with
    | ok r => rfl
    | error e => rfl

end Keyspace.Service
