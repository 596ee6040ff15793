import Keyspace.Proofs.Lockstep
import Keyspace.Service

set_option autoImplicit false

namespace Keyspace.Service

variable {σ : Type}

inductive Drafted (user space key : String) (value : Json) (agent : Option String)
    (metadata : Option Document) (now : Instant) : Option Document → Record → Prop where
  | update {doc : Document} {existing : Record} (h : Record.ofDocument doc = .ok existing) :
    Drafted user space key value agent metadata now (some doc)
      (updated existing (docId user space key) value agent metadata now)
  | create : Drafted user space key value agent metadata now none
      (Record.fresh user space key value (metadata.getD SortedMap.empty) agent now)

def draft (engine : Engine σ) (now : Instant) (user space key : String) (value : Json)
    (agent : Option String) (metadata : Option Document) : Run σ Record := do
  ensureIndexed engine user space
  match ← lookup engine (docId user space key) with
  | some doc =>
    let existing ← readRecord doc
    return updated existing (docId user space key) value agent metadata now
  | none => return Record.fresh user space key value (metadata.getD SortedMap.empty) agent now

def commit (engine : Engine σ) (now : Instant) (id : String) (record : Record) : Run σ Record := do
  let receipt ← onStore (engine.save now database id record.toDocument)
  return { record with rev := some receipt.rev }

theorem set_eq (engine : Engine σ) (now : Instant) (user space key : String) (value : Json)
    (agent : Option String) (metadata : Option Document) :
    set engine now user space key value agent metadata =
      draft engine now user space key value agent metadata >>=
        commit engine now (docId user space key) := by
  simp only [set, draft, bind_assoc]
  refine bind_congr fun _ => bind_congr fun found => ?_
  cases found with
  | none => rfl
  | some doc => rw [bind_assoc]; rfl

theorem store_commit (engine : Engine σ) (now : Instant) (id : String) (record : Record)
    (s : State σ) :
    (finalState (commit engine now id record s)).store =
      finalState (engine.save now database id record.toDocument s.store) := by
  simp only [commit, onStore, bind_apply]
  cases engine.save now database id record.toDocument s.store <;> rfl

theorem commit_of_error {engine : Engine σ} {now : Instant} {id : String} {record : Record}
    {s : State σ} {e : StoreError} {store : σ}
    (h : engine.save now database id record.toDocument s.store = .error e store) :
    commit engine now id record s = .error (.store e) { s with store := store } := by
  simp only [commit, onStore, bind_apply, h]

theorem commit_ok {engine : Engine σ} {now : Instant} {id : String} {record saved : Record}
    {s s' : State σ} (h : commit engine now id record s = .ok saved s') :
    ∃ receipt, engine.save now database id record.toDocument s.store = .ok receipt s'.store := by
  simp only [commit, onStore, bind_apply] at h
  cases hsave : engine.save now database id record.toDocument s.store with
  | ok receipt store =>
    rw [hsave] at h
    cases h
    exact ⟨receipt, rfl⟩
  | error e store =>
    rw [hsave] at h
    cases h

end Keyspace.Service
