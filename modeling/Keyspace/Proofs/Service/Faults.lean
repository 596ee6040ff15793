import Keyspace.Proofs.Engine.Observed
import Keyspace.Proofs.Service.Calls
import Keyspace.Proofs.Service.Observed

set_option autoImplicit false

namespace Keyspace.Service

def SameDocuments (o o' : Observed Memory) : Prop := o.inner.SameDocuments o'.inner

instance : IsPreorder (Observed Memory) SameDocuments where
  refl o := refl o.inner
  trans _ _ _ h h' := trans_of Memory.SameDocuments h h'

variable {user space key id : String} {value : Json} {agent : Option String}
  {metadata : Option Document} {now : Instant} {o o' : Observed Memory} {s s' : WatchedState}

theorem runs_get_watched (id : String) :
    Runs SameDocuments (fun _ => True) (watched.get database id) :=
  Observed.runs_observe (Memory.runs_get database id) (.get database id)

theorem runs_ensureIndex_watched (index : Index) :
    Runs SameDocuments (fun _ => True) (watched.ensureIndex database index) :=
  Observed.runs_observe (Memory.runs_ensureIndex database index) (.ensureIndex database index)

theorem runs_find_watched {selector : Selector} (h : selector.validate = .ok ())
    (fields : Option (List String)) (limit : Nat) :
    Runs SameDocuments (fun _ => True) (watched.find database selector fields limit) :=
  Observed.runs_observe (Memory.runs_find database h fields limit)
    (.find database selector fields limit)

/-- A write that fails has not reached the memory. -/
theorem save_failed {doc : Document} {e : StoreError}
    (h : watched.save now database id doc o = .error e o') : SameDocuments o o' := by
  change Observed.observe (.save database id) (Memory.save now database id doc) o = _ at h
  rcases (Observed.observe_eq_error_iff.1 h).1 with ⟨-, hsame⟩ | ⟨-, hfails⟩
  · rw [SameDocuments, hsame]
    exact refl o.inner
  · cases hfails

/-- A removal that fails, on purpose or because there is nothing to remove, removes nothing. -/
theorem remove_failed {e : StoreError} (h : watched.delete database id o = .error e o') :
    SameDocuments o o' := by
  change Observed.observe (.delete database id) (Memory.delete database id) o = _ at h
  rcases (Observed.observe_eq_error_iff.1 h).1 with ⟨-, hsame⟩ | ⟨-, hfails⟩
  · rw [SameDocuments, hsame]
    exact refl o.inner
  · rw [Memory.delete_run] at hfails
    split at hfails
    · cases hfails
    · exact congrArg Memory.databases (EStateM.Result.error.inj hfails).2

theorem remove_ok {u : Unit} (h : watched.delete database id o = .ok u o') :
    (o.inner.find? database id).isSome = true ∧ ∀ db other, o'.inner.find? db other =
      if db = database ∧ other = id then none else o.inner.find? db other := by
  change Observed.observe (.delete database id) (Memory.delete database id) o = _ at h
  obtain ⟨-, hrun, -⟩ := Observed.observe_eq_ok_iff.1 h
  rw [Memory.delete_run] at hrun
  split at hrun
  · rename_i stored hstored
    rw [← (EStateM.Result.ok.inj hrun).2]
    exact ⟨by rw [Memory.find?, hstored, Option.isSome_some],
      Memory.find?_remove o.inner database id⟩
  · cases hrun

theorem set_failed {f : Failure}
    (h : set watched now user space key value agent metadata s = .error f s') :
    SameDocuments s.store s'.store := by
  -- Neither the look-up nor the calls about indexes change a document: only the write could.
  have hdraft := (runs_draft runs_ensureIndex_watched runs_get_watched now user space key value
    agent metadata s).1
  rw [set_eq] at h
  rcases bind_eq_error_iff.1 h with hrun | ⟨record, s₁, hrun, hcommit⟩
  · rw [hrun] at hdraft
    exact hdraft
  · rw [hrun] at hdraft
    refine trans_of SameDocuments hdraft ?_
    cases hsave : watched.save now database (docId user space key) record.toDocument s₁.store with
    | ok receipt store =>
      simp [commit, onStore, hsave] at hcommit
    | error e store =>
      rw [commit_of_error hsave] at hcommit
      cases hcommit
      exact save_failed hsave

theorem runs_listKeys_watched (user space : String) (keyPrefix : Option String) :
    Keeps SameDocuments (listKeys watched user space keyPrefix) :=
  (keeps_onStore (runs_find_watched (validate_spaceSelector user space) _ _)).bind fun _ => .pure

end Keyspace.Service
