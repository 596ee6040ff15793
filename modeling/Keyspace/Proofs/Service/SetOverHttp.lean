import Keyspace.Proofs.Json.Reread
import Keyspace.Proofs.Service.Reads
import Keyspace.Proofs.Service.SetThenGet

set_option autoImplicit false

namespace Keyspace.Service

variable {σ : Type} {e : Engine σ} {user space key : String} {value : Json}

def setThen (user space key : String) (value : Json) (o : Operation) : List Request :=
  [⟨user, Instant.epoch, .set space key value none none⟩] ++ [⟨user, Instant.epoch, o⟩]

def afterSet (e : Engine σ) (user space key : String) (value : Json) (s : State σ) : State σ :=
  after e [⟨user, Instant.epoch, .set space key value none none⟩] s

theorem outcome_afterSet_memory (user space key : String) (value : Json) :
    ∃ r, (outcome Engine.memory ⟨user, Instant.epoch, .get space key none⟩
      (afterSet Engine.memory user space key value (start Memory.empty))).1 =
        .ok (.record (some r)) ∧ r.value = value := by
  have hreads : ReadsBack (start Memory.empty) Instant.epoch Instant.epoch user space key value none
      none := (readsBack_iff _ (by decide) ..).2 fun doc hdoc => by cases hdoc
  have hnone : (docs (start Memory.empty)).get? (docId user space key) = none := rfl
  obtain ⟨s, hset, -⟩ := set_absent hnone Instant.epoch value none none
  obtain ⟨r, s', hget, hvalue⟩ := hreads _ _ hset
  refine ⟨r, ?_, hvalue⟩
  simp [afterSet, after, outcome, perform, hset, hget]

/-- An engine that answers as the memory does has found a document that shows the value. -/
theorem exists_value_of_agree {Q : Answer → Answer → Prop}
    (hQ : ∀ r a, Q (.record (some r)) a → ∃ r', a = .record (some r') ∧ r'.value = r.value)
    {t : State σ}
    (h : List.Forall₂ (fun x y => x.1 = y.1 ∧ Agree Q x.2 y.2)
      (transcript Engine.memory (setThen user space key value (.get space key none))
        (start Memory.empty))
      (transcript e (setThen user space key value (.get space key none)) t)) :
    ∃ d store, e.get database (docId user space key) (afterSet e user space key value t).store =
      .ok d store ∧ d.field Record.valueField = value := by
  by_contra hnone
  refine not_forall₂_transcript _ (fun hagree => hnone ?_) h
  obtain ⟨r, hmemory, hvalue⟩ := outcome_afterSet_memory user space key value
  rw [afterSet] at hmemory
  rw [hmemory] at hagree
  generalize hanswer : (outcome e ⟨user, Instant.epoch, .get space key none⟩
    (after e [⟨user, Instant.epoch, .set space key value none none⟩] t)).1 = answer at hagree
  cases hagree with
  | ok hq =>
    obtain ⟨r', rfl, hsame⟩ := hQ _ _ hq
    rcases found_of_outcome hanswer with ⟨d, store, r'', hget, hreads, hrecord⟩ | ⟨habsent, -⟩
    · cases hrecord
      exact ⟨d, store, hget, hreads.value.trans (hsame.trans hvalue)⟩
    · cases habsent

theorem isOk_getAll_memory (user space : String) (s : State Memory) :
    (outcome Engine.memory ⟨user, Instant.epoch, .getAll space none⟩ s).1.isOk := by
  have hfind := Memory.find_run s.store database (validate_spaceSelector user space) none findLimit
  simp only [outcome, perform, getAll, onStore, bind_apply, hfind]
  rfl

/-- Where nothing is found under a key, a set of it saves a document that shows the value. -/
theorem store_afterSet {I : σ → Prop}
    (hindex : ∀ index s, I s → I (finalState (e.ensureIndex database index s)))
    (hget : ∀ s, I s → ∃ s', I s' ∧ e.get database (docId user space key) s =
      .error (.notFound database (docId user space key)) s') (value : Json) {s : State σ}
    (hs : I s.store) :
    ∃ store doc, I store ∧ doc.get? Record.valueField = some value ∧
      (afterSet e user space key value s).store =
        finalState (e.save Instant.epoch database (docId user space key) doc store) := by
  obtain ⟨s', hensure, hs'⟩ := ensureIndexed_keeps hindex user space hs
  obtain ⟨store, hstore, hmissing⟩ := hget s'.store hs'
  refine ⟨store, (Record.fresh user space key value SortedMap.empty none Instant.epoch).toDocument,
    hstore, Record.get?_toDocument (fun _ _ => rfl) (by simp [Record.entries, Record.fresh]), ?_⟩
  have hdraft : draft e Instant.epoch user space key value none none s =
      .ok (Record.fresh user space key value SortedMap.empty none Instant.epoch)
        { s' with store := store } := by
    simp [draft, hensure, lookup, attempt, hmissing, StoreError.isNotFound]
  have hperform : afterSet e user space key value s = finalState
      (set e Instant.epoch user space key value none none s) := by
    simp only [afterSet, after, List.foldl_cons, List.foldl_nil, state_outcome, perform, bind_apply]
    cases set e Instant.epoch user space key value none none s <;> rfl
  rw [hperform, set_eq, bind_apply, hdraft]
  exact store_commit ..

def nested : Nat → Json
  | 0 => .null
  | n + 1 => .arr [nested n]

/-- The double of the shortest text 194.66820414791826, which is read as the one next to it. -/
def unsteady : Json := .num (.float ⟨false, 4641053295092845449, by decide⟩)

theorem reread_unsteady : unsteady.reread ≠ unsteady := by decide +kernel

theorem depth_nested (n : Nat) : (nested n).depth = n := by
  induction n with
  | zero => rfl
  | succ n ih => simp [nested, Json.depth, Json.depthItems, ih]

end Keyspace.Service
