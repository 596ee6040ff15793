import Keyspace.Proofs.Record.Reading
import Keyspace.Proofs.Service.Lockstep
import Keyspace.Proofs.Service.Memory

set_option autoImplicit false

namespace Keyspace.Service

variable {user space key : String} {n : Nat} {s : State Memory} {now : Instant}

section Engine

variable {σ : Type} {e : Engine σ} {doc : Document}

theorem get_counted {s : State σ} {store store' : σ} {agent rev : String} {counted : Document}
    (hget : e.get database (docId user space key) s.store = .ok doc store)
    (hcount : Record.countRead doc agent now = some counted)
    (hsave : e.save now database (docId user space key) counted store =
      .ok ⟨docId user space key, rev⟩ store') :
    get e now user space key (some agent) s =
      (do return some (← readRecord (SortedMap.insert counted Document.revField (.str rev))))
        { s with store := store' } := by
  simp [get, lookup, attempt, trackRead, hget, hcount, hsave]

/-- A look-up that comes down to a document leaves the state in which the document was found. Its
answer is what is read of the document. -/
theorem outcome_of_readRecord {agent : Option String} {s s' : State σ}
    (h : get e now user space key agent s = (do return some (← readRecord doc)) s') :
    (outcome e ⟨user, now, .get space key agent⟩ s).2 = s' ∧
      ((outcome e ⟨user, now, .get space key agent⟩ s).1.isOk ↔ ∃ r, Record.Reads doc r) := by
  cases hdoc : Record.ofDocument doc with
  | ok r =>
    have hr := Record.ofDocument_eq_ok_iff.1 hdoc
    have hrun : perform e ⟨user, now, .get space key agent⟩ s = .ok (.record (some r)) s' := by
      simp only [perform, bind_apply, h, readRecord_ok hr]
      rfl
    rw [outcome, hrun]
    exact ⟨rfl, fun _ => ⟨r, hr⟩, fun _ => rfl⟩
  | error err =>
    have hnone : ∀ r, ¬ Record.Reads doc r := fun r hr => by
      rw [Record.ofDocument_eq_ok_iff.2 hr] at hdoc
      cases hdoc
    obtain ⟨message, hread⟩ := readRecord_error hnone s'
    have hrun : perform e ⟨user, now, .get space key agent⟩ s =
        .error (.store (.serialization message)) s' := by
      simp only [perform, bind_apply, h, hread]
    rw [outcome, hrun]
    exact ⟨rfl, iff_of_false (fun hok => by cases hok) (not_exists.2 hnone)⟩

theorem found_of_outcome {s : State σ} {a : Answer}
    (h : (outcome e ⟨user, now, .get space key none⟩ s).1 = .ok a) :
    (∃ doc store r, e.get database (docId user space key) s.store = .ok doc store ∧
        Record.Reads doc r ∧ a = .record (some r)) ∨
      a = .record none ∧ ∃ err store,
        e.get database (docId user space key) s.store = .error err store ∧
          err.isNotFound = true := by
  cases hget : e.get database (docId user space key) s.store with
  | ok doc store =>
    cases hdoc : Record.ofDocument doc with
    | ok r =>
      refine .inl ⟨doc, store, r, rfl, Record.ofDocument_eq_ok_iff.1 hdoc, ?_⟩
      simpa [outcome, perform, get, lookup, attempt, hget, readRecord, hdoc] using h.symm
    | error err => simp [outcome, perform, get, lookup, attempt, hget, readRecord, hdoc] at h
  | error err store =>
    cases hmissing : err.isNotFound with
    | true =>
      refine .inr ⟨?_, err, store, rfl, hmissing⟩
      simpa [outcome, perform, get, lookup, attempt, hget, hmissing] using h.symm
    | false => simp [outcome, perform, get, lookup, attempt, hget, hmissing] at h

theorem store_get_counted {agent : String} {counted : Document} {s : State σ} {store : σ}
    (hget : e.get database (docId user space key) s.store = .ok doc store)
    (hcount : Record.countRead doc agent now = some counted) :
    (finalState (get e now user space key (some agent) s)).store =
      finalState (e.save now database (docId user space key) counted store) := by
  have hread : ∀ (doc : Document) (s : State σ),
      finalState ((do return some (← readRecord doc) : Run σ (Option Record)) s) = s := by
    intro doc s
    simp only [readRecord, bind_apply]
    cases Record.ofDocument doc <;> rfl
  simp only [get, lookup, attempt, trackRead, hcount, hget, bind_apply, pure_apply]
  cases e.save now database (docId user space key) counted store with
  | ok receipt store' => exact congrArg State.store (hread _ _)
  | error err store' => exact congrArg State.store (hread _ _)

theorem outcome_get_state (s : State σ) (agent : Option String) :
    (outcome e ⟨user, now, .get space key agent⟩ s).2 =
      finalState (get e now user space key agent s) := by
  simp only [state_outcome, perform, bind_apply]
  cases get e now user space key agent s <;> rfl

end Engine

/-- A user's key that has been read on behalf of agents so often. -/
def ReadTimes (user space key : String) (n : Nat) (s : State Memory) : Prop :=
  ∃ stored, (docs s).get? (docId user space key) = some stored ∧
    Kept (placesOf user) True (docId user space key) stored.doc ∧
    (Record.readsOf stored.doc).toNat = n

theorem readTimes_written {doc : Document} (hkept : Kept (placesOf user) True
      (docId user space key) doc) (hreads : (Record.readsOf doc).toNat = n) (s : State Memory)
    {s' : State Memory} (hdocs : docs s' = docs (written s now (docId user space key) doc)) :
    ReadTimes user space key n s' := by
  refine ⟨s.store.written now database (docId user space key) doc, ?_, hkept.written _ _, ?_⟩
  · rw [hdocs, docs_written, SortedMap.get?_insert_self]
  · obtain ⟨_, _, _, _, _, hfiled, _⟩ := hkept
    rw [Memory.written, hfiled.stamped_eq, Record.readsOf_insert_rev, hreads]

theorem readTimes_set (hnow : now.InRange)
    (h : (docs s).get? (docId user space key) = none) (value : Json) :
    ReadTimes user space key 0
      (outcome Engine.memory ⟨user, now, .set space key value none none⟩ s).2 := by
  obtain ⟨s', hrun, hdocs⟩ := set_absent h now value none none
  have hstate : (outcome Engine.memory ⟨user, now, .set space key value none none⟩ s).2 = s' := by
    simp only [outcome, perform, bind_apply, hrun]
    rfl
  rw [hstate]
  exact readTimes_written (Kept.fresh rfl rfl value _ none fun _ => hnow)
    (by rw [Record.readsOf_toDocument fun _ _ => rfl]; rfl) s hdocs

theorem ReadTimes.tagged (h : ReadTimes user space key n s) (hroom : n + 1 < 2 ^ 64)
    (hnow : now.InRange) (agent : String) :
    ReadTimes user space key (n + 1)
      (outcome Engine.memory ⟨user, now, .get space key (some agent)⟩ s).2 := by
  obtain ⟨stored, hstored, hkept, hreads⟩ := h
  obtain ⟨c, hcount⟩ : ∃ c, Record.countRead stored.doc agent now = some c :=
    Record.countRead_eq_some_iff.2 (hreads.symm ▸ hroom)
  rw [(outcome_of_readRecord (get_tagged hstored hcount)).1]
  exact readTimes_written (hkept.counted hcount fun _ => hnow)
    (by rw [Record.readsOf_countRead hcount, hreads]) s rfl

theorem ReadTimes.replicate (h : ReadTimes user space key n s) {count : Nat}
    (hroom : n + count < 2 ^ 64) (hnow : now.InRange) (agent : String) :
    ReadTimes user space key (n + count)
      (after Engine.memory (List.replicate count ⟨user, now, .get space key (some agent)⟩) s) := by
  induction count generalizing n s with
  | zero => exact h
  | succ count ih =>
    rw [Nat.add_succ, ← Nat.succ_add] at hroom ⊢
    exact ih (h.tagged (by omega) hnow agent) hroom

theorem ReadTimes.isOk (h : ReadTimes user space key n s) :
    (outcome Engine.memory ⟨user, now, .get space key none⟩ s).1.isOk := by
  obtain ⟨stored, hstored, ⟨_, _, _, _, _, _, hreadable⟩, -⟩ := h
  obtain ⟨r, hr, -⟩ := hreadable trivial
  exact (outcome_of_readRecord (get_untagged hstored)).2.2 ⟨r, hr⟩

def setAndRead (user space key agent : String) (now : Instant) (n : Nat) : List Request :=
  ⟨user, now, .set space key .null none none⟩ ::
    List.replicate n ⟨user, now, .get space key (some agent)⟩

theorem setAndRead_succ (user space key agent : String) (now : Instant) (n : Nat) :
    setAndRead user space key agent now (n + 1) =
      setAndRead user space key agent now n ++ [⟨user, now, .get space key (some agent)⟩] := by
  rw [setAndRead, setAndRead, List.replicate_succ', List.cons_append]

theorem taggedReads_setAndRead (user space key agent : String) (now : Instant) (n : Nat) :
    taggedReads (setAndRead user space key agent now n) = n := by
  simp [taggedReads, setAndRead, Operation.taggedReads, readCost]

theorem within_setAndRead {allowed : String → String → String → Prop}
    (hplace : allowed user space key) (hnamed : allowed user (Record.named space) key)
    (agent : String) (now : Instant) (n : Nat) :
    ∀ r ∈ setAndRead user space key agent now n, r.operation.Within (allowed r.user) := by
  intro r hr
  rcases List.mem_cons.1 hr with rfl | hr
  · exact ⟨hplace, hnamed⟩
  · rw [(List.mem_replicate.1 hr).2]
    exact hplace

theorem writes_setAndRead {kind : Json → Prop} (hnull : kind .null)
    (user space key agent : String) (now : Instant) (n : Nat) :
    ∀ r ∈ setAndRead user space key agent now n, r.operation.Writes kind := by
  intro r hr
  rcases List.mem_cons.1 hr with rfl | hr
  · exact ⟨hnull, fun m hm => by cases hm⟩
  · rw [(List.mem_replicate.1 hr).2]
    trivial

theorem readTimes_setAndRead (user space key agent : String) (hnow : now.InRange)
    (hn : n < 2 ^ 64) :
    ReadTimes user space key n
      (after Engine.memory (setAndRead user space key agent now n) (start Memory.empty)) := by
  have hset : ReadTimes user space key 0 (outcome Engine.memory
      ⟨user, now, .set space key .null none none⟩ (start Memory.empty)).2 :=
    readTimes_set hnow rfl .null
  have hreads := hset.replicate (by rwa [Nat.zero_add]) hnow agent
  rwa [Nat.zero_add] at hreads

end Keyspace.Service
