import Keyspace.Proofs.Engine.Memory
import Keyspace.Proofs.Engine.Observed
import Keyspace.Proofs.Service.Interchangeable
import Keyspace.Proofs.Service.Provisioning

set_option autoImplicit false

namespace Keyspace

open Service

variable {σ τ : Type} {R : σ → τ → Prop} {e : Engine σ} {f : Engine τ}

theorem Engine.Interchangeable.observed (h : Engine.Interchangeable R e f) :
    Engine.Interchangeable (Observed.Beside R fun _ _ => True) e.observed f.observed where
  get id := Observed.lockstep_observe (.get ..) (by simp) (fun _ _ _ => trivial) (h.get id)
  save now id doc :=
    Observed.lockstep_observe (.save ..) (by simp) (fun _ _ _ => trivial) (h.save now id doc)
  delete id := Observed.lockstep_observe (.delete ..) (by simp) (fun _ _ _ => trivial) (h.delete id)
  find selector fields :=
    Observed.lockstep_observe (.find ..) (by simp) (fun _ _ _ => trivial) (h.find selector fields)
  ensureIndex_left index _ _ hst :=
    hst.index_left (h.ensureIndex_left index) fun _ _ _ => trivial
  ensureIndex_right index _ _ hst :=
    (hst.swap.index_left (fun t s => h.ensureIndex_right index s t) fun _ _ _ => trivial).swap

theorem Engine.interchangeable_memory :
    Engine.Interchangeable Memory.SameDocuments Engine.memory Engine.memory where
  get id m m' h := by
    simp only [Engine.memory, Memory.get_run, h.database_eq]
    cases (m'.database database).get? id with
    | none => exact .error h
    | some stored => exact .ok rfl h
  save now id doc m m' h := by
    have hstored : (m.database database).get? id = (m'.database database).get? id := by
      rw [h.database_eq]
    simp only [Engine.memory, Memory.save_run, Memory.nextRevision_congr hstored,
      Memory.written_congr hstored]
    exact .ok rfl (h.put ..)
  delete id m m' h := by
    simp only [Engine.memory, Memory.delete_run, h.database_eq]
    cases (m'.database database).get? id with
    | none => exact .error h
    | some stored => exact .ok rfl (h.remove ..)
  find selector fields := by
    refine Lockstep.bind_eq ?_ fun _ => Lockstep.bind_eq ?_ fun docs => .pure rfl
    · cases selector.validate with
      | ok _ => exact .pure rfl
      | error e => exact .throw e
    · intro m m' h
      exact .ok (by rw [Memory.documents, Memory.documents, h.database_eq]) h
  ensureIndex_left index m _ h := (Memory.SameDocuments.ensureIndex m database index).trans h
  ensureIndex_right index _ m' h :=
    h.trans (Memory.SameDocuments.ensureIndex m' database index).symm

theorem Engine.Interchangeable.noted (h : Engine.Interchangeable R e f) :
    Engine.Interchangeable (fun o t => R o.inner t) e.noted f := by
  have haside : ∀ {α : Type} {x : Action σ α} {y : Action τ α}, Lockstep R Eq x y →
      Lockstep (fun (o : Noted σ) t => R o.inner t) Eq (Noted.aside x) y := by
    intro α x y hxy o t ho
    have hstep := hxy o.inner t ho
    unfold Noted.aside
    generalize x o.inner = r, y t = q at hstep
    cases hstep with
    | ok ha hst => exact .ok ha hst
    | error hst => exact .error hst
  refine
    { get := fun id => haside (h.get id)
      save := fun now id doc => haside (h.save now id doc)
      delete := fun id => haside (h.delete id)
      find := fun selector fields => haside (h.find selector fields)
      ensureIndex_left := fun index o t ho => ?_
      ensureIndex_right := fun index o t ho => h.ensureIndex_right index o.inner t ho }
  have hnext := h.ensureIndex_left index o.inner t ho
  simp only [Engine.noted, Noted.indexing]
  cases hrun : e.ensureIndex database index o.inner <;> rw [hrun] at hnext <;> exact hnext

namespace Service

def Use.reply (engine : Engine σ) (s : State σ) : Use → Option (Except Failure Answer)
  | .request r => some (outcome engine r s).1
  | .indexes => none

def Use.after (engine : Engine σ) (s : State σ) : Use → State σ
  | .request r => (outcome engine r s).2
  | .indexes => finalState (ensureIndexes engine s)

def replies (engine : Engine σ) : List Use → State σ → List (Option (Except Failure Answer))
  | [], _ => []
  | u :: rest, s => u.reply engine s :: replies engine rest (u.after engine s)

def afterAll (engine : Engine σ) (uses : List Use) (s : State σ) : State σ :=
  uses.foldl (Use.after engine) s

theorem Use.reply_eq (h : Engine.Interchangeable R e f) (u : Use) {s : State σ} {t : State τ}
    (hst : Over R s t) :
    u.reply e s = u.reply f t ∧ Over R (u.after e s) (u.after f t) := by
  cases u with
  | request r => exact (outcome_eq h r hst).imp_left (congrArg some)
  | indexes =>
    have hstep := lockstep_ensureIndexes h s t hst
    refine ⟨rfl, ?_⟩
    unfold Use.after
    generalize ensureIndexes e s = x, ensureIndexes f t = y at hstep
    cases hstep with
    | ok _ hst' => exact hst'
    | error hst' => exact hst'

theorem replies_eq (h : Engine.Interchangeable R e f) (uses : List Use) {s : State σ} {t : State τ}
    (hst : Over R s t) :
    replies e uses s = replies f uses t ∧ Over R (afterAll e uses s) (afterAll f uses t) := by
  induction uses generalizing s t with
  | nil => exact ⟨rfl, hst⟩
  | cons u rest ih =>
    obtain ⟨hreply, hleft⟩ := Use.reply_eq h u hst
    obtain ⟨hreplies, hend⟩ := ih hleft
    exact ⟨by rw [replies, replies, hreply, hreplies], hend⟩

theorem afterUses_eq (engine : Engine σ) (uses : List Use) (s : State (Noted σ)) :
    afterUses engine uses s = afterAll engine.noted uses s := by
  have hstep : Use.next engine = Use.after engine.noted := by
    funext s u
    cases u <;> rfl
  rw [afterUses, afterAll, hstep]

theorem replies_noted (store : Observed Memory) (uses : List Use) :
    replies watched.noted uses (start ⟨store, []⟩) = replies watched uses (start store) ∧
      (afterUses watched uses (start ⟨store, []⟩)).store.inner.inner.databases =
        (afterAll watched uses (start store)).store.inner.databases := by
  have hstart : Over (fun (o : Noted (Observed Memory)) store =>
      Observed.Beside Memory.SameDocuments (fun _ _ => True) o.inner store)
      (start ⟨store, []⟩) (start store) := ⟨rfl, rfl, trivial⟩
  obtain ⟨hreplies, hend⟩ := replies_eq Engine.interchangeable_memory.observed.noted uses hstart
  rw [afterUses_eq]
  exact ⟨hreplies, hend.inner⟩

/-- A memory under observation, of whose calls some are to fail; those about indexes on a schedule
of their own. -/
def failing (m : Memory) (schedule : Schedule) (indexFaults : List (Option StoreError)) :
    Observed Memory :=
  Observed.start m { schedule with ensureIndex := indexFaults }

/-- Whatever is in memory, and whatever else fails: which attempts at indexes fail makes no
difference to any reply or to any document, and of two attempts for the same namespace the earlier
one has failed. -/
theorem indexFailures_immaterial (m : Memory) (schedule : Schedule)
    (faults faults' : List (Option StoreError)) (uses : List Use) :
    replies watched uses (start (failing m schedule faults)) =
        replies watched uses (start (failing m schedule faults')) ∧
      (afterAll watched uses (start (failing m schedule faults))).store.inner.databases =
        (afterAll watched uses (start (failing m schedule faults'))).store.inner.databases ∧
      ∀ user space, (madeFor watched (failing m schedule faults) uses user space).Pairwise
        fun earlier _ => earlier = false := by
  have hstart : Over (Observed.Beside Memory.SameDocuments fun _ _ => True)
      (start (failing m schedule faults)) (start (failing m schedule faults')) :=
    ⟨rfl, rfl, trivial⟩
  obtain ⟨hreplies, hend⟩ := replies_eq Engine.interchangeable_memory.observed uses hstart
  refine ⟨hreplies, hend.inner, fun user space => ?_⟩
  -- There is one attempt at most, so none comes before another.
  have hlength : (madeFor watched (failing m schedule faults) uses user space).length ≤ 1 := by
    rw [madeFor, accounted_afterUses watched (failing m schedule faults) uses user space]
    split <;> omega
  generalize madeFor watched (failing m schedule faults) uses user space = made at hlength ⊢
  cases made with
  | nil => exact .nil
  | cons first rest =>
    obtain rfl : rest = [] := by simpa using hlength
    exact List.pairwise_singleton ..

end Service

end Keyspace
