import Keyspace.Proofs.Runs
import Keyspace.Proofs.Service.Draft
import Keyspace.Proofs.Service.Request

set_option autoImplicit false

namespace Keyspace.Service

variable {σ α : Type}

/-- States with related stores, and the same indexed namespaces. -/
def Between (R : σ → σ → Prop) (s s' : State σ) : Prop :=
  R s.store s'.store ∧ s'.indexed = s.indexed

instance {R : σ → σ → Prop} [IsPreorder σ R] : IsPreorder (State σ) (Between R) where
  refl s := ⟨refl s.store, rfl⟩
  trans _ _ _ h h' := ⟨trans_of R h.1 h'.1, h'.2.trans h.2⟩

/-- Calls of an engine that keep a relation, whatever comes of them: all but those about indexes,
with what the data store gives them. -/
structure CallsKeep (engine : Engine σ) (R : σ → σ → Prop) : Prop where
  preorder : IsPreorder σ R
  get : ∀ id, Runs R (fun _ => True) (engine.get database id)
  save : ∀ now id doc, Runs R (fun _ => True) (engine.save now database id doc)
  delete : ∀ id, Runs R (fun _ => True) (engine.delete database id)
  find : ∀ selector fields, Runs R (fun _ => True) (engine.find database selector fields findLimit)

/-- An operation that keeps what its calls keep. -/
abbrev Keeps (R : σ → σ → Prop) (x : Run σ α) : Prop := Runs (Between R) (fun _ => True) x

variable {engine : Engine σ} {R : σ → σ → Prop}

theorem Keeps.store {x : Run σ α} (h : Keeps R x) :
    Runs (fun s s' : State σ => R s.store s'.store) (fun _ => True) x := fun s =>
  ⟨(h s).1.1, fun _ _ _ => trivial⟩

theorem keeps_attempt {action : Action σ α} (h : Runs R (fun _ => True) action) :
    Keeps R (attempt action) := by
  intro s
  obtain ⟨hfirst, -⟩ := h s.store
  unfold attempt
  cases hrun : action s.store <;> rw [hrun] at hfirst <;> exact ⟨⟨hfirst, rfl⟩, nofun⟩

theorem onStore_eq_ok_iff {action : Action σ α} {a : α} {s s' : State σ} :
    onStore action s = .ok a s' ↔
      ∃ store, action s.store = .ok a store ∧ s' = { s with store := store } := by
  unfold onStore
  cases action s.store <;> simp [eq_comm]

/-- An attempt is answered, and leaves the state that its action leaves. -/
theorem exists_attempt (action : Action σ α) (s : State σ) :
    ∃ r, attempt action s = .ok r { s with store := finalState (action s.store) } := by
  unfold attempt
  cases action s.store <;> exact ⟨_, rfl⟩

theorem writeBack_cons {now : Instant} {id : String} {doc : Document}
    {r : Except StoreError Receipt} {s s' : State σ}
    (hsave : attempt (engine.save now database id doc) s = .ok r s')
    (rest : List (String × Document)) :
    writeBack engine now ((id, doc) :: rest) s = writeBack engine now rest s' := by
  have hcons : writeBack engine now ((id, doc) :: rest) =
      ((attempt (engine.save now database id doc) >>= fun _ => pure ()) >>= fun _ =>
        writeBack engine now rest) := rfl
  rw [hcons]
  simp only [bind_apply, hsave, pure_apply]

theorem keeps_onStore {action : Action σ α} (h : Runs R (fun _ => True) action) :
    Keeps R (onStore action) := by
  intro s
  obtain ⟨hfirst, -⟩ := h s.store
  unfold onStore
  cases hrun : action s.store <;> rw [hrun] at hfirst <;>
    exact ⟨⟨hfirst, rfl⟩, fun _ _ _ => trivial⟩

theorem keeps_readRecord [IsPreorder σ R] (doc : Document) : Keeps R (readRecord doc) := by
  unfold readRecord
  split
  · exact .pure
  · exact .throw trivial

theorem readRecord_eq_ok_iff {doc : Document} {r : Record} {s s' : State σ} :
    readRecord doc s = .ok r s' ↔ Record.ofDocument doc = .ok r ∧ s' = s := by
  unfold readRecord
  cases Record.ofDocument doc with
  | ok record => simp [eq_comm]
  | error e => simp

theorem keeps_lookup [IsPreorder σ R] {id : String}
    (h : Runs R (fun _ => True) (engine.get database id)) : Keeps R (lookup engine id) := by
  refine (keeps_attempt h).bind fun outcome => ?_
  cases outcome with
  | ok doc => exact .pure
  | error e =>
    dsimp only
    split
    · exact .pure
    · exact .throw trivial

theorem keeps_get_untagged [IsPreorder σ R] {user space key : String}
    (h : Runs R (fun _ => True) (engine.get database (docId user space key))) (now : Instant) :
    Keeps R (Service.get engine now user space key none) := by
  refine (keeps_lookup h).bind fun found => ?_
  cases found with
  | none => exact .pure
  | some doc => exact (keeps_readRecord doc).bind fun _ => .pure

theorem lookup_ok {id : String} {found : Option Document} {s s' : State σ}
    (h : lookup engine id s = .ok found s') :
    (∃ doc, found = some doc ∧ engine.get database id s.store = .ok doc s'.store) ∨
      (found = none ∧ ∃ e, engine.get database id s.store = .error e s'.store ∧
        e.isNotFound = true) := by
  simp only [lookup, attempt, bind_apply] at h
  cases hget : engine.get database id s.store with
  | ok doc store =>
    rw [hget] at h
    cases h
    exact .inl ⟨doc, rfl, rfl⟩
  | error e store =>
    rw [hget] at h
    dsimp only at h
    split at h
    · rename_i hmissing
      cases h
      exact .inr ⟨rfl, e, rfl, hmissing⟩
    · cases h

theorem lookup_of_get {now : Instant} {user space key : String} {agent : Option String}
    {s s' : State σ} (h : Service.get engine now user space key agent s = .ok none s') :
    lookup engine (docId user space key) s = .ok none s' := by
  obtain ⟨found, s₁, hlookup, h⟩ := bind_eq_ok_iff.1 h
  cases found with
  | none =>
    cases h
    exact hlookup
  | some doc =>
    cases agent <;>
    · obtain ⟨counted, s₂, -, h⟩ := bind_eq_ok_iff.1 h
      obtain ⟨record, s₃, -, h⟩ := bind_eq_ok_iff.1 h
      cases h

theorem delete_ok {user space key : String} {found : Bool} {s s' : State σ}
    (h : delete engine user space key s = .ok found s') :
    (found = true ∧ engine.delete database (docId user space key) s.store = .ok () s'.store) ∨
      (found = false ∧ ∃ e, engine.delete database (docId user space key) s.store =
        .error e s'.store ∧ e.isNotFound = true) := by
  simp only [delete, attempt, bind_apply] at h
  cases hdelete : engine.delete database (docId user space key) s.store with
  | ok u store =>
    rw [hdelete] at h
    cases h
    exact .inl ⟨rfl, rfl⟩
  | error e store =>
    rw [hdelete] at h
    dsimp only at h
    split at h
    · rename_i hmissing
      cases h
      exact .inr ⟨rfl, e, rfl, hmissing⟩
    · cases h

theorem delete_error {user space key : String} {f : Failure} {s s' : State σ}
    (h : delete engine user space key s = .error f s') :
    ∃ e store, engine.delete database (docId user space key) s.store = .error e store ∧
      e.isNotFound = false ∧ f = .store e ∧ s' = { s with store := store } := by
  simp only [delete, attempt, bind_apply] at h
  cases hdelete : engine.delete database (docId user space key) s.store with
  | ok u store =>
    rw [hdelete] at h
    cases h
  | error e store =>
    rw [hdelete] at h
    dsimp only at h
    split at h
    · cases h
    · rename_i hother
      cases h
      exact ⟨e, store, rfl, by simpa using hother, rfl, rfl⟩

instance [IsPreorder σ R] : IsPreorder (State σ) fun s s' => R s.store s'.store where
  refl s := refl s.store
  trans _ _ _ h h' := trans_of R h h'

theorem runs_ensureIndexed [IsPreorder σ R]
    (hindex : ∀ index, Runs R (fun _ => True) (engine.ensureIndex database index))
    (user space : String) :
    Runs (fun s s' : State σ => R s.store s'.store) (fun _ => True)
      (ensureIndexed engine user space) := by
  refine .ensure (.forM fun index _ => ?_) (fun s => refl s.store) fun _ _ h => h
  exact (Keeps.store (keeps_attempt (hindex index))).bind fun _ => .pure

theorem runs_draft [IsPreorder σ R]
    (hindex : ∀ index, Runs R (fun _ => True) (engine.ensureIndex database index))
    (hget : ∀ id, Runs R (fun _ => True) (engine.get database id)) (now : Instant)
    (user space key : String) (value : Json) (agent : Option String) (metadata : Option Document) :
    Runs (fun s s' : State σ => R s.store s'.store) (fun _ => True)
      (draft engine now user space key value agent metadata) := by
  refine (runs_ensureIndexed hindex user space).bind fun _ =>
    (Keeps.store (keeps_lookup (hget _))).bind fun found => ?_
  cases found with
  | none => exact .pure
  | some doc => exact (Keeps.store (keeps_readRecord doc)).bind fun _ => .pure

namespace CallsKeep

theorem lookup (h : CallsKeep engine R) (id : String) : Keeps R (lookup engine id) := by
  have := h.preorder
  exact keeps_lookup (h.get id)

theorem trackRead (h : CallsKeep engine R) (now : Instant) (id agent : String) (doc : Document) :
    Keeps R (trackRead engine now id agent doc) := by
  have := h.preorder
  unfold Service.trackRead
  split
  · exact .throw trivial
  · refine (keeps_attempt (h.save now id _)).bind fun outcome => ?_
    cases outcome <;> exact .pure

theorem getRecord (h : CallsKeep engine R) (now : Instant) (user space key : String)
    (agent : Option String) : Keeps R (Service.get engine now user space key agent) := by
  have := h.preorder
  cases agent with
  | none => exact keeps_get_untagged (h.get _) now
  | some agent =>
    refine (h.lookup _).bind fun found => ?_
    cases found with
    | none => exact .pure
    | some doc =>
      exact (h.trackRead now _ agent doc).bind fun counted =>
        (keeps_readRecord counted).bind fun _ => .pure

theorem deleteRecord (h : CallsKeep engine R) (user space key : String) :
    Keeps R (Service.delete engine user space key) := by
  have := h.preorder
  refine (keeps_attempt (h.delete _)).bind fun outcome => ?_
  cases outcome with
  | ok _ => exact .pure
  | error e =>
    dsimp only
    split
    · exact .pure
    · exact .throw trivial

theorem listKeys (h : CallsKeep engine R) (user space : String) (keyPrefix : Option String) :
    Keeps R (listKeys engine user space keyPrefix) := by
  have := h.preorder
  exact (keeps_onStore (h.find _ _)).bind fun _ => .pure

theorem listSpaces (h : CallsKeep engine R) (user : String) :
    Keeps R (listSpaces engine user) := by
  have := h.preorder
  exact (keeps_onStore (h.find _ _)).bind fun _ => .pure

theorem writeBack (h : CallsKeep engine R) (now : Instant) (docs : List (String × Document)) :
    Keeps R (writeBack engine now docs) := by
  have := h.preorder
  exact .forM fun d _ => (keeps_attempt (h.save now d.1 d.2)).bind fun _ => .pure

theorem getAll (h : CallsKeep engine R) (now : Instant) (user space : String)
    (agent : Option String) : Keeps R (getAll engine now user space agent) := by
  have := h.preorder
  refine (keeps_onStore (h.find _ _)).bind fun docs => ?_
  cases agent with
  | none => exact .pure
  | some agent =>
    dsimp only
    split
    · exact Runs.bind (.throw trivial) fun _ => .pure
    · exact (h.writeBack now _).bind fun _ => .pure

theorem getMany (h : CallsKeep engine R) (now : Instant) (user space : String)
    (keys : List String) (agent : Option String) :
    Keeps R (getMany engine now user space keys agent) := by
  have := h.preorder
  refine .foldlM fun found key _ => (h.getRecord now user space key agent).bind fun record => ?_
  cases record <;> exact .pure

theorem clear (h : CallsKeep engine R) (user space : String) :
    Keeps R (clear engine user space) := by
  have := h.preorder
  exact (h.listKeys user space none).bind fun keys => .foldlM fun count key _ =>
    (h.deleteRecord user space key).bind fun _ => .pure

theorem set (h : CallsKeep engine R) (now : Instant) (user space key : String) (value : Json)
    (agent : Option String) (metadata : Option Document) :
    ∃ rest, set engine now user space key value agent metadata =
      (ensureIndexed engine user space >>= fun _ => rest) ∧ Keeps R rest := by
  have := h.preorder
  refine ⟨_, rfl, (h.lookup _).bind fun found => ?_⟩
  cases found with
  | none => exact Runs.pure.bind fun _ => (keeps_onStore (h.save _ _ _)).bind fun _ => .pure
  | some doc =>
    exact (keeps_readRecord doc).bind fun _ => Runs.pure.bind fun _ =>
      (keeps_onStore (h.save _ _ _)).bind fun _ => .pure

end CallsKeep

end Keyspace.Service
