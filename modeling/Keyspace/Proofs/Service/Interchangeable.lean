import Keyspace.Proofs.Service.Alike

set_option autoImplicit false

namespace Keyspace

open Service

variable {σ τ : Type}

/-- Engines whose calls answer the same, or fail the same, from related states on. What comes of a
call about an index does not matter, as long as the states stay related. -/
structure Engine.Interchangeable (R : σ → τ → Prop) (e : Engine σ) (f : Engine τ) : Prop where
  get : ∀ id, Lockstep R Eq (e.get database id) (f.get database id)
  save : ∀ now id doc, Lockstep R Eq (e.save now database id doc) (f.save now database id doc)
  delete : ∀ id, Lockstep R Eq (e.delete database id) (f.delete database id)
  find : ∀ selector fields, Lockstep R Eq (e.find database selector fields findLimit)
    (f.find database selector fields findLimit)
  ensureIndex_left : ∀ index s t, R s t → R (finalState (e.ensureIndex database index s)) t
  ensureIndex_right : ∀ index s t, R s t → R s (finalState (f.ensureIndex database index t))

namespace Service

variable {R : σ → τ → Prop} {e : Engine σ} {f : Engine τ}

theorem lockstep_attempt_eq {α : Type} {x : Action σ α} {y : Action τ α} (h : Lockstep R Eq x y) :
    Lockstep (Over R) Eq (attempt x) (attempt y) :=
  (lockstep_attempt h).imp fun _ _ => Agree.eq

theorem lockstep_readRecord_eq (doc : Document) :
    Lockstep (Over R) Eq (readRecord doc) (readRecord doc) := by
  unfold readRecord
  cases Record.ofDocument doc with
  | ok r => exact .pure rfl
  | error e => exact .throw _

theorem lockstep_ensureIndexes (h : Engine.Interchangeable R e f) :
    Lockstep (Over R) Eq (ensureIndexes e) (ensureIndexes f) :=
  .of_keeps
    (fun _ t => ensureIndexes_keeps fun index store => h.ensureIndex_left index store t.store)
    (fun s _ => ensureIndexes_keeps fun index store => h.ensureIndex_right index s.store store)

theorem lockstep_lookup_eq (h : Engine.Interchangeable R e f) (id : String) :
    Lockstep (Over R) Eq (lookup e id) (lookup f id) := by
  refine (lockstep_attempt_eq (h.get id)).bind_eq fun outcome => ?_
  cases outcome with
  | ok doc => exact .pure rfl
  | error e =>
    dsimp only
    split
    · exact .pure rfl
    · exact .throw _

theorem lockstep_trackRead_eq (h : Engine.Interchangeable R e f) (now : Instant)
    (id agent : String) (doc : Document) :
    Lockstep (Over R) Eq (trackRead e now id agent doc) (trackRead f now id agent doc) := by
  unfold trackRead
  cases Record.countRead doc agent now with
  | none => exact .throw _
  | some counted =>
    refine (lockstep_attempt_eq (h.save now id counted)).bind_eq fun outcome => ?_
    cases outcome <;> exact .pure rfl

theorem lockstep_get_eq (h : Engine.Interchangeable R e f) (now : Instant)
    (user space key : String) (agent : Option String) :
    Lockstep (Over R) Eq (get e now user space key agent) (get f now user space key agent) := by
  refine (lockstep_lookup_eq h _).bind_eq fun found => ?_
  cases found with
  | none => exact .pure rfl
  | some doc =>
    cases agent with
    | none => exact (lockstep_readRecord_eq doc).bind_eq fun _ => .pure rfl
    | some agent =>
      exact (lockstep_trackRead_eq h now _ agent doc).bind_eq fun counted =>
        (lockstep_readRecord_eq counted).bind_eq fun _ => .pure rfl

theorem lockstep_set_eq (h : Engine.Interchangeable R e f) (now : Instant)
    (user space key : String) (value : Json) (agent : Option String) (metadata : Option Document) :
    Lockstep (Over R) Eq (set e now user space key value agent metadata)
      (set f now user space key value agent metadata) := by
  refine (lockstep_ensureIndexed h.ensureIndex_left h.ensureIndex_right user space).bind_eq
    fun _ => (lockstep_lookup_eq h _).bind_eq fun found => ?_
  have hsave : ∀ record : Record, Lockstep (Over R) Eq
      (do
        let receipt ← onStore (e.save now database (docId user space key) record.toDocument)
        return { record with rev := some receipt.rev })
      (do
        let receipt ← onStore (f.save now database (docId user space key) record.toDocument)
        return { record with rev := some receipt.rev }) := fun record =>
    (lockstep_onStore (h.save now _ _)).bind_eq fun _ => .pure rfl
  cases found with
  | none => exact hsave _
  | some doc => exact (lockstep_readRecord_eq doc).bind_eq fun _ => hsave _

theorem lockstep_delete_eq (h : Engine.Interchangeable R e f) (user space key : String) :
    Lockstep (Over R) Eq (delete e user space key) (delete f user space key) := by
  refine (lockstep_attempt_eq (h.delete _)).bind_eq fun outcome => ?_
  cases outcome with
  | ok _ => exact .pure rfl
  | error e =>
    dsimp only
    split
    · exact .pure rfl
    · exact .throw _

theorem lockstep_listKeys_eq (h : Engine.Interchangeable R e f) (user space : String)
    (keyPrefix : Option String) :
    Lockstep (Over R) Eq (listKeys e user space keyPrefix) (listKeys f user space keyPrefix) :=
  (lockstep_onStore (h.find _ _)).bind_eq fun _ => .pure rfl

theorem lockstep_listSpaces_eq (h : Engine.Interchangeable R e f) (user : String) :
    Lockstep (Over R) Eq (listSpaces e user) (listSpaces f user) :=
  (lockstep_onStore (h.find _ _)).bind_eq fun _ => .pure rfl

theorem lockstep_writeBack_eq (h : Engine.Interchangeable R e f) (now : Instant)
    (docs : List (String × Document)) :
    Lockstep (Over R) (fun _ _ => True) (writeBack e now docs) (writeBack f now docs) := by
  refine .forM (Q := Eq) (List.forall₂_refl docs) fun d d' hd => ?_
  subst hd
  exact (lockstep_attempt_eq (h.save now _ _)).bind_eq fun _ => .pure trivial

theorem lockstep_getAll_eq (h : Engine.Interchangeable R e f) (now : Instant)
    (user space : String) (agent : Option String) :
    Lockstep (Over R) Eq (getAll e now user space agent) (getAll f now user space agent) := by
  refine (lockstep_onStore (h.find _ _)).bind_eq fun docs => ?_
  cases agent with
  | none => exact .pure rfl
  | some agent =>
    dsimp only
    cases countReads user space agent now docs with
    | none => exact Lockstep.bind_eq (.throw _) fun _ => .pure rfl
    | some counted => exact (lockstep_writeBack_eq h now counted).bind fun _ _ _ => .pure rfl

theorem lockstep_getMany_eq (h : Engine.Interchangeable R e f) (now : Instant)
    (user space : String) (keys : List String) (agent : Option String) :
    Lockstep (Over R) Eq (getMany e now user space keys agent)
      (getMany f now user space keys agent) := by
  refine .foldlM rfl fun key _ found _ hfound => ?_
  subst hfound
  refine (lockstep_get_eq h now user space key agent).bind_eq fun record => ?_
  cases record <;> exact .pure rfl

theorem lockstep_setMany_eq (h : Engine.Interchangeable R e f) (now : Instant) (user : String)
    (items : List BatchItem) (agent : Option String) :
    Lockstep (Over R) Eq (setMany e now user items agent) (setMany f now user items agent) := by
  refine .foldlM rfl fun item _ count _ hcount => ?_
  subst hcount
  exact (lockstep_set_eq h now user _ _ _ agent _).bind_eq fun _ => .pure rfl

theorem lockstep_clear_eq (h : Engine.Interchangeable R e f) (user space : String) :
    Lockstep (Over R) Eq (clear e user space) (clear f user space) := by
  refine (lockstep_listKeys_eq h user space none).bind_eq fun keys => ?_
  refine .foldlM rfl fun key _ count _ hcount => ?_
  subst hcount
  exact (lockstep_delete_eq h user space key).bind_eq fun _ => .pure rfl

theorem lockstep_perform_eq (h : Engine.Interchangeable R e f) (r : Request) :
    Lockstep (Over R) Eq (perform e r) (perform f r) := by
  obtain ⟨user, now, operation⟩ := r
  cases operation with
  | get space key agent =>
    exact (lockstep_get_eq h now user space key agent).bind_eq fun _ => .pure rfl
  | set space key value agent metadata =>
    exact (lockstep_set_eq h now user space key value agent metadata).bind_eq fun _ => .pure rfl
  | delete space key => exact (lockstep_delete_eq h user space key).bind_eq fun _ => .pure rfl
  | listKeys space keyPrefix =>
    exact (lockstep_listKeys_eq h user space keyPrefix).bind_eq fun _ => .pure rfl
  | listSpaces => exact (lockstep_listSpaces_eq h user).bind_eq fun _ => .pure rfl
  | getAll space agent =>
    exact (lockstep_getAll_eq h now user space agent).bind_eq fun _ => .pure rfl
  | getMany space keys agent =>
    exact (lockstep_getMany_eq h now user space keys agent).bind_eq fun _ => .pure rfl
  | setMany items agent =>
    exact (lockstep_setMany_eq h now user items agent).bind_eq fun _ => .pure rfl
  | clear space => exact (lockstep_clear_eq h user space).bind_eq fun _ => .pure rfl

theorem outcome_eq (h : Engine.Interchangeable R e f) (r : Request) {s : State σ} {t : State τ}
    (hst : Over R s t) :
    (outcome e r s).1 = (outcome f r t).1 ∧ Over R (outcome e r s).2 (outcome f r t).2 :=
  (agree_outcome (lockstep_perform_eq h r) hst).imp_left Agree.eq

end Service

end Keyspace
