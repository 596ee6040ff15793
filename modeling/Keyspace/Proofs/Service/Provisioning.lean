import Keyspace.Proofs.Service.Calls
import Keyspace.Proofs.Service.Observed

set_option autoImplicit false

namespace Keyspace

structure Noted (σ : Type) where
  inner : σ
  indexings : List Bool

namespace Noted

variable {σ α : Type}

def aside (action : Action σ α) : Action (Noted σ) α := fun s =>
  match action s.inner with
  | .ok a inner => .ok a { s with inner := inner }
  | .error e inner => .error e { s with inner := inner }

def indexing (action : Action σ Unit) : Action (Noted σ) Unit := fun s =>
  match action s.inner with
  | .ok _ inner => .ok () ⟨inner, s.indexings ++ [true]⟩
  | .error e inner => .error e ⟨inner, s.indexings ++ [false]⟩

end Noted

def Engine.noted {σ : Type} (engine : Engine σ) : Engine (Noted σ) where
  name := engine.name
  get db id := Noted.aside (engine.get db id)
  save now db id doc := Noted.aside (engine.save now db id doc)
  delete db id := Noted.aside (engine.delete db id)
  listAll db := Noted.aside (engine.listAll db)
  find db selector fields limit := Noted.aside (engine.find db selector fields limit)
  ensureIndex db index := Noted.indexing (engine.ensureIndex db index)

namespace Service

variable {σ α : Type}

/-- An attempt at the indexes of a user's namespace. -/
structure Attempt where
  user : String
  space : String
  succeeded : Bool
  deriving DecidableEq

def indexingsOf (x : Run (Noted σ) α) (s : State (Noted σ)) : List Bool :=
  (finalState (x s)).store.indexings.drop s.store.indexings.length

section Attempts

variable (engine : Engine σ)

/-- The attempts that a set makes at the indexes of its namespace. -/
def setAttempts (now : Instant) (user : String) (agent : Option String) (item : BatchItem)
    (s : State (Noted σ)) : List Attempt :=
  (indexingsOf (set engine.noted now user item.space item.key item.value agent item.metadata)
    s).map fun succeeded => ⟨user, item.space, succeeded⟩

def batchAttempts (now : Instant) (user : String) (agent : Option String) :
    List BatchItem → State (Noted σ) → List Attempt
  | [], _ => []
  | item :: rest, s => setAttempts engine now user agent item s ++
    match set engine.noted now user item.space item.key item.value agent item.metadata s with
    | .ok _ s' => batchAttempts now user agent rest s'
    | .error _ _ => []

/-- What is done with a data store: a request, or ensuring the standard indexes at its start. -/
inductive Use where
  | request (r : Request)
  | indexes

def Use.next (s : State (Noted σ)) : Use → State (Noted σ)
  | .request r => (outcome engine.noted r s).2
  | .indexes => finalState (ensureIndexes engine.noted s)

def Use.attempts (s : State (Noted σ)) : Use → List Attempt
  | .request ⟨user, now, .set space key value agent metadata⟩ =>
    setAttempts engine now user agent ⟨space, key, value, metadata⟩ s
  | .request ⟨user, now, .setMany items agent⟩ => batchAttempts engine now user agent items s
  | .request _ | .indexes => []

def afterUses (uses : List Use) (s : State (Noted σ)) : State (Noted σ) :=
  uses.foldl (Use.next engine) s

def attempts : List Use → State (Noted σ) → List Attempt
  | [], _ => []
  | u :: rest, s => u.attempts engine s ++ attempts rest (u.next engine s)

end Attempts

def outcomesFor (user space : String) (made : List Attempt) : List Bool :=
  (made.filter fun a => a.user = user ∧ a.space = space).map (·.succeeded)

theorem outcomesFor_append (user space : String) (made more : List Attempt) :
    outcomesFor user space (made ++ more) =
      outcomesFor user space made ++ outcomesFor user space more := by
  simp [outcomesFor]

theorem outcomesFor_singleton (user space : String) (a : Attempt) :
    outcomesFor user space [a] = if a.user = user ∧ a.space = space then [a.succeeded] else [] := by
  by_cases h : a.user = user ∧ a.space = space <;> simp [outcomesFor, h]

variable {engine : Engine σ} {made : List Attempt} {s s' : State (Noted σ)}

theorem runs_aside (action : Action σ α) :
    Runs (fun o o' : Noted σ => o'.indexings = o.indexings) (fun _ => True)
      (Noted.aside action) := by
  intro o
  unfold Noted.aside
  cases action o.inner <;> exact ⟨rfl, fun _ _ _ => trivial⟩

theorem callsKeep_noted (engine : Engine σ) :
    CallsKeep engine.noted fun o o' => o'.indexings = o.indexings where
  preorder := { refl := fun _ => rfl, trans := fun _ _ _ h h' => h'.trans h }
  get _ := runs_aside _
  save _ _ _ := runs_aside _
  delete _ := runs_aside _
  find _ _ := runs_aside _

theorem ensureIndexes_noted (engine : Engine σ) (s : State (Noted σ)) :
    ∃ succeeded store, ensureIndexes engine.noted s = .ok () { s with store := store } ∧
      store.indexings = s.store.indexings ++ [succeeded] := by
  have hone : ∀ index, ∃ outcome succeeded store,
      attempt (engine.noted.ensureIndex database index) s = .ok outcome { s with store := store } ∧
        store.indexings = s.store.indexings ++ [succeeded] := by
    intro index
    simp only [attempt, Engine.noted, Noted.indexing]
    cases engine.ensureIndex database index s.store.inner with
    | ok _ inner => exact ⟨.ok (), true, _, rfl, rfl⟩
    | error e inner => exact ⟨.error e, false, _, rfl, rfl⟩
  obtain ⟨outcome, succeeded, store, hrun, hnoted⟩ :=
    hone ⟨[Record.userField, Record.spaceField], some "idx-user-namespace"⟩
  refine ⟨succeeded, store, ?_, hnoted⟩
  simp [ensureIndexes, standardIndexes, hrun]

theorem ensureIndexed_noted (engine : Engine σ) (user space : String) (s : State (Noted σ)) :
    (s.indexed.contains (user, space) = true ∧
        ensureIndexed engine.noted user space s = .ok () s) ∨
      (s.indexed.contains (user, space) = false ∧ ∃ succeeded s',
        ensureIndexed engine.noted user space s = .ok () s' ∧
        s'.store.indexings = s.store.indexings ++ [succeeded] ∧
        s'.indexed = s.indexed.insert (user, space)) := by
  obtain ⟨succeeded, store, hrun, hnoted⟩ := ensureIndexes_noted engine s
  simp only [ensureIndexed, bind_apply, get_apply, DoneSet.ensure_apply, modifyGet_apply,
    hrun]
  cases s.indexed.contains (user, space) with
  | true => exact .inl ⟨rfl, rfl⟩
  | false => exact .inr ⟨rfl, succeeded, _, rfl, hnoted, rfl⟩

/-- A set in an indexed namespace attempts nothing; any other one makes one attempt, and the
namespace is indexed from then on. -/
theorem setAttempts_cases (engine : Engine σ) (now : Instant) (user : String)
    (agent : Option String) (item : BatchItem) (s : State (Noted σ)) :
    let s' := finalState
      (set engine.noted now user item.space item.key item.value agent item.metadata s)
    (s.indexed.contains (user, item.space) = true ∧
        setAttempts engine now user agent item s = [] ∧ s'.indexed = s.indexed) ∨
      (s.indexed.contains (user, item.space) = false ∧ ∃ succeeded,
        setAttempts engine now user agent item s = [⟨user, item.space, succeeded⟩] ∧
        s'.indexed = s.indexed.insert (user, item.space)) := by
  obtain ⟨rest, hset, hrest⟩ := (callsKeep_noted engine).set now user item.space item.key item.value
    agent item.metadata
  have hrun : ∀ s', ensureIndexed engine.noted user item.space s = .ok () s' →
      finalState (set engine.noted now user item.space item.key item.value agent item.metadata s) =
        finalState (rest s') := by
    intro s' h
    simp only [hset, bind_apply, h]
  simp only [setAttempts, indexingsOf]
  rcases ensureIndexed_noted engine user item.space s with
    ⟨hdone, hindexed⟩ | ⟨hdue, succeeded, s', hindexed, hnoted, hinsert⟩
  · obtain ⟨hkept, hsame⟩ := (hrest s).1
    rw [hrun s hindexed]
    exact .inl ⟨hdone, by simp [hkept], hsame⟩
  · obtain ⟨hkept, hsame⟩ := (hrest s').1
    rw [hrun s' hindexed]
    exact .inr ⟨hdue, succeeded, by simp [hkept, hnoted], hsame.trans hinsert⟩

/-- For every indexed namespace there has been one attempt, and for any other one none. -/
def Accounted (made : List Attempt) (s : State (Noted σ)) : Prop :=
  ∀ user space, (outcomesFor user space made).length =
    if s.indexed.contains (user, space) then 1 else 0

theorem accounted_start (store : σ) : Accounted [] (start (⟨store, []⟩ : Noted σ)) :=
  fun _ _ => rfl

theorem Accounted.same (h : Accounted made s) (hindexed : s'.indexed = s.indexed) :
    Accounted made s' := by
  intro user space
  rw [hindexed]
  exact h user space

theorem Accounted.set (h : Accounted made s) (engine : Engine σ) (now : Instant) (user : String)
    (agent : Option String) (item : BatchItem) :
    Accounted (made ++ setAttempts engine now user agent item s)
      (finalState
        (set engine.noted now user item.space item.key item.value agent item.metadata s)) := by
  rcases setAttempts_cases engine now user agent item s with
    ⟨-, hnone, hsame⟩ | ⟨hdue, succeeded, hone, hinsert⟩
  · rw [hnone, List.append_nil]
    exact h.same hsame
  · intro other space
    have hbefore := h other space
    rw [hone, hinsert, outcomesFor_append, List.length_append, DoneSet.contains_insert]
    by_cases hpair : other = user ∧ space = item.space
    · obtain ⟨rfl, rfl⟩ := hpair
      rw [hdue] at hbefore
      simp [hbefore, outcomesFor_singleton]
    · have hne : ¬ ((other, space) = (user, item.space)) := by simpa using hpair
      have hnot : ¬ (user = other ∧ item.space = space) := fun hsame =>
        hpair ⟨hsame.1.symm, hsame.2.symm⟩
      rw [outcomesFor_singleton, if_neg hnot, hbefore]
      simp [hne]

theorem Accounted.setMany (h : Accounted made s) (engine : Engine σ) (now : Instant)
    (user : String) (agent : Option String) (items : List BatchItem) :
    Accounted (made ++ batchAttempts engine now user agent items s)
      (finalState (setMany engine.noted now user items agent s)) := by
  unfold Service.setMany
  generalize 0 = count
  induction items generalizing made s count with
  | nil =>
    rw [batchAttempts, List.append_nil]
    exact h
  | cons item rest ih =>
    have hfirst := h.set engine now user agent item
    rw [batchAttempts, ← List.append_assoc, List.foldlM_cons]
    simp only [bind_apply]
    cases hrun : Service.set engine.noted now user item.space item.key item.value agent
        item.metadata s with
    | ok r s' =>
      rw [hrun] at hfirst
      exact ih hfirst (count + 1)
    | error e s' =>
      rw [hrun] at hfirst
      rw [List.append_nil]
      exact hfirst

theorem Accounted.use (h : Accounted made s) (u : Use) :
    Accounted (made ++ u.attempts engine s) (u.next engine s) := by
  have hcalls := callsKeep_noted engine
  have hother : ∀ {β : Type} {x : Run (Noted σ) β} (f : β → Answer),
      Keeps (fun o o' : Noted σ => o'.indexings = o.indexings) x →
        Accounted (made ++ []) (finalState ((x >>= fun a => pure (f a)) s)) := by
    intro β x f hx
    rw [List.append_nil, finalState_map]
    exact h.same (hx s).1.2
  cases u with
  | indexes =>
    obtain ⟨succeeded, store, hrun, -⟩ := ensureIndexes_noted engine s
    rw [Use.attempts, Use.next, hrun, List.append_nil]
    exact h.same rfl
  | request r =>
    obtain ⟨user, now, operation⟩ := r
    rw [Use.next, state_outcome]
    cases operation with
    | set space key value agent metadata =>
      rw [perform, finalState_map]
      exact h.set engine now user agent ⟨space, key, value, metadata⟩
    | setMany items agent =>
      rw [perform, finalState_map]
      exact h.setMany engine now user agent items
    | get space key agent => exact hother _ (hcalls.getRecord now user space key agent)
    | delete space key => exact hother _ (hcalls.deleteRecord user space key)
    | listKeys space keyPrefix => exact hother _ (hcalls.listKeys user space keyPrefix)
    | listSpaces => exact hother _ (hcalls.listSpaces user)
    | getAll space agent => exact hother _ (hcalls.getAll now user space agent)
    | getMany space keys agent => exact hother _ (hcalls.getMany now user space keys agent)
    | clear space => exact hother _ (hcalls.clear user space)

theorem Accounted.uses (h : Accounted made s) (uses : List Use) :
    Accounted (made ++ attempts engine uses s) (afterUses engine uses s) := by
  induction uses generalizing made s with
  | nil =>
    rw [attempts, List.append_nil]
    exact h
  | cons u rest ih =>
    rw [attempts, ← List.append_assoc]
    exact ih (h.use u)

theorem accounted_afterUses (engine : Engine σ) (store : σ) (uses : List Use) :
    Accounted (attempts engine uses (start ⟨store, []⟩))
      (afterUses engine uses (start ⟨store, []⟩)) :=
  (accounted_start store).uses uses

def madeFor (engine : Engine σ) (store : σ) (uses : List Use) (user space : String) : List Bool :=
  outcomesFor user space (attempts engine uses (start ⟨store, []⟩))

def NextSetAttempts (engine : Engine σ) (store : σ) (uses : List Use) (user space : String) :
    Prop :=
  ∀ now key value agent metadata, setAttempts engine now user agent ⟨space, key, value, metadata⟩
    (afterUses engine uses (start ⟨store, []⟩)) ≠ []

/-- As long as every attempt at the indexes of a namespace has failed, the next set makes another
one. -/
def Retries (engine : Engine σ) (store : σ) (uses : List Use) (user space : String) : Prop :=
  (∀ succeeded ∈ madeFor engine store uses user space, succeeded = false) →
    NextSetAttempts engine store uses user space

/-- Over any engine, whatever was done before, the next set in a namespace makes an attempt at its
indexes exactly when none has been made. A failed attempt counts as one, and is not repeated. -/
theorem retries_iff (engine : Engine σ) (store : σ) (uses : List Use) (user space : String) :
    (NextSetAttempts engine store uses user space ↔ madeFor engine store uses user space = []) ∧
      (Retries engine store uses user space ↔ madeFor engine store uses user space ≠ [false]) := by
  have haccounted := accounted_afterUses engine store uses user space
  have hnext : NextSetAttempts engine store uses user space ↔
      madeFor engine store uses user space = [] := by
    rw [madeFor, ← List.length_eq_zero_iff, haccounted]
    constructor
    · intro hattempts
      rcases setAttempts_cases engine Instant.epoch user none ⟨space, "", .null, none⟩
        (afterUses engine uses (start ⟨store, []⟩)) with ⟨-, hnone, -⟩ | ⟨hdue, -⟩
      · exact absurd hnone (hattempts _ _ _ _ _)
      · simp [hdue]
    · intro hdue now key value agent metadata
      rcases setAttempts_cases engine now user agent ⟨space, key, value, metadata⟩
        (afterUses engine uses (start ⟨store, []⟩)) with ⟨hdone, -⟩ | ⟨-, succeeded, hone, -⟩
      · simp [hdone] at hdue
      · simp [hone]
  refine ⟨hnext, ?_⟩
  have hlength : (madeFor engine store uses user space).length ≤ 1 := by
    rw [madeFor, haccounted]
    split <;> omega
  rw [Retries, hnext]
  generalize madeFor engine store uses user space = made at hlength
  cases made with
  | nil => simp
  | cons succeeded rest =>
    obtain rfl : rest = [] := by simpa using hlength
    cases succeeded <;> simp

/-- A set whose attempt at the indexes fails is not followed by another attempt. -/
theorem not_retries_refused :
    ¬ Retries watched (Observed.start Memory.empty { ensureIndex := [some (.backend 503 "")] })
      [.request ⟨"u", Instant.epoch, .set "n" "k" (.bool true) none none⟩] "u" "n" := by
  intro h
  exact h (by decide) Instant.epoch "k" (.bool true) none none (by decide)

end Service

end Keyspace
