import Keyspace.Engine.Basic

set_option autoImplicit false

namespace Keyspace

/-- A call of an engine's method, with what it was given. -/
inductive Call where
  | get (db id : String)
  | save (db id : String)
  | delete (db id : String)
  | listAll (db : String)
  | find (db : String) (selector : Selector) (fields : Option (List String)) (limit : Nat)
  | ensureIndex (db : String) (index : Index)
  deriving DecidableEq

/-- For each method, what happens to its next calls: none lets a call through. -/
structure Schedule where
  get : List (Option StoreError) := []
  save : List (Option StoreError) := []
  delete : List (Option StoreError) := []
  listAll : List (Option StoreError) := []
  find : List (Option StoreError) := []
  ensureIndex : List (Option StoreError) := []
  deriving DecidableEq, Repr, Inhabited

namespace Schedule

def next (s : Schedule) : Call → Option StoreError × Schedule
  | .get .. => (s.get.head?.join, { s with get := s.get.tail })
  | .save .. => (s.save.head?.join, { s with save := s.save.tail })
  | .delete .. => (s.delete.head?.join, { s with delete := s.delete.tail })
  | .listAll .. => (s.listAll.head?.join, { s with listAll := s.listAll.tail })
  | .find .. => (s.find.head?.join, { s with find := s.find.tail })
  | .ensureIndex .. =>
    (s.ensureIndex.head?.join, { s with ensureIndex := s.ensureIndex.tail })

end Schedule

structure Observed (σ : Type) where
  inner : σ
  calls : List Call
  schedule : Schedule

namespace Observed

variable {σ α : Type}

def start (inner : σ) (schedule : Schedule) : Observed σ := ⟨inner, [], schedule⟩

def observe (call : Call) (action : Action σ α) : Action (Observed σ) α := fun s =>
  let (fault, schedule) := s.schedule.next call
  let calls := s.calls ++ [call]
  match fault with
  | some e => .error e ⟨s.inner, calls, schedule⟩
  | none =>
    match action s.inner with
    | .ok a inner => .ok a ⟨inner, calls, schedule⟩
    | .error e inner => .error e ⟨inner, calls, schedule⟩

end Observed

def Engine.observed {σ : Type} (engine : Engine σ) : Engine (Observed σ) where
  name := engine.name
  get db id := Observed.observe (.get db id) (engine.get db id)
  save now db id doc := Observed.observe (.save db id) (engine.save now db id doc)
  delete db id := Observed.observe (.delete db id) (engine.delete db id)
  listAll db := Observed.observe (.listAll db) (engine.listAll db)
  find db selector fields limit :=
    Observed.observe (.find db selector fields limit) (engine.find db selector fields limit)
  ensureIndex db index := Observed.observe (.ensureIndex db index) (engine.ensureIndex db index)

end Keyspace
