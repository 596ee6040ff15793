import Keyspace.Document
import Keyspace.Time.Instant

set_option autoImplicit false

namespace Keyspace

/-- An operation on the state of an engine. -/
abbrev Action (σ α : Type) := EStateM StoreError σ α

/-- What an engine reports of a write: the document's id and the token of the write. -/
structure Receipt where
  id : String
  rev : String
  deriving DecidableEq, Repr

/-- A document database with states in `σ`. -/
structure Engine (σ : Type) where
  name : String
  get : String → String → Action σ Document
  /-- Creates or overwrites a document; its id field is set first. The time is the clock's. -/
  save : Instant → String → String → Document → Action σ Receipt
  delete : String → String → Action σ Unit
  listAll : String → Action σ (List Document)
  find : String → Selector → Option (List String) → Nat → Action σ (List Document)
  /-- Ensures an index; to do so again changes nothing. -/
  ensureIndex : String → Index → Action σ Unit

namespace Engine

variable {σ : Type}

def orThrow {α : Type} : Except StoreError α → Action σ α
  | .ok a => pure a
  | .error e => throw e

/-- Runs an action and, if it fails, another one from the state it has left. -/
def fallback {α : Type} (first second : Action σ α) : Action σ α := fun s =>
  match first s with
  | .ok a s => .ok a s
  | .error _ s => second s

def scan (listAll : String → Action σ (List Document)) (db : String) (selector : Selector)
    (fields : Option (List String)) (limit : Nat) : Action σ (List Document) := do
  orThrow selector.validate
  let docs ← listAll db
  return selector.select fields limit docs

/-- An engine without queries and indexes of its own, over the documents of another. -/
def withoutQueries (engine : Engine σ) (name : String) : Engine σ :=
  { engine with
    name := name
    find := scan engine.listAll
    ensureIndex := fun _ _ => pure () }

end Engine

end Keyspace
