import Keyspace.Engine.Basic
import Keyspace.Proofs.Lockstep

set_option autoImplicit false

namespace Keyspace.Engine

variable {σ : Type}

inductive Command where
  | get (db id : String)
  | save (now : Instant) (db id : String) (doc : Document)
  | delete (db id : String)
  | listAll (db : String)
  | find (db : String) (selector : Selector) (fields : Option (List String)) (limit : Nat)
  | ensureIndex (db : String) (index : Index)

def Command.database : Command → String
  | .get db _ | .save _ db _ _ | .delete db _ | .listAll db | .find db .. | .ensureIndex db _ => db

inductive Reply where
  | document (doc : Document)
  | saved (receipt : Receipt)
  | documents (docs : List Document)
  | done
  deriving DecidableEq

def Command.perform (engine : Engine σ) : Command → Action σ Reply
  | .get db id => return .document (← engine.get db id)
  | .save now db id doc => return .saved (← engine.save now db id doc)
  | .delete db id => do
    engine.delete db id
    return .done
  | .listAll db => return .documents (← engine.listAll db)
  | .find db selector fields limit => return .documents (← engine.find db selector fields limit)
  | .ensureIndex db index => do
    engine.ensureIndex db index
    return .done

def Command.outcome (engine : Engine σ) (c : Command) (s : σ) : Except StoreError Reply × σ :=
  match c.perform engine s with
  | .ok a s => (.ok a, s)
  | .error e s => (.error e, s)

def Command.after (engine : Engine σ) (commands : List Command) (s : σ) : σ :=
  commands.foldl (fun s c => (c.outcome engine s).2) s

theorem Command.error_of_map {α : Type} {x : Action σ α} {reply : α → Reply} {e : StoreError}
    {s s' : σ} (h : (do return reply (← x) : Action σ Reply) s = .error e s') :
    x s = .error e s' := by
  simp only [bind_apply] at h
  cases hx : x s with
  | ok a s'' =>
    rw [hx] at h
    cases h
  | error e' s'' =>
    rw [hx] at h
    cases h
    rfl

theorem Command.after_append (engine : Engine σ) (commands : List Command) (c : Command) (s : σ) :
    Command.after engine (commands ++ [c]) s =
      (c.outcome engine (Command.after engine commands s)).2 :=
  List.foldl_append ..

end Keyspace.Engine
