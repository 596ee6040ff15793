set_option autoImplicit false

namespace Keyspace

/-- The keys whose work has been done. -/
structure DoneSet (κ : Type) where
  keys : List κ
  nodup : keys.Nodup

namespace DoneSet

variable {κ : Type}

def empty : DoneSet κ := ⟨[], .nil⟩

instance : Inhabited (DoneSet κ) := ⟨empty⟩

def size (set : DoneSet κ) : Nat := set.keys.length

def isEmpty (set : DoneSet κ) : Bool := set.keys.isEmpty

variable [DecidableEq κ]

def contains (set : DoneSet κ) (key : κ) : Bool := decide (key ∈ set.keys)

def insert (set : DoneSet κ) (key : κ) : DoneSet κ :=
  if h : key ∈ set.keys then set else ⟨key :: set.keys, List.nodup_cons.2 ⟨h, set.nodup⟩⟩

def forget (set : DoneSet κ) (key : κ) : DoneSet κ :=
  ⟨set.keys.filter (· ≠ key), set.nodup.filter _⟩

/-- The set after the work of a key has been done: it is run unless the key is in the set. When it
fails, so does this, and the set stays as it is. -/
def ensure {m : Type → Type} [Monad m] (set : DoneSet κ) (key : κ) (work : m Unit) :
    m (DoneSet κ) :=
  if set.contains key then pure set
  else do
    work
    return set.insert key

theorem contains_insert (set : DoneSet κ) (key other : κ) :
    (set.insert key).contains other = (decide (other = key) || set.contains other) := by
  unfold insert contains
  split
  · rename_i h
    by_cases ho : other = key <;> simp [ho, h]
  · simp

theorem contains_forget (set : DoneSet κ) (key other : κ) :
    (set.forget key).contains other = (decide (other ≠ key) && set.contains other) := by
  unfold forget contains
  by_cases h : other = key <;> simp [h]

end DoneSet

end Keyspace
