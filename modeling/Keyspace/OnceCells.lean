set_option autoImplicit false

namespace Keyspace

structure OnceCells (κ : Type) where
  entries : List (κ × Bool)
  nodup : (entries.map (·.1)).Nodup

namespace OnceCells

variable {κ : Type}

def empty : OnceCells κ := ⟨[], List.nodup_nil⟩

instance : Inhabited (OnceCells κ) := ⟨empty⟩

def size (cells : OnceCells κ) : Nat := cells.entries.countP (·.2)

def isEmpty (cells : OnceCells κ) : Bool := cells.size == 0

variable [DecidableEq κ]

def contains (cells : OnceCells κ) (key : κ) : Bool := (cells.entries.lookup key).getD false

def reserve (cells : OnceCells κ) (key : κ) : OnceCells κ :=
  if h : key ∈ cells.entries.map (·.1) then cells
  else ⟨(key, false) :: cells.entries, List.nodup_cons.2 ⟨h, cells.nodup⟩⟩

theorem map_fst_fill (entries : List (κ × Bool)) (key : κ) :
    (entries.map fun c => (c.1, c.2 || decide (c.1 = key))).map (·.1) = entries.map (·.1) := by
  rw [List.map_map]
  rfl

def fill (cells : OnceCells κ) (key : κ) : OnceCells κ :=
  ⟨cells.entries.map fun c => (c.1, c.2 || decide (c.1 = key)), by
    rw [map_fst_fill]
    exact cells.nodup⟩

def forget (cells : OnceCells κ) (key : κ) : OnceCells κ :=
  ⟨cells.entries.filter (·.1 ≠ key), (List.filter_sublist.map _).nodup cells.nodup⟩

/-- Runs the work of a key unless its cell is filled, and fills the cell if the work succeeds. When
the work fails, so does this. The work has no access to the cells. -/
def ensure {ε σ : Type} (key : κ) (work : EStateM ε σ Unit) :
    EStateM ε (OnceCells κ × σ) Unit := fun (cells, s) =>
  let cells := cells.reserve key
  if cells.contains key then .ok () (cells, s)
  else
    match work s with
    | .ok () s => .ok () (cells.fill key, s)
    | .error e s => .error e (cells, s)

end OnceCells

end Keyspace
