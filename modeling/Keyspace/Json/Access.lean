import Keyspace.Json.Basic

set_option autoImplicit false

namespace Keyspace.Json

def member? (name : String) : Json → Option Json
  | obj members => SortedMap.lookup name members
  | _ => none

def text? : Json → Option String
  | str s => some s
  | _ => none

def items? : Json → Option (List Json)
  | arr items => some items
  | _ => none

def map? : Json → Option (SortedMap Json)
  | obj members => some (SortedMap.ofList members)
  | _ => none

@[simp] theorem map?_obj_entries (m : SortedMap Json) : (obj m.entries).map? = some m := by
  simp [map?, SortedMap.ofList_entries]

def nat64? : Json → Option UInt64
  | num n => n.nat64?
  | _ => none

def ofText? : Option String → Json
  | some s => str s
  | none => null

/-- A count. Counts of things in memory stay below 2^64. -/
def ofCount (n : Nat) : Json := num (.natural (UInt64.ofNat n))

def isStructure (count : Nat) : Json → Bool
  | obj _ => true
  | arr items => items.length ≤ count
  | _ => false

def part? (name : String) (place : Nat) : Json → Option Json
  | obj members => SortedMap.lookup name members
  | arr items => items[place]?
  | _ => none

/-- An optional part, read by `read?`: none where it is missing or null; nothing at all where it
cannot be read. -/
def optionalPart? {α : Type} (v : Json) (name : String) (place : Nat) (read? : Json → Option α) :
    Option (Option α) :=
  match v.part? name place with
  | none | some null => some none
  | some w => (read? w).map some

def list? {α : Type} (read? : Json → Option α) : Json → Option (List α)
  | arr items => items.mapM read?
  | _ => none

end Keyspace.Json
