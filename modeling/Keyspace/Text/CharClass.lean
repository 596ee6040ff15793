import Keyspace.Text.Numeral

set_option autoImplicit false

namespace Keyspace.Text

/-- A class of characters: the code points of its ranges, both ends included. -/
structure CharClass where
  ranges : List (Nat × Nat)

namespace CharClass

def contains (cls : CharClass) (c : Char) : Bool :=
  cls.ranges.any fun r => r.1 ≤ c.toNat && c.toNat ≤ r.2

theorem contains_iff (cls : CharClass) (c : Char) :
    cls.contains c = true ↔ ∃ r ∈ cls.ranges, r.1 ≤ c.toNat ∧ c.toNat ≤ r.2 := by
  simp [contains]

def blank : CharClass where
  ranges := [
    (0x9, 0xD), (0x20, 0x20), (0x85, 0x85), (0xA0, 0xA0), (0x1680, 0x1680), (0x2000, 0x200A),
    (0x2028, 0x2029), (0x202F, 0x202F), (0x205F, 0x205F), (0x3000, 0x3000)]

/-- The class of the characters between the first and the last of each range, which alternate. -/
def ofEnds : List Nat → CharClass
  | first :: last :: rest => ⟨(first, last) :: (ofEnds rest).ranges⟩
  | _ => ⟨[]⟩

end CharClass

def isBlank (c : Char) : Bool := CharClass.blank.contains c

def allBlank (s : String) : Bool := s.toList.all isBlank

def trimChars (cs : List Char) : List Char :=
  ((cs.dropWhile isBlank).reverse.dropWhile isBlank).reverse

def trim (s : String) : String := String.ofList (trimChars s.toList)

/-- The rows of a table that is written as text: hexadecimal numbers with space between them, and
commas between the rows. A word that is no hexadecimal number does not count. -/
def codeRows (table : String) : List (List Nat) :=
  (table.toList.splitOn ',').map fun row =>
    ((row.splitOnP isBlank).filter fun word => !word.isEmpty).filterMap (valueIn? 16)

end Keyspace.Text
