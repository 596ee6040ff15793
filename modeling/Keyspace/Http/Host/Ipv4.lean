import Keyspace.Text.Numeral

set_option autoImplicit false

namespace Keyspace.Http

structure Ipv4 where
  value : UInt32
  deriving DecidableEq, Repr

namespace Ipv4

def parts (cs : List Char) : List (List Char) :=
  let all := cs.splitOn '.'
  if all.getLast? == some [] then all.dropLast else all

def number? : List Char → Option Nat
  | [] => none
  | '0' :: 'x' :: ds | '0' :: 'X' :: ds => Text.valueIn? 16 ds
  | '0' :: d :: ds => Text.valueIn? 8 (d :: ds)
  | ds => Text.valueIn? 10 ds

/-- A host that ends in a number can be nothing but an address. So can one that ends in decimal
digits which are no number. -/
def isMeant (cs : List Char) : Bool :=
  (parts cs).getLast?.any fun part =>
    (number? part).isSome || (!part.isEmpty && part.all Char.isDigit)

/-- The address of numbers, if each fits into the bytes that it stands for. -/
def ofNumbers? (ns : List Nat) : Option Ipv4 := do
  let last ← ns.getLast?
  let bytes := ns.dropLast
  let room := 256 ^ (4 - bytes.length)
  if 3 < bytes.length || bytes.any (255 < ·) || room ≤ last then none
  else some ⟨UInt32.ofNat (bytes.foldl (fun n byte => 256 * n + byte) 0 * room + last)⟩

def ofChars? (cs : List Char) : Option Ipv4 := do ofNumbers? (← (parts cs).mapM number?)

def text (a : Ipv4) : String :=
  let n := a.value.toNat
  ".".intercalate ([n / 2 ^ 24, n / 2 ^ 16 % 256, n / 2 ^ 8 % 256, n % 256].map toString)

end Ipv4

end Keyspace.Http
