import Keyspace.Text.Numeral

set_option autoImplicit false

namespace Keyspace.Http

structure Ipv6 where
  groups : Vector UInt16 8
  deriving DecidableEq, Repr

namespace Ipv6

def group? (cs : List Char) : Option UInt16 :=
  if cs.isEmpty || 4 < cs.length then none else (Text.valueIn? 16 cs).map UInt16.ofNat

def byte? (cs : List Char) : Option Nat :=
  if cs.length ≠ 1 && cs.head? == some '0' then none
  else (Text.numeral? cs).filter (· < 256)

def dotted? (cs : List Char) : Option (List UInt16) := do
  match ← (cs.splitOn '.').mapM byte? with
  | [a, b, c, d] => some [UInt16.ofNat (256 * a + b), UInt16.ofNat (256 * c + d)]
  | _ => none

/-- The groups of pieces. Only where an address ends can one be dotted. -/
def groups? (atEnd : Bool) : List (List Char) → Option (List UInt16)
  | [] => some []
  | [piece] =>
    if atEnd && piece.contains '.' then dotted? piece else (group? piece).map ([·])
  | piece :: rest => do return (← group? piece) :: (← groups? atEnd rest)

def run? (atEnd : Bool) (cs : List Char) : Option (List UInt16) :=
  if cs.isEmpty then some [] else groups? atEnd (cs.splitOn ':')

def gap? : List Char → Option (List Char × List Char)
  | ':' :: ':' :: rest => some ([], rest)
  | c :: rest => (gap? rest).map fun (before, after) => (c :: before, after)
  | [] => none

def ofGroups? (groups : List UInt16) : Option Ipv6 :=
  if h : groups.length = 8 then some ⟨⟨groups.toArray, by simpa using h⟩⟩ else none

/-- The address that characters stand for. A gap stands for one group of zeros at least. -/
def ofChars? (cs : List Char) : Option Ipv6 :=
  match gap? cs with
  | none => do ofGroups? (← run? true cs)
  | some (before, after) => do
    let front ← run? false before
    let back ← run? true after
    let count := front.length + back.length
    if 7 < count then none else ofGroups? (front ++ List.replicate (8 - count) 0 ++ back)

def zerosFrom (groups : List UInt16) (i : Nat) : Nat :=
  ((groups.drop i).takeWhile (· == 0)).length

def longestZeros (groups : List UInt16) : Nat × Nat :=
  (List.range groups.length).foldl
    (fun best i => if best.2 < zerosFrom groups i then (i, zerosFrom groups i) else best) (0, 0)

def runText (groups : List UInt16) : String :=
  ":".intercalate (groups.map fun g => String.ofList (Nat.toDigits 16 g.toNat))

/-- The groups in hexadecimal, with a gap for the first of the longest runs of zeros if that has
two of them. -/
def text (a : Ipv6) : String :=
  let groups := a.groups.toList
  let (start, length) := longestZeros groups
  if length < 2 then runText groups
  else runText (groups.take start) ++ "::" ++ runText (groups.drop (start + length))

end Ipv6

end Keyspace.Http
