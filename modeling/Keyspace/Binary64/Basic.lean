/-!
The finite double-precision numbers, exactly.

A number is a sign and a rank: the place of its magnitude among the non-negative doubles, counted
from zero. The rank is the exponent field and the fraction of the usual encoding, read as one
number. `ofRatio` rounds a quotient of naturals to the nearest double, a tie to the even one.
-/

set_option autoImplicit false

-- A power here is the built-in one, also where another instance is in scope.
attribute [instance (high), default_instance high + 1] instPowNat

namespace Keyspace

/-- A finite double: its sign and the rank of its magnitude. -/
structure Binary64 where
  negative : Bool
  rank : Nat
  rank_lt : rank < 2047 * 2 ^ 52
  deriving DecidableEq

namespace Binary64

instance : Repr Binary64 := ⟨fun x _ => repr (x.negative, x.rank)⟩

def zero (negative : Bool) : Binary64 := ⟨negative, 0, by decide⟩

instance : Inhabited Binary64 := ⟨zero false⟩

def sameValue (x y : Binary64) : Bool :=
  x.rank == y.rank && (x.rank == 0 || x.negative == y.negative)

@[simp] theorem sameValue_refl (x : Binary64) : x.sameValue x = true := by simp [sameValue]

def significand (rank : Nat) : Nat :=
  if rank < 2 ^ 52 then rank else 2 ^ 52 + rank % 2 ^ 52

def exponent (rank : Nat) : Int := (max (rank / 2 ^ 52) 1 : Nat) - 1075

def ratio (rank : Nat) : Nat × Nat :=
  (significand rank * 2 ^ (exponent rank).toNat, 2 ^ (-exponent rank).toNat)

def floorLog2 (num den : Nat) : Int :=
  let guess : Int := (num.log2 : Int) - den.log2
  if den * 2 ^ guess.toNat ≤ num * 2 ^ (-guess).toNat then guess else guess - 1

def roundDiv (num den : Nat) : Nat :=
  let q := num / den
  let r := num % den
  if 2 * r < den then q else if den < 2 * r then q + 1 else q + q % 2

/-- The rank nearest to a quotient, on the scale of doubles without an upper end. -/
def nearestRank (num den : Nat) : Nat :=
  if num = 0 then 0
  else
    let e : Int := max (floorLog2 num den - 52) (-1074)
    (e + 1074).toNat * 2 ^ 52 + roundDiv (num * 2 ^ (-e).toNat) (den * 2 ^ e.toNat)

def ofRatio (negative : Bool) (num den : Nat) : Option Binary64 :=
  if h : nearestRank num den < 2047 * 2 ^ 52 then some ⟨negative, nearestRank num den, h⟩ else none

def ofNat? (n : Nat) : Option Binary64 := ofRatio false n 1

def timesPowerOfTen (x : Binary64) (k : Nat) : Option Binary64 :=
  let (num, den) := ratio x.rank
  let (pnum, pden) := ratio (nearestRank (10 ^ k) 1)
  ofRatio x.negative (num * pnum) (den * pden)

def overPowerOfTen (x : Binary64) (k : Nat) : Option Binary64 :=
  let (num, den) := ratio x.rank
  let (pnum, pden) := ratio (nearestRank (10 ^ k) 1)
  ofRatio x.negative (num * pden) (den * pnum)

/-- The number that a decimal significand of at most 64 bits and a power of ten stand for.

The significand and the power are rounded each, and then their product or quotient. The greatest
power that is a double is the 308th, so a smaller quotient is taken in two steps, and below the
616th nothing is left of it. None where the number would be infinite. -/
def ofDecimal (negative : Bool) (significand : Nat) (exponent : Int) : Option Binary64 :=
  match ofRatio negative significand 1 with
  | none => none
  | some x =>
    if x.rank = 0 then some x
    else if 308 < exponent then none
    else if 0 ≤ exponent then x.timesPowerOfTen exponent.toNat
    else if -308 ≤ exponent then x.overPowerOfTen (-exponent).toNat
    else if -616 ≤ exponent then
      (x.overPowerOfTen 308).bind fun y => y.overPowerOfTen (-exponent - 308).toNat
    else some (zero negative)

end Binary64

end Keyspace
