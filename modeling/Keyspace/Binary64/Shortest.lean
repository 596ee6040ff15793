import Keyspace.Binary64.Basic

/-!
The shortest decimal that reads back as a double.

A decimal reads back when it lies in the interval of numbers that round to the double; the ends
belong to the interval when the significand is even. For one digit, two digits and so on, the two
neighbours of the number on that decimal grid are tried: the first grid with a hit wins, of two
hits the nearer one, and of two equally near ones the even one.
-/

set_option autoImplicit false

namespace Keyspace.Binary64

structure Decimal where
  digits : Nat
  exponent : Int
  deriving DecidableEq, Repr

def digitCount (n : Nat) : Nat := (Nat.toDigits 10 n).length

def decimalMagnitude (num den : Nat) : Int :=
  if den ≤ num then digitCount (num / den)
  else 1 - (digitCount ((den + num - 1) / num - 1) : Int)

/-- The interval of a positive rank in quarters of the last place: the lower end, the number, the
upper end, and the power of two of a quarter. Below a power of two doubles lie twice as close. -/
structure Interval where
  lower : Nat
  middle : Nat
  upper : Nat
  closed : Bool
  quarter : Int

def interval (rank : Nat) : Interval :=
  let m := significand rank
  let gap := if rank % 2 ^ 52 = 0 && 2 ^ 52 < rank then 1 else 2
  ⟨4 * m - gap, 4 * m, 4 * m + 2, m % 2 == 0, exponent rank - 2⟩

/-- The decimal with `count` digits that stands for a number, if one lies in its interval.
`magnitude` is the number's place on the decimal scale. -/
def withDigits (i : Interval) (magnitude : Int) (count : Nat) : Option Decimal :=
  let k := magnitude - count
  let a := 2 ^ i.quarter.toNat * 10 ^ (-k).toNat
  let b := 2 ^ (-i.quarter).toNat * 10 ^ k.toNat
  let inside (n : Nat) : Bool :=
    if i.closed then i.lower * a ≤ n * b && n * b ≤ i.upper * a
    else i.lower * a < n * b && n * b < i.upper * a
  let below := i.middle * a / b
  let above := below + 1
  let up : Decimal := if above = 10 ^ count then ⟨1, k + count⟩ else ⟨above, k⟩
  match inside below, inside above with
  | true, true =>
    let toBelow := i.middle * a - below * b
    let toAbove := above * b - i.middle * a
    some (if toBelow < toAbove || (toBelow == toAbove && below % 2 == 0) then ⟨below, k⟩ else up)
  | true, false => some ⟨below, k⟩
  | false, true => some up
  | false, false => none

def shortest (rank : Nat) : Decimal :=
  let i := interval rank
  let (num, den) := ratio rank
  let magnitude := decimalMagnitude num den
  ((List.range 17).findSome? fun n => withDigits i magnitude (n + 1)).getD ⟨0, 0⟩

end Keyspace.Binary64
