import Keyspace.Binary64.Shortest

set_option autoImplicit false

namespace Keyspace.Json

/-- A JSON number; `negative n` stands for `-1 - n`. -/
inductive Number where
  | natural (n : UInt64)
  | negative (n : Fin (2 ^ 63))
  | float (x : Binary64)
  deriving DecidableEq, Repr

namespace Number

instance : Inhabited Number := ⟨natural 0⟩

/-- Equality as numbers: within a kind by value, so that the two double zeros are equal. -/
def sameValue : Number → Number → Bool
  | natural m, natural n => m == n
  | negative m, negative n => m == n
  | float x, float y => x.sameValue y
  | _, _ => false

@[simp] theorem sameValue_refl (n : Number) : n.sameValue n = true := by
  cases n <;> simp [sameValue]

def int64? : Number → Option Int
  | natural n => if n.toNat < 2 ^ 63 then some n.toNat else none
  | negative n => some (-1 - (n.val : Int))
  | float _ => none

def nat64? : Number → Option UInt64
  | natural n => some n
  | _ => none

def ofInt? : Int → Option Number
  | .ofNat n => if n < 2 ^ 64 then some (natural (UInt64.ofNat n)) else none
  | .negSucc n => if h : n < 2 ^ 63 then some (negative ⟨n, h⟩) else none

/-- A decimal in positional notation from a hundred-thousandth up to sixteen digits before the
point, and with a signed exponent elsewhere; always with a point or an exponent. -/
def decimalText (d : Binary64.Decimal) : String :=
  let ds := Nat.toDigits 10 d.digits
  let point : Int := ds.length + d.exponent
  let zeros (n : Int) : List Char := List.replicate n.toNat '0'
  String.ofList <|
    if 0 ≤ d.exponent ∧ point ≤ 16 then ds ++ zeros d.exponent ++ ['.', '0']
    else if 0 < point ∧ point ≤ 16 then ds.take point.toNat ++ '.' :: ds.drop point.toNat
    else if -5 < point ∧ point ≤ 0 then '0' :: '.' :: zeros (-point) ++ ds
    else
      ds.take 1 ++ (if ds.length = 1 then [] else '.' :: ds.drop 1)
        ++ 'e' :: (if 0 < point then '+' else '-') :: Nat.toDigits 10 (point - 1).natAbs

def floatText (x : Binary64) : String :=
  (if x.negative then "-" else "")
    ++ (if x.rank = 0 then "0.0" else decimalText (Binary64.shortest x.rank))

def text : Number → String
  | natural n => toString n.toNat
  | negative n => "-" ++ toString (n.val + 1)
  | float x => floatText x

end Number

end Keyspace.Json
