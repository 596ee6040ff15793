import Keyspace.SortedMap
import Keyspace.Json.Number

set_option autoImplicit false

namespace Keyspace

inductive Json where
  | null
  | bool (b : Bool)
  | num (n : Json.Number)
  | str (s : String)
  | arr (items : List Json)
  | obj (members : List (String × Json))

namespace Json

instance : Inhabited Json := ⟨null⟩

mutual

def sameValue : Json → Json → Bool
  | null, null => true
  | bool a, bool b => a == b
  | num m, num n => m.sameValue n
  | str s, str t => s == t
  | arr xs, arr ys => sameItems xs ys
  | obj ms, obj ns => sameMembers ms ns
  | _, _ => false

def sameItems : List Json → List Json → Bool
  | [], [] => true
  | x :: xs, y :: ys => sameValue x y && sameItems xs ys
  | _, _ => false

def sameMembers : List (String × Json) → List (String × Json) → Bool
  | [], [] => true
  | (k, x) :: ms, (l, y) :: ns => k == l && sameValue x y && sameMembers ms ns
  | _, _ => false

end

mutual

theorem sameValue_refl : ∀ v : Json, v.sameValue v = true
  | null | bool _ | str _ => by simp [sameValue]
  | num n => by simp [sameValue]
  | arr xs => by simpa [sameValue] using sameItems_refl xs
  | obj ms => by simpa [sameValue] using sameMembers_refl ms

theorem sameItems_refl : ∀ xs : List Json, sameItems xs xs = true
  | [] => by simp [sameItems]
  | x :: xs => by simp [sameItems, sameValue_refl x, sameItems_refl xs]

theorem sameMembers_refl : ∀ ms : List (String × Json), sameMembers ms ms = true
  | [] => by simp [sameMembers]
  | (k, x) :: ms => by simp [sameMembers, sameValue_refl x, sameMembers_refl ms]

end

instance : BEq Json := ⟨sameValue⟩

mutual

def decEq : (v w : Json) → Decidable (v = w)
  | null, null => isTrue rfl
  | bool a, bool b => decidable_of_iff (a = b) (by simp)
  | num m, num n => decidable_of_iff (m = n) (by simp)
  | str s, str t => decidable_of_iff (s = t) (by simp)
  | arr xs, arr ys => @decidable_of_iff _ (xs = ys) (by simp) (decEqItems xs ys)
  | obj ms, obj ns => @decidable_of_iff _ (ms = ns) (by simp) (decEqMembers ms ns)
  | null, bool _ | null, num _ | null, str _ | null, arr _ | null, obj _
  | bool _, null | bool _, num _ | bool _, str _ | bool _, arr _ | bool _, obj _
  | num _, null | num _, bool _ | num _, str _ | num _, arr _ | num _, obj _
  | str _, null | str _, bool _ | str _, num _ | str _, arr _ | str _, obj _
  | arr _, null | arr _, bool _ | arr _, num _ | arr _, str _ | arr _, obj _
  | obj _, null | obj _, bool _ | obj _, num _ | obj _, str _ | obj _, arr _ =>
    isFalse (by simp)

def decEqItems : (xs ys : List Json) → Decidable (xs = ys)
  | [], [] => isTrue rfl
  | [], _ :: _ | _ :: _, [] => isFalse (by simp)
  | x :: xs, y :: ys =>
    match decEq x y, decEqItems xs ys with
    | isTrue h, isTrue t => isTrue (by rw [h, t])
    | isFalse h, _ => isFalse fun e => h (List.cons.inj e).1
    | _, isFalse t => isFalse fun e => t (List.cons.inj e).2

def decEqMembers : (ms ns : List (String × Json)) → Decidable (ms = ns)
  | [], [] => isTrue rfl
  | [], _ :: _ | _ :: _, [] => isFalse (by simp)
  | (k, x) :: ms, (l, y) :: ns =>
    match instDecidableEqString k l, decEq x y, decEqMembers ms ns with
    | isTrue hk, isTrue h, isTrue t => isTrue (by rw [hk, h, t])
    | isFalse hk, _, _ => isFalse fun e => hk (Prod.mk.inj (List.cons.inj e).1).1
    | _, isFalse h, _ => isFalse fun e => h (Prod.mk.inj (List.cons.inj e).1).2
    | _, _, isFalse t => isFalse fun e => t (List.cons.inj e).2

end

instance : DecidableEq Json := decEq

end Json

end Keyspace
