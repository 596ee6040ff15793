import Keyspace.Proofs.TypedValue

set_option autoImplicit false

namespace Keyspace

namespace Json

def Number.integer? : Number → Option Int
  | natural n => some n.toNat
  | negative n => some (-1 - (n.val : Int))
  | float _ => none

theorem Number.int64?_eq_some_iff {n : Number} {i : Int} :
    n.int64? = some i ↔ n.integer? = some i ∧ -2 ^ 63 ≤ i ∧ i < 2 ^ 63 := by
  cases n with
  | natural n =>
    simp only [int64?, integer?, Option.some.injEq]
    split
    · simp only [Option.some.injEq]
      omega
    · simp only [reduceCtorEq, false_iff]
      omega
  | negative n =>
    simp only [int64?, integer?, Option.some.injEq]
    omega
  | float x => simp [int64?, integer?]

theorem Number.integer?_of_ofInt? {n : Number} {i : Int} (h : ofInt? i = some n) :
    n.integer? = some i := by
  cases i with
  | ofNat m =>
    simp only [ofInt?] at h
    split at h
    · rename_i hlt
      cases h
      simp [integer?, UInt64.toNat_ofNat_of_lt' hlt]
    · cases h
  | negSucc m =>
    simp only [ofInt?] at h
    split at h
    · cases h
      simp only [integer?, Option.some.injEq]
      omega
    · cases h

theorem Number.exists_ofInt? {i : Int} (h : -2 ^ 63 ≤ i ∧ i < 2 ^ 63) :
    ∃ n, ofInt? i = some n := by
  cases i with
  | ofNat m =>
    have hlt : m < 2 ^ 64 := by
      have hm : ((m : Nat) : Int) < 2 ^ 63 := h.2
      omega
    exact ⟨_, if_pos hlt⟩
  | negSucc m => exact ⟨_, dif_pos (by omega)⟩

mutual

def numbers : Json → List Number
  | num n => [n]
  | arr xs => numbersOfItems xs
  | obj ms => numbersOfMembers ms
  | null | bool _ | str _ => []

def numbersOfItems : List Json → List Number
  | [] => []
  | x :: xs => numbers x ++ numbersOfItems xs

def numbersOfMembers : List (String × Json) → List Number
  | [] => []
  | (_, x) :: ms => numbers x ++ numbersOfMembers ms

end

def FitsSigned (v : Json) : Prop := ∀ n ∈ v.numbers, ∀ i ∈ n.integer?, i ≤ 2 ^ 63 - 1

theorem Number.isPortable_iff {n : Number} :
    n.isPortable = true ↔ ∀ i ∈ n.integer?, i ≤ 2 ^ 63 - 1 := by
  cases n with
  | natural n =>
    simp only [isPortable, integer?, decide_eq_true_iff, Option.mem_some_iff, forall_eq']
    omega
  | negative n =>
    simp only [isPortable, integer?, Option.mem_some_iff, forall_eq', true_iff]
    omega
  | float x => simp [isPortable, integer?]

mutual

theorem isPortable_iff_numbers :
    ∀ {v : Json}, v.isPortable = true ↔ ∀ n ∈ v.numbers, n.isPortable = true
  | null | bool _ | str _ => by simp [isPortable, numbers]
  | num n => by simp [isPortable, numbers]
  | arr xs => by rw [isPortable, numbers, arePortable_iff_numbers xs]
  | obj ms => by rw [isPortable, numbers, havePortable_iff_numbers ms]

theorem arePortable_iff_numbers :
    ∀ xs : List Json, arePortable xs = true ↔ ∀ n ∈ numbersOfItems xs, n.isPortable = true
  | [] => by simp [arePortable, numbersOfItems]
  | x :: xs => by
    rw [arePortable, numbersOfItems, Bool.and_eq_true, List.forall_mem_append,
      isPortable_iff_numbers, arePortable_iff_numbers xs]

theorem havePortable_iff_numbers :
    ∀ ms : List (String × Json),
      havePortable ms = true ↔ ∀ n ∈ numbersOfMembers ms, n.isPortable = true
  | [] => by simp [havePortable, numbersOfMembers]
  | (_, x) :: ms => by
    rw [havePortable, numbersOfMembers, Bool.and_eq_true, List.forall_mem_append,
      isPortable_iff_numbers, havePortable_iff_numbers ms]

end

theorem isPortable_iff_fitsSigned {v : Json} : v.isPortable = true ↔ v.FitsSigned := by
  rw [isPortable_iff_numbers, FitsSigned]
  exact forall₂_congr fun _ _ => Number.isPortable_iff

theorem Number.narrowed_sameValue_iff {n : Number} :
    n.narrowed.sameValue n = true ↔ n.narrowed = n := by
  refine ⟨fun h => ?_, fun h => by rw [h, sameValue_refl]⟩
  cases n with
  | natural n =>
    by_cases hlt : n.toNat < 2 ^ 63
    · simp [narrowed, hlt]
    · simp [narrowed, hlt, sameValue] at h
  | negative n => rfl
  | float x => rfl

mutual

/-- A value and what is read back of it are equal as JSON values only when they are the same. -/
theorem narrowed_sameValue_iff :
    ∀ {v : Json}, v.narrowed.sameValue v = true ↔ v.narrowed = v
  | null | bool _ | str _ => by simp [narrowed, sameValue]
  | num n => by simp [narrowed, sameValue, Number.narrowed_sameValue_iff]
  | arr xs => by simp [narrowed, sameValue, narrowedItems_sameItems_iff xs]
  | obj ms => by simp [narrowed, sameValue, narrowedMembers_sameMembers_iff ms]

theorem narrowedItems_sameItems_iff :
    ∀ xs : List Json, sameItems (narrowedItems xs) xs = true ↔ narrowedItems xs = xs
  | [] => by simp [narrowedItems, sameItems]
  | x :: xs => by
    simp [narrowedItems, sameItems, narrowed_sameValue_iff (v := x),
      narrowedItems_sameItems_iff xs]

theorem narrowedMembers_sameMembers_iff :
    ∀ ms : List (String × Json), sameMembers (narrowedMembers ms) ms = true ↔
      narrowedMembers ms = ms
  | [] => by simp [narrowedMembers, sameMembers]
  | (_, x) :: ms => by
    simp [narrowedMembers, sameMembers, narrowed_sameValue_iff (v := x),
      narrowedMembers_sameMembers_iff ms]

end

end Json

namespace TypedValue

theorem narrowed_toJson (doc : Document) :
    Document.toJson (doc.map Json.narrowed) = doc.toJson.narrowed := by
  rw [Document.toJson, Document.toJson, Json.narrowed, Json.narrowedMembers_eq_map]
  rfl

theorem toJson_inj {doc doc' : Document} : doc.toJson = doc'.toJson ↔ doc = doc' := by
  rw [Document.toJson, Document.toJson, Json.obj.injEq, SortedMap.ext_iff]

/-- Every value, and every document, comes back from its typed form, and it is the one that was sent
exactly when no integer in it is greater than the greatest signed one. Otherwise what comes back is
not even equal to it as a JSON value. -/
theorem decode_encode_eq_iff :
    (∀ v : Json, ∃ w, decode (encode v) = .ok w ∧ (w = v ↔ v.FitsSigned) ∧
        ((w == v) = true ↔ v.FitsSigned)) ∧
      ∀ doc : Document, ∃ d, decodeFields (encodeFields doc) = .ok d ∧
        (d = doc ↔ doc.toJson.FitsSigned) ∧
        ((d.toJson == doc.toJson) = true ↔ doc.toJson.FitsSigned) := by
  have hvalue : ∀ v : Json, (v.narrowed = v ↔ v.FitsSigned) ∧
      ((v.narrowed == v) = true ↔ v.FitsSigned) := fun v => by
    have hself : v.narrowed = v ↔ v.FitsSigned :=
      Json.narrowed_eq_self_iff.trans Json.isPortable_iff_fitsSigned
    exact ⟨hself, Json.narrowed_sameValue_iff.trans hself⟩
  refine ⟨fun v => ⟨v.narrowed, decode_encode v, hvalue v⟩, fun doc => ?_⟩
  obtain ⟨hself, hsame⟩ := hvalue doc.toJson
  rw [← narrowed_toJson] at hself hsame
  exact ⟨_, decodeFields_encodeFields doc, toJson_inj.symm.trans hself, hsame⟩

end TypedValue

end Keyspace
