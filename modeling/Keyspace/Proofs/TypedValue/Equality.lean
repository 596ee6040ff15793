import Keyspace.Proofs.TypedValue.Types

set_option autoImplicit false

namespace Keyspace.TypedValue

theorem typed_sameValue (kind kind' : Kind) (payload payload' : Json) :
    (typed kind payload).sameValue (typed kind' payload') =
      (kind == kind' && payload.sameValue payload') := by
  have htag : (kind.tag == kind'.tag) = (kind == kind') := by
    cases kind <;> cases kind' <;> decide
  simp [typed, Json.sameValue, Json.sameMembers, htag]

def kindOf : Json → Kind
  | .null => .null
  | .bool _ => .boolean
  | .num n => if n.int64?.isSome then .integer else .double
  | .str _ => .string
  | .arr _ => .array
  | .obj _ => .map

theorem exists_encode_eq (v : Json) : ∃ payload, encode v = typed (kindOf v) payload := by
  cases v with
  | num n =>
    obtain ⟨payload, hencode⟩ := encodeNumber_eq n
    exact ⟨payload, by rw [encode, hencode, kindOf]⟩
  | arr xs => exact ⟨_, encode_arr xs⟩
  | _ => exact ⟨_, by rw [encode, kindOf]⟩

theorem kindOf_eq_of_sameValue {v w : Json} (h : v.sameValue w = true) : kindOf v = kindOf w := by
  cases v <;> cases w <;> try first | rfl | cases h
  rename_i m n
  rw [Json.sameValue] at h
  cases m <;> cases n <;> simp_all [Json.Number.sameValue, kindOf, Json.Number.int64?]

/-- Values that are encoded as different types are different before and after. -/
theorem encode_sameValue_of_kindOf_ne {v w : Json} (h : kindOf v ≠ kindOf w) :
    (encode v).sameValue (encode w) = v.sameValue w := by
  obtain ⟨payload, hv⟩ := exists_encode_eq v
  obtain ⟨payload', hw⟩ := exists_encode_eq w
  rw [hv, hw, typed_sameValue, beq_false_of_ne h, Bool.false_and]
  exact (Bool.eq_false_iff.2 fun hsame => h (kindOf_eq_of_sameValue hsame)).symm

theorem exists_float_of_int64? {n : Json.Number} (hn : n.isPortable = true)
    (h : n.int64? = none) : ∃ x, n = .float x := by
  cases n with
  | natural n => simp_all [Json.Number.isPortable, Json.Number.int64?]
  | negative n => cases h
  | float x => exact ⟨x, rfl⟩

theorem sameValue_iff_of_int64? {m n : Json.Number} {i j : Int} (hm : m.int64? = some i)
    (hn : n.int64? = some j) : toString i = toString j ↔ m.sameValue n = true := by
  constructor
  · intro htext
    have hi := int64OfText?_toString (Json.Number.int64?_range hm)
    rw [htext, int64OfText?_toString (Json.Number.int64?_range hn), Option.some.injEq] at hi
    have hsame := Json.Number.ofInt?_of_int64? hm
    rw [← hi, Json.Number.ofInt?_of_int64? hn, Option.some.injEq] at hsame
    rw [hsame, Json.Number.sameValue_refl]
  · intro hsame
    have hnumbers : m = n := by
      cases m <;> cases n <;> simp_all [Json.Number.sameValue, Json.Number.int64?]
    rw [hnumbers, hn, Option.some.injEq] at hm
    rw [hm]

theorem encodeNumber_sameValue {m n : Json.Number} (hm : m.isPortable = true)
    (hn : n.isPortable = true) :
    (encodeNumber m).sameValue (encodeNumber n) = m.sameValue n := by
  by_cases hkind : kindOf (.num m) = kindOf (.num n)
  · cases hi : m.int64? with
    | some i =>
      cases hj : n.int64? with
      | some j =>
        rw [Bool.eq_iff_iff, ← sameValue_iff_of_int64? hi hj]
        simp [encodeNumber, hi, hj, typed_sameValue, Json.sameValue]
      | none => simp [kindOf, hi, hj] at hkind
    | none =>
      cases hj : n.int64? with
      | some j => simp [kindOf, hi, hj] at hkind
      | none =>
        obtain ⟨x, rfl⟩ := exists_float_of_int64? hm hi
        obtain ⟨y, rfl⟩ := exists_float_of_int64? hn hj
        simp [encodeNumber, Json.Number.int64?, typed_sameValue, Json.sameValue]
  · have hdiffer := encode_sameValue_of_kindOf_ne hkind
    rwa [encode, encode, Json.sameValue] at hdiffer

mutual

theorem encode_sameValue : ∀ {v w : Json}, v.isPortable = true → w.isPortable = true →
    (encode v).sameValue (encode w) = v.sameValue w
  | .null, w, _, _ => by
    cases w with
    | null => simp [encode, typed_sameValue, Json.sameValue]
    | _ => exact encode_sameValue_of_kindOf_ne (by grind [kindOf])
  | .bool a, w, _, _ => by
    cases w with
    | bool b => simp [encode, typed_sameValue, Json.sameValue]
    | _ => exact encode_sameValue_of_kindOf_ne (by grind [kindOf])
  | .num m, w, hv, hw => by
    cases w with
    | num n =>
      rw [encode, encode, Json.sameValue]
      exact encodeNumber_sameValue hv hw
    | _ => exact encode_sameValue_of_kindOf_ne (by grind [kindOf])
  | .str s, w, _, _ => by
    cases w with
    | str t => simp [encode, typed_sameValue, Json.sameValue]
    | _ => exact encode_sameValue_of_kindOf_ne (by grind [kindOf])
  | .arr xs, w, hv, hw => by
    cases w with
    | arr ys =>
      rw [Json.isPortable] at hv hw
      have hitems := encodeItems_sameItems hv hw
      cases xs <;> cases ys <;>
        simp_all [encode, encodeItems, typed_sameValue, Json.sameValue, Json.sameItems,
          Json.sameMembers]
    | _ => exact encode_sameValue_of_kindOf_ne (by grind [kindOf])
  | .obj ms, w, hv, hw => by
    cases w with
    | obj ns =>
      rw [Json.isPortable] at hv hw
      simp [encode, typed_sameValue, Json.sameValue, Json.sameMembers,
        encodeMembers_sameMembers hv hw]
    | _ => exact encode_sameValue_of_kindOf_ne (by grind [kindOf])

theorem encodeItems_sameItems : ∀ {xs ys : List Json}, Json.arePortable xs = true →
    Json.arePortable ys = true →
    Json.sameItems (encodeItems xs) (encodeItems ys) = Json.sameItems xs ys
  | [], ys, _, _ => by cases ys <;> rfl
  | x :: xs, [], _, _ => rfl
  | x :: xs, y :: ys, hxs, hys => by
    rw [Json.arePortable, Bool.and_eq_true] at hxs hys
    rw [encodeItems, encodeItems, Json.sameItems, Json.sameItems, encode_sameValue hxs.1 hys.1,
      encodeItems_sameItems hxs.2 hys.2]

theorem encodeMembers_sameMembers : ∀ {ms ns : List (String × Json)},
    Json.havePortable ms = true → Json.havePortable ns = true →
    Json.sameMembers (encodeMembers ms) (encodeMembers ns) = Json.sameMembers ms ns
  | [], ns, _, _ => by cases ns <;> rfl
  | _ :: _, [], _, _ => rfl
  | (k, x) :: ms, (l, y) :: ns, hms, hns => by
    rw [Json.havePortable, Bool.and_eq_true] at hms hns
    rw [encodeMembers, encodeMembers, Json.sameMembers, Json.sameMembers,
      encode_sameValue hms.1 hns.1, encodeMembers_sameMembers hms.2 hns.2]

end

end Keyspace.TypedValue
