import Keyspace.Proofs.Json.Members
import Keyspace.Proofs.TypedValue

set_option autoImplicit false

namespace Keyspace

open Json (reread)

/-- A value as it is read back from the text of its typed form. -/
def Json.restored (v : Json) : Json := v.narrowed.reread

def Document.restored (doc : Document) : Document := doc.map Json.restored

/-- How deep the containers nest that the typed fields of a document are made of. -/
def Document.typedDepth (doc : Document) : Nat :=
  (Document.toJson (TypedValue.encodeFields doc)).depth

namespace Json

theorem restored_eq_self {v : Json} (hportable : v.isPortable = true) (hread : v.reread = v) :
    v.restored = v := by
  rw [restored, narrowed_eq_self_iff.2 hportable, hread]

theorem restored_eq_str_iff {v : Json} {s : String} : v.restored = str s ↔ v = str s := by
  rw [restored, reread_eq_str_iff, narrowed_eq_str_iff]

theorem restored_arr (xs : List Json) : (arr xs).restored = arr (xs.map restored) := by
  have hitems : narrowedItems xs = xs.map narrowed := by
    induction xs with
    | nil => rfl
    | cons x xs ih => rw [narrowedItems, List.map_cons, ih]
  rw [restored, narrowed, hitems, reread_arr, List.map_map]
  rfl

theorem restored_obj (ms : List (String × Json)) : (obj ms).restored =
    obj (SortedMap.ofList (ms.map fun e => (e.1, e.2.restored))).entries := by
  rw [restored, narrowed, narrowedMembers_eq_map, reread_obj, List.map_map]
  rfl

theorem exists_restored_natural {n : UInt64} (h : ¬ n.toNat < 2 ^ 63) :
    ∃ x, (num (.natural n)).restored = num (.float x) := by
  have hnarrowed : (num (.natural n)).narrowed =
      num (.float ((Binary64.ofNat? n.toNat).getD (Binary64.zero false))) := by
    rw [narrowed, Number.narrowed, if_neg h]
  obtain ⟨x, hx⟩ :=
    Number.exists_reread_float ((Binary64.ofNat? n.toNat).getD (Binary64.zero false))
  exact ⟨x, by rw [restored, hnarrowed, reread, hx]⟩

theorem Number.isPortable_restored (n : Number) : n.narrowed.reread.isPortable = true := by
  have hfloat : ∀ x : Binary64, (Number.float x).reread.isPortable = true := by
    intro x
    obtain ⟨y, hy⟩ := Number.exists_reread_float x
    rw [hy]
    rfl
  cases n with
  | natural n =>
    rw [Number.narrowed]
    split
    · rename_i h
      rw [Number.reread_natural]
      exact decide_eq_true h
    · exact hfloat _
  | negative n =>
    change (Number.negative n).reread.isPortable = true
    rw [Number.reread_negative]
    rfl
  | float x => exact hfloat x

mutual

theorem isPortable_restored : ∀ v : Json, v.restored.isPortable = true
  | null | bool _ | str _ => rfl
  | num n => n.isPortable_restored
  | arr xs => by rw [restored_arr, isPortable, arePortable_restored xs]
  | obj ms => by
    have hall : SortedMap.All (fun v : Json => v.isPortable = true)
        (SortedMap.ofList (ms.map fun e => (e.1, e.2.restored))) :=
      .ofList (havePortable_iff.1 (havePortable_restored ms))
    rw [restored_obj, isPortable, havePortable_iff]
    exact SortedMap.All.iff_entries.1 hall

theorem arePortable_restored : ∀ xs : List Json, arePortable (xs.map restored) = true
  | [] => rfl
  | x :: xs => by
    rw [List.map_cons, arePortable, isPortable_restored x, arePortable_restored xs, Bool.and_self]

theorem havePortable_restored :
    ∀ ms : List (String × Json), havePortable (ms.map fun e => (e.1, e.2.restored)) = true
  | [] => rfl
  | (k, x) :: ms => by
    rw [List.map_cons, havePortable, isPortable_restored x, havePortable_restored ms, Bool.and_self]

end

/-- What has been read back once is read back from its typed form as it is. -/
theorem narrowed_restored (v : Json) : v.restored.narrowed = v.restored :=
  narrowed_eq_self_iff.2 v.isPortable_restored

end Json

namespace TypedValue

theorem reread_typed (kind : Kind) (payload : Json) :
    (typed kind payload).reread = typed kind payload.reread := by
  rw [typed, Json.reread_obj]
  rfl

theorem reread_member (name : String) (v : Json) :
    (Json.obj [(name, v)]).reread = .obj [(name, v.reread)] := by
  rw [Json.reread_obj]
  rfl

theorem reread_encodeNumber (n : Json.Number) :
    (encodeNumber n).reread = encodeNumber n.narrowed.reread := by
  have hfloat : ∀ x : Binary64, (typed .double (.num (.float x))).reread =
      encodeNumber (Json.Number.float x).reread := by
    intro x
    obtain ⟨y, hy⟩ := Json.Number.exists_reread_float x
    rw [reread_typed, reread, hy]
    rfl
  cases n with
  | natural n =>
    by_cases h : n.toNat < 2 ^ 63
    · have hint : (Json.Number.natural n).int64? = some n.toNat := by simp [Json.Number.int64?, h]
      rw [Json.Number.narrowed, if_pos h, Json.Number.reread_natural, encodeNumber, hint]
      exact reread_typed ..
    · have hint : (Json.Number.natural n).int64? = none := by simp [Json.Number.int64?, h]
      rw [Json.Number.narrowed, if_neg h, ← hfloat, encodeNumber, hint]
  | negative n =>
    change _ = encodeNumber (Json.Number.negative n).reread
    rw [Json.Number.reread_negative]
    exact reread_typed ..
  | float x => exact hfloat x

mutual

/-- The text of a typed value is read as the typed form of what the value is read back as. -/
theorem reread_encode : ∀ v : Json, (encode v).reread = encode v.restored
  | .null => reread_typed ..
  | .bool b => reread_typed ..
  | .num n => reread_encodeNumber n
  | .str s => reread_typed ..
  | .arr [] => reread_typed ..
  | .arr (x :: xs) => by
    rw [encode_arr, if_neg (List.cons_ne_nil x xs), reread_typed, reread_member, Json.reread_arr,
      map_reread_encode (x :: xs), Json.restored_arr, encode_arr, if_neg (by simp)]
  | .obj ms => by
    rw [encode_obj, reread_typed, reread_member, Json.reread_obj, map_rereadMember_encode ms,
      SortedMap.ofList_map encode, Json.restored_obj, encode_obj]
    rfl

theorem map_reread_encode :
    ∀ xs : List Json, (xs.map encode).map reread = (xs.map Json.restored).map encode
  | [] => rfl
  | x :: xs => by
    simp only [List.map_cons, reread_encode x, map_reread_encode xs]

theorem map_rereadMember_encode : ∀ ms : List (String × Json),
    (ms.map fun e => (e.1, encode e.2)).map (fun e => (e.1, e.2.reread)) =
      (ms.map fun e => (e.1, e.2.restored)).map fun e => (e.1, encode e.2)
  | [] => rfl
  | (k, x) :: ms => by
    simp only [List.map_cons, reread_encode x, map_rereadMember_encode ms]

end

theorem reread_encodeFields (doc : Document) :
    Document.reread (encodeFields doc) = encodeFields doc.restored := by
  rw [Document.reread, encodeFields, encodeFields, Document.restored, SortedMap.map_map,
    SortedMap.map_map]
  simp only [reread_encode]

theorem decodeFields_reread (doc : Document) :
    decodeFields (Document.reread (encodeFields doc)) = .ok doc.restored := by
  rw [reread_encodeFields, decodeFields_encodeFields, Document.restored, SortedMap.map_map]
  simp only [Json.narrowed_restored]

theorem get?_restored_eq_str_iff {doc : Document} {name s : String} :
    doc.restored.get? name = some (.str s) ↔ doc.get? name = some (.str s) := by
  rw [Document.restored, SortedMap.get?_map]
  simp [Json.restored_eq_str_iff]

theorem depth_typed_le_iff {kind : Kind} {payload : Json} {n : Nat} :
    (typed kind payload).depth ≤ n + 1 ↔ payload.depth ≤ n := by
  simp [typed, Json.depth_obj_le_iff]

theorem depth_encode_obj_le_iff {ms : List (String × Json)} {n : Nat} :
    (encode (.obj ms)).depth ≤ n + 3 ↔ ∀ e ∈ ms, (encode e.2).depth ≤ n := by
  rw [encode_obj, depth_typed_le_iff, Json.depth_obj_le_iff, List.forall_mem_singleton,
    Json.depth_obj_le_iff, List.forall_mem_map]

theorem typedDepth_le_iff {doc : Document} {n : Nat} :
    doc.typedDepth ≤ n + 1 ↔ ∀ e ∈ doc.entries, (encode e.2).depth ≤ n := by
  rw [Document.typedDepth, Document.toJson, Json.depth_obj_le_iff, encodeFields, SortedMap.map,
    List.forall_mem_map]

end TypedValue

end Keyspace
