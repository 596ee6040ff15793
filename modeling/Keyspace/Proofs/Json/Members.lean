import Keyspace.Document
import Keyspace.Proofs.Json.Reread
import Keyspace.Proofs.SortedMap

set_option autoImplicit false

namespace Keyspace

namespace Json

theorem depth_arr_le_iff {xs : List Json} {n : Nat} :
    (arr xs).depth ≤ n + 1 ↔ ∀ x ∈ xs, x.depth ≤ n := by
  rw [depth, Nat.add_le_add_iff_right]
  induction xs with
  | nil => simp [depthItems]
  | cons x xs ih => simp [depthItems, ih]

theorem forall₂_depth_le_iff {α : Type} {items : List Json} {as : List α} {n : Nat} {P : α → Prop}
    (h : List.Forall₂ (fun v a => v.depth ≤ n ↔ P a) items as) :
    (arr items).depth ≤ n + 1 ↔ ∀ a ∈ as, P a := by
  rw [depth_arr_le_iff]
  induction h with
  | nil => simp
  | cons hv _ ih => simp [hv, ih]

theorem depth_obj_le_iff {ms : List (String × Json)} {n : Nat} :
    (obj ms).depth ≤ n + 1 ↔ ∀ e ∈ ms, e.2.depth ≤ n := by
  rw [depth, Nat.add_le_add_iff_right]
  induction ms with
  | nil => simp [depthMembers]
  | cons e ms ih => simp [depthMembers, ih]

@[simp] theorem reread_str (s : String) : (str s).reread = str s := rfl

theorem reread_eq_str_iff {v : Json} {s : String} : v.reread = str s ↔ v = str s := by
  cases v <;> simp [reread]

theorem reread_arr (xs : List Json) : (arr xs).reread = arr (xs.map reread) := by
  rw [reread]
  congr 1
  induction xs with
  | nil => rfl
  | cons x xs ih => rw [rereadItems, List.map_cons, ih]

theorem reread_obj (ms : List (String × Json)) :
    (obj ms).reread = obj (SortedMap.ofList (ms.map fun e => (e.1, e.2.reread))).entries := by
  have hmembers : rereadMembers ms = ms.map fun e => (e.1, e.2.reread) := by
    induction ms with
    | nil => rfl
    | cons e ms ih => rw [← Prod.eta e, rereadMembers, List.map_cons, ih]
  rw [reread, hmembers]

end Json

def Document.reread (doc : Document) : Document := doc.map Json.reread

namespace Json

open SortedMap (lookup)

theorem get?_reread {ms : List (String × Json)} (h : (ms.map (·.1)).Nodup) (name : String) :
    (SortedMap.ofList (ms.map fun e => (e.1, e.2.reread))).get? name =
      (lookup name ms).map reread := by
  have hnodup : ((ms.map fun e => (e.1, e.2.reread)).map (·.1)).Nodup := by
    simpa [Function.comp_def] using h
  refine (Option.ext fun v => ?_).trans (SortedMap.lookup_map reread name ms)
  rw [SortedMap.get?_ofList_eq_some_iff hnodup, SortedMap.lookup_eq_some_iff hnodup]

theorem reread_of_mem {ms : List (String × Json)} (h : (obj ms).reread = obj ms) :
    ∀ e ∈ ms, e.2.reread = e.2 := by
  rw [reread_obj, obj.injEq] at h
  have hnodup : (ms.map (·.1)).Nodup := by
    rw [← h]
    exact SortedMap.keys_nodup _
  intro e he
  have hlookup := (SortedMap.lookup_eq_some_iff hnodup).2 he
  have hget := get?_reread hnodup e.1
  rw [SortedMap.get?, h, hlookup, Option.map_some] at hget
  exact (Option.some.inj hget).symm

/-- The members of an object are the fields of a document, in some order. -/
def Spells (v : Json) (doc : Document) : Prop :=
  ∃ members, v = obj members ∧ members.Perm doc.entries

theorem spells_toJson (doc : Document) : doc.toJson.Spells doc := ⟨_, rfl, .refl _⟩

namespace Spells

variable {v : Json} {doc : Document}

theorem reread (h : v.Spells doc) : v.reread = doc.reread.toJson := by
  obtain ⟨members, rfl, hperm⟩ := h
  have hnodup : (members.map (·.1)).Nodup := (hperm.map _).nodup_iff.2 doc.keys_nodup
  rw [reread_obj, Document.toJson]
  congr 2
  refine SortedMap.ext_get? fun name => ?_
  rw [get?_reread hnodup, Document.reread, SortedMap.get?_map]
  congr 1
  refine Option.ext fun x => ?_
  rw [SortedMap.lookup_eq_some_iff hnodup, SortedMap.get?_eq_some_iff, hperm.mem_iff]

theorem depth_le_iff (h : v.Spells doc) {n : Nat} : v.depth ≤ n ↔ doc.toJson.depth ≤ n := by
  obtain ⟨members, rfl, hperm⟩ := h
  cases n with
  | zero => simp [depth, Document.toJson]
  | succ n =>
    rw [depth_obj_le_iff, Document.toJson, depth_obj_le_iff]
    exact forall_congr' fun e => by rw [hperm.mem_iff]

end Spells

/-- The names of an object's members are distinct, and all members but one hold no containers in
containers. -/
def FlatBut (name : String) (members : List (String × Json)) : Prop :=
  (members.map (·.1)).Nodup ∧ ∀ e ∈ members, e.1 ≠ name → e.2.depth ≤ 1

namespace FlatBut

variable {name : String} {members : List (String × Json)}

/-- Such an object is read member by member. -/
theorem exists_reread (h : FlatBut name members) : ∃ m : SortedMap Json,
    (obj members).reread = obj m.entries ∧
      ∀ other, lookup other m.entries = (lookup other members).map Json.reread :=
  ⟨_, reread_obj members, get?_reread h.1⟩

theorem depth_le_iff (h : FlatBut name members) {n : Nat} :
    (obj members).depth ≤ n + 2 ↔ ∀ v, lookup name members = some v → v.depth ≤ n + 1 := by
  rw [depth_obj_le_iff]
  constructor
  · exact fun hall v hv => hall (name, v) ((SortedMap.lookup_eq_some_iff h.1).1 hv)
  · intro hheld e he
    by_cases hname : e.1 = name
    · exact hheld e.2 ((SortedMap.lookup_eq_some_iff h.1).2 (hname ▸ he))
    · exact Nat.le_trans (h.2 e he hname) (by omega)

end FlatBut

end Json

end Keyspace
