import Keyspace.SortedMap
import Mathlib.Data.List.Forall2

set_option autoImplicit false

namespace Keyspace

namespace SortedMap

variable {α β : Type}

theorem lookup_reverse_entries (m : SortedMap α) (key : String) :
    lookup key m.entries.reverse = m.get? key := by
  rw [← get?_ofList, ofList_entries]

theorem exists_lookup_iff {key : String} {l : List (String × α)} :
    (∃ value, lookup key l = some value) ↔ key ∈ l.map (·.1) := by
  induction l with
  | nil => simp [lookup]
  | cons hd rest ih =>
    by_cases h : key = hd.1
    · simp [lookup, h]
    · simp [lookup, h, ih]

theorem exists_get?_ofList_iff {key : String} {entries : List (String × α)} :
    (∃ value, (ofList entries).get? key = some value) ↔ key ∈ entries.map (·.1) := by
  rw [get?_ofList, exists_lookup_iff, List.map_reverse, List.mem_reverse]

theorem lookup_reverse_eq_some_iff {entries : List (String × α)} (h : (entries.map (·.1)).Nodup)
    {key : String} {value : α} :
    lookup key entries.reverse = some value ↔ (key, value) ∈ entries := by
  have hreverse : (entries.reverse.map (·.1)).Nodup := by
    rw [List.map_reverse]
    exact List.pairwise_reverse.2 (h.imp Ne.symm)
  rw [lookup_eq_some_iff hreverse, List.mem_reverse]

theorem get?_ofList_eq_some_iff {entries : List (String × α)} (h : (entries.map (·.1)).Nodup)
    {key : String} {value : α} :
    (ofList entries).get? key = some value ↔ (key, value) ∈ entries := by
  rw [get?_ofList, lookup_reverse_eq_some_iff h]

theorem get?_extend_of_mem {entries : List (String × α)} (h : (entries.map (·.1)).Nodup)
    {key : String} {value : α} (hmem : (key, value) ∈ entries) (m : SortedMap α) :
    (m.extend entries).get? key = some value := by
  rw [get?_extend, (lookup_reverse_eq_some_iff h).2 hmem, Option.some_or]

theorem get?_extend_of_notMem {entries : List (String × α)} {key : String}
    (h : key ∉ entries.map (·.1)) (m : SortedMap α) : (m.extend entries).get? key = m.get? key := by
  have hnone : lookup key entries.reverse = none := by
    rw [← List.mem_reverse, ← List.map_reverse, ← exists_lookup_iff] at h
    cases hlookup : lookup key entries.reverse with
    | none => rfl
    | some value => exact absurd ⟨value, hlookup⟩ h
  rw [get?_extend, hnone, Option.none_or]

theorem filter_insert_of_keep {m : SortedMap α} {keep : String → α → Bool} {key : String}
    {value : α} (h : keep key value = true) :
    (m.insert key value).filter keep = (m.filter keep).insert key value := by
  refine ext_get? fun other => ?_
  rw [get?_filter, get?_insert, get?_insert, get?_filter]
  split
  · rename_i heq
    simp [heq, h]
  · rfl

theorem filter_insert_of_not_keep {m : SortedMap α} {keep : String → α → Bool} {key : String}
    {value : α} (h : keep key value = false) (hold : (m.get? key).filter (keep key) = none) :
    (m.insert key value).filter keep = m.filter keep := by
  refine ext_get? fun other => ?_
  rw [get?_filter, get?_filter, get?_insert]
  split
  · rename_i heq
    subst heq
    rw [hold]
    simp [h]
  · rfl

theorem insert_filter_contains {m : SortedMap α} {keys : List String} {key : String} {value : α}
    (h : m.get? key = some value) :
    (m.filter fun k _ => keys.contains k).insert key value =
      m.filter fun k _ => (keys ++ [key]).contains k := by
  refine ext_get? fun other => ?_
  rw [get?_insert, get?_filter, get?_filter]
  split
  · rename_i heq
    simp [heq, h, Option.filter]
  · rename_i hne
    cases m.get? other <;> simp [Option.filter, hne]

theorem filter_contains_append {m : SortedMap α} {keys : List String} {key : String}
    (h : m.get? key = none) :
    (m.filter fun k _ => keys.contains k) = m.filter fun k _ => (keys ++ [key]).contains k := by
  refine ext_get? fun other => ?_
  rw [get?_filter, get?_filter]
  by_cases heq : other = key
  · rw [heq, h]
    rfl
  · cases m.get? other <;> simp [Option.filter, heq]

theorem filter_erase (m : SortedMap α) (keep : String → α → Bool) (key : String) :
    (m.erase key).filter keep = (m.filter keep).erase key := by
  refine ext_get? fun other => ?_
  rw [get?_filter, get?_erase, get?_erase, get?_filter]
  split <;> rfl

theorem filter_map (m : SortedMap α) (f : α → β) (keep : String → Bool) :
    (m.map f).filter (fun key _ => keep key) = (m.filter fun key _ => keep key).map f := by
  refine ext_get? fun key => ?_
  rw [get?_filter, get?_map, get?_map, get?_filter]
  cases m.get? key with
  | none => rfl
  | some v => cases keep key <;> simp [Option.filter]

theorem erase_eq_self {m : SortedMap α} {key : String} (h : m.get? key = none) :
    m.erase key = m := by
  refine ext_get? fun other => ?_
  rw [get?_erase]
  split
  · rename_i heq
    rw [heq, h]
  · rfl

theorem values_map (m : SortedMap α) (f : α → β) : (m.map f).values = m.values.map f := by
  simp [values, map]

theorem mem_values_iff {m : SortedMap α} {value : α} :
    value ∈ m.values ↔ ∃ key, m.get? key = some value := by
  simp [values, get?_eq_some_iff]

theorem mem_keys_iff {m : SortedMap α} {key : String} :
    key ∈ m.keys ↔ ∃ value, m.get? key = some value := by
  simp [keys, get?_eq_some_iff]

theorem filterMap_get?_keys (m : SortedMap α) : m.keys.filterMap m.get? = m.values := by
  rw [keys, values, List.filterMap_map, ← List.filterMap_eq_map]
  refine List.filterMap_congr fun e he => ?_
  exact get?_eq_some_iff.2 he

theorem forall₂_values {P : α → β → Prop} {m : SortedMap α} {n : SortedMap β}
    (h : ∀ key, Option.Rel P (m.get? key) (n.get? key)) : List.Forall₂ P m.values n.values := by
  have hunits : m.map (fun _ => ()) = n.map fun _ => () := by
    refine ext_get? fun key => ?_
    have hkey := h key
    rw [get?_map, get?_map]
    generalize m.get? key = v, n.get? key = w at hkey
    cases hkey <;> rfl
  have hkeys : m.keys = n.keys := by
    have hmap := congrArg SortedMap.keys hunits
    simpa [keys, map, Function.comp_def] using hmap
  rw [← filterMap_get?_keys, ← filterMap_get?_keys, ← hkeys]
  refine List.rel_filterMap (R := Eq) ?_ (List.forall₂_eq_eq_eq ▸ rfl)
  rintro key _ rfl
  exact h key

theorem ofList_map (f : α → β) (entries : List (String × α)) :
    ofList (entries.map fun e => (e.1, f e.2)) = (ofList entries).map f := by
  refine ext_get? fun key => ?_
  rw [get?_map, get?_ofList, get?_ofList, ← List.map_reverse, lookup_map]

theorem map_map {γ : Type} (m : SortedMap α) (f : α → β) (g : β → γ) :
    (m.map f).map g = m.map fun v => g (f v) := by
  refine ext_get? fun key => ?_
  simp only [get?_map, Option.map_map, Function.comp_def]

def All (P : α → Prop) (m : SortedMap α) : Prop := ∀ key value, m.get? key = some value → P value

namespace All

variable {P Q : α → Prop} {m : SortedMap α}

theorem iff_entries : All P m ↔ ∀ e ∈ m.entries, P e.2 :=
  ⟨fun h e he => h e.1 e.2 (get?_eq_some_iff.2 he),
    fun h key value hget => h (key, value) (get?_eq_some_iff.1 hget)⟩

theorem imp (h : All P m) (hPQ : ∀ v, P v → Q v) : All Q m :=
  fun key value hget => hPQ value (h key value hget)

theorem empty : All P SortedMap.empty := fun _ _ hget => by simp at hget

theorem insert (h : All P m) (key : String) {value : α} (hvalue : P value) :
    All P (m.insert key value) := by
  intro other v hget
  rw [get?_insert] at hget
  split at hget
  · exact Option.some.inj hget ▸ hvalue
  · exact h other v hget

theorem erase (h : All P m) (key : String) : All P (m.erase key) := by
  intro other v hget
  rw [get?_erase] at hget
  split at hget
  · cases hget
  · exact h other v hget

theorem filter (h : All P m) (keep : String → α → Bool) : All P (m.filter keep) := by
  intro key v hget
  rw [get?_filter] at hget
  exact h key v (Option.filter_eq_some_iff.1 hget).1

theorem extend (h : All P m) {entries : List (String × α)} (hentries : ∀ e ∈ entries, P e.2) :
    All P (m.extend entries) := by
  induction entries generalizing m with
  | nil => exact h
  | cons e entries ih =>
    exact ih (h.insert e.1 (hentries e List.mem_cons_self)) fun e' he =>
      hentries e' (List.mem_cons_of_mem e he)

theorem ofList {entries : List (String × α)} (h : ∀ e ∈ entries, P e.2) :
    All P (SortedMap.ofList entries) := empty.extend h

theorem map_eq_self {f : α → α} (h : All (fun v => f v = v) m) : m.map f = m := by
  refine ext_get? fun key => ?_
  rw [get?_map]
  cases hget : m.get? key with
  | none => rfl
  | some v => rw [Option.map_some, h key v hget]

end All

end SortedMap

end Keyspace
