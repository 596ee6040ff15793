set_option autoImplicit false

namespace Keyspace

/-- A finite map from strings: its entries, in strictly ascending order of their keys. -/
@[ext] structure SortedMap (α : Type) where
  entries : List (String × α)
  ascending : entries.Pairwise fun a b => a.1 < b.1

namespace SortedMap

variable {α β : Type}

instance [DecidableEq α] : DecidableEq (SortedMap α) := fun m n =>
  decidable_of_iff (m.entries = n.entries) SortedMap.ext_iff.symm

def empty : SortedMap α := ⟨[], .nil⟩

instance : EmptyCollection (SortedMap α) := ⟨empty⟩

instance : Inhabited (SortedMap α) := ⟨empty⟩

def lookup (key : String) : List (String × α) → Option α
  | [] => none
  | (k, v) :: rest => if key = k then some v else lookup key rest

def get? (m : SortedMap α) (key : String) : Option α := lookup key m.entries

def contains (m : SortedMap α) (key : String) : Bool := (m.get? key).isSome

def keys (m : SortedMap α) : List String := m.entries.map (·.1)

def values (m : SortedMap α) : List α := m.entries.map (·.2)

def size (m : SortedMap α) : Nat := m.entries.length

def insertEntry (key : String) (value : α) : List (String × α) → List (String × α)
  | [] => [(key, value)]
  | (k, v) :: rest =>
    if key < k then (key, value) :: (k, v) :: rest
    else if key = k then (key, value) :: rest
    else (k, v) :: insertEntry key value rest

theorem mem_insertEntry {key : String} {value : α} {e : String × α} {l : List (String × α)}
    (h : e ∈ insertEntry key value l) : e = (key, value) ∨ e ∈ l := by
  induction l with
  | nil => exact .inl (by simpa [insertEntry] using h)
  | cons hd rest ih =>
    obtain ⟨k, v⟩ := hd
    rw [insertEntry] at h
    split at h
    · simpa using h
    · split at h
      · rcases List.mem_cons.1 h with h | h
        · exact .inl h
        · exact .inr (List.mem_cons_of_mem _ h)
      · rcases List.mem_cons.1 h with h | h
        · exact .inr (h ▸ List.mem_cons_self)
        · exact (ih h).imp_right (List.mem_cons_of_mem _)

theorem insertEntry_ascending {key : String} {value : α} {l : List (String × α)}
    (h : l.Pairwise fun a b => a.1 < b.1) :
    (insertEntry key value l).Pairwise fun a b => a.1 < b.1 := by
  induction l with
  | nil => simp [insertEntry]
  | cons hd rest ih =>
    obtain ⟨k, v⟩ := hd
    obtain ⟨hk, hrest⟩ := List.pairwise_cons.1 h
    rw [insertEntry]
    split
    · rename_i hlt
      refine List.pairwise_cons.2 ⟨fun e he => ?_, h⟩
      rcases List.mem_cons.1 he with rfl | he
      · exact hlt
      · exact String.lt_trans hlt (hk e he)
    · rename_i hnlt
      split
      · rename_i heq
        exact List.pairwise_cons.2 ⟨fun e he => heq ▸ hk e he, hrest⟩
      · rename_i hne
        refine List.pairwise_cons.2 ⟨fun e he => ?_, ih hrest⟩
        rcases mem_insertEntry he with rfl | he
        · refine Decidable.byContradiction fun hn => hne ?_
          exact String.le_antisymm (String.not_lt.1 hn) (String.not_lt.1 hnlt)
        · exact hk e he

def insert (m : SortedMap α) (key : String) (value : α) : SortedMap α :=
  ⟨insertEntry key value m.entries, insertEntry_ascending m.ascending⟩

def erase (m : SortedMap α) (key : String) : SortedMap α :=
  ⟨m.entries.filter (·.1 ≠ key), m.ascending.filter _⟩

def filter (m : SortedMap α) (keep : String → α → Bool) : SortedMap α :=
  ⟨m.entries.filter fun e => keep e.1 e.2, m.ascending.filter _⟩

def map (m : SortedMap α) (f : α → β) : SortedMap β :=
  ⟨m.entries.map fun e => (e.1, f e.2), m.ascending.map _ fun _ _ h => h⟩

/-- The map with every entry of a list put in, from left to right: the last of equal keys wins. -/
def extend (m : SortedMap α) (entries : List (String × α)) : SortedMap α :=
  entries.foldl (fun m e => m.insert e.1 e.2) m

def ofList (entries : List (String × α)) : SortedMap α := empty.extend entries

@[simp] theorem get?_empty (key : String) : (empty : SortedMap α).get? key = none := rfl

theorem lookup_insertEntry (key key' : String) (value : α) (l : List (String × α)) :
    lookup key' (insertEntry key value l) = if key' = key then some value else lookup key' l := by
  induction l with
  | nil => rfl
  | cons hd rest ih =>
    obtain ⟨k, v⟩ := hd
    rw [insertEntry]
    split
    · rfl
    · split
      · rename_i heq
        subst heq
        by_cases h : key' = key <;> simp [lookup, h]
      · rename_i hne
        by_cases hk : key' = k
        · have : ¬ k = key := fun h => hne h.symm
          simp [lookup, hk, this]
        · simp [lookup, hk, ih]

theorem get?_insert (m : SortedMap α) (key key' : String) (value : α) :
    (m.insert key value).get? key' = if key' = key then some value else m.get? key' :=
  lookup_insertEntry key key' value m.entries

@[simp] theorem get?_insert_self (m : SortedMap α) (key : String) (value : α) :
    (m.insert key value).get? key = some value := by simp [get?_insert]

theorem lookup_filter_ne (key key' : String) (l : List (String × α)) :
    lookup key' (l.filter (·.1 ≠ key)) = if key' = key then none else lookup key' l := by
  induction l with
  | nil => simp [lookup]
  | cons hd rest ih =>
    obtain ⟨k, v⟩ := hd
    by_cases hk : k = key
    · subst hk
      by_cases h : key' = k <;> simp_all [lookup]
    · by_cases h : key' = k
      · subst h
        simp [lookup, hk]
      · simp_all [lookup]

theorem get?_erase (m : SortedMap α) (key key' : String) :
    (m.erase key).get? key' = if key' = key then none else m.get? key' :=
  lookup_filter_ne key key' m.entries

theorem lookup_eq_none_of_lt {key : String} {l : List (String × α)}
    (h : ∀ e ∈ l, key < e.1) : lookup key l = none := by
  induction l with
  | nil => rfl
  | cons hd rest ih =>
    obtain ⟨k, v⟩ := hd
    have hk : key ≠ k := fun e => String.lt_irrefl k (e ▸ h (k, v) List.mem_cons_self)
    simp [lookup, hk, ih fun e he => h e (List.mem_cons_of_mem _ he)]

theorem entries_eq_of_lookup {l r : List (String × α)}
    (hl : l.Pairwise fun a b => a.1 < b.1) (hr : r.Pairwise fun a b => a.1 < b.1)
    (h : ∀ key, lookup key l = lookup key r) : l = r := by
  induction l generalizing r with
  | nil =>
    cases r with
    | nil => rfl
    | cons e rest => simpa [lookup] using h e.1
  | cons a l ih =>
    obtain ⟨ka, va⟩ := a
    obtain ⟨hal, hl⟩ := List.pairwise_cons.1 hl
    cases r with
    | nil => simpa [lookup] using h ka
    | cons b r =>
      obtain ⟨kb, vb⟩ := b
      obtain ⟨hbr, htail⟩ := List.pairwise_cons.1 hr
      have first : ka = kb := by
        refine Decidable.byContradiction fun hne => ?_
        rcases String.le_total ka kb with hab | hba
        · have hlt : ka < kb := Decidable.byContradiction fun hn =>
            hne (String.le_antisymm hab (String.not_lt.1 hn))
          have := h ka
          simp [lookup, hne,
            lookup_eq_none_of_lt fun e he => String.lt_trans hlt (hbr e he)] at this
        · have hlt : kb < ka := Decidable.byContradiction fun hn =>
            hne (String.le_antisymm (String.not_lt.1 hn) hba)
          have := h kb
          simp [lookup, Ne.symm hne,
            lookup_eq_none_of_lt fun e he => String.lt_trans hlt (hal e he)] at this
      subst first
      have value : va = vb := by simpa [lookup] using h ka
      subst value
      congr 1
      refine ih hl htail fun key => ?_
      by_cases hk : key = ka
      · subst hk
        rw [lookup_eq_none_of_lt hal, lookup_eq_none_of_lt hbr]
      · simpa [lookup, hk] using h key

/-- Maps that answer every lookup alike are equal. -/
theorem ext_get? {m n : SortedMap α} (h : ∀ key, m.get? key = n.get? key) : m = n :=
  SortedMap.ext (entries_eq_of_lookup m.ascending n.ascending h)

theorem lookup_eq_some_iff {key : String} {value : α} {l : List (String × α)}
    (h : (l.map (·.1)).Nodup) : lookup key l = some value ↔ (key, value) ∈ l := by
  induction l with
  | nil => simp [lookup]
  | cons hd rest ih =>
    obtain ⟨k, v⟩ := hd
    obtain ⟨hk, hrest⟩ := List.nodup_cons.1 h
    by_cases he : key = k
    · subst he
      have absent : (key, value) ∉ rest := fun hm => hk (List.mem_map.2 ⟨_, hm, rfl⟩)
      simp [lookup, absent, eq_comm]
    · simp [lookup, he, ih hrest]

theorem keys_nodup (m : SortedMap α) : m.keys.Nodup :=
  List.pairwise_map.2 (m.ascending.imp String.ne_of_lt)

theorem get?_eq_some_iff {m : SortedMap α} {key : String} {value : α} :
    m.get? key = some value ↔ (key, value) ∈ m.entries :=
  lookup_eq_some_iff m.keys_nodup

theorem get?_eq_none_iff {m : SortedMap α} {key : String} :
    m.get? key = none ↔ key ∉ m.keys := by
  constructor
  · intro h hk
    obtain ⟨e, he, rfl⟩ := List.mem_map.1 hk
    exact absurd (h.symm.trans (get?_eq_some_iff.2 he)) (by simp)
  · intro h
    cases hv : m.get? key with
    | none => rfl
    | some v => exact absurd (List.mem_map.2 ⟨_, get?_eq_some_iff.1 hv, rfl⟩) h

theorem lookup_map (f : α → β) (key : String) (l : List (String × α)) :
    lookup key (l.map fun e => (e.1, f e.2)) = (lookup key l).map f := by
  induction l with
  | nil => rfl
  | cons hd rest ih => by_cases h : key = hd.1 <;> simp [lookup, h, ih]

theorem get?_map (m : SortedMap α) (f : α → β) (key : String) :
    (m.map f).get? key = (m.get? key).map f :=
  lookup_map f key m.entries

theorem get?_filter (m : SortedMap α) (keep : String → α → Bool) (key : String) :
    (m.filter keep).get? key = (m.get? key).filter (keep key) := by
  refine Option.ext fun v => ?_
  rw [get?_eq_some_iff, Option.filter_eq_some_iff, get?_eq_some_iff]
  simp [filter]

theorem lookup_append (l r : List (String × α)) (key : String) :
    lookup key (l ++ r) = (lookup key l).or (lookup key r) := by
  induction l with
  | nil => rfl
  | cons hd rest ih => by_cases h : key = hd.1 <;> simp [lookup, h, ih]

theorem get?_extend (m : SortedMap α) (entries : List (String × α)) (key : String) :
    (m.extend entries).get? key = (lookup key entries.reverse).or (m.get? key) := by
  unfold extend
  induction entries generalizing m with
  | nil => rfl
  | cons e rest ih =>
    rw [List.foldl_cons, ih, get?_insert, List.reverse_cons, lookup_append, Option.or_assoc]
    by_cases h : key = e.1 <;> simp [lookup, h]

theorem get?_ofList (entries : List (String × α)) (key : String) :
    (ofList entries).get? key = lookup key entries.reverse := by
  rw [ofList, get?_extend, get?_empty, Option.or_none]

theorem ofList_entries (m : SortedMap α) : ofList m.entries = m := by
  refine ext_get? fun key => Option.ext fun v => ?_
  have unique : (m.entries.reverse.map (·.1)).Nodup := by
    rw [List.map_reverse]
    exact List.pairwise_reverse.2 (m.keys_nodup.imp Ne.symm)
  rw [get?_ofList, lookup_eq_some_iff unique, List.mem_reverse, get?_eq_some_iff]

end SortedMap

end Keyspace
