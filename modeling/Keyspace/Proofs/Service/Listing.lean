import Keyspace.Proofs.Service.Memory

set_option autoImplicit false

namespace Keyspace.Service

def found (s : State Memory) (user space : String) : List Document :=
  (s.store.documents database).filter (spaceSelector user space).accepts

def foundAll (s : State Memory) (user : String) : List Document :=
  (s.store.documents database).filter (userSelector user).accepts

theorem length_documents (s : State Memory) :
    (s.store.documents database).length = (docs s).size := by
  simp [Memory.documents, SortedMap.values, SortedMap.size, docs]

theorem length_found_le (s : State Memory) (user space : String) :
    (found s user space).length ≤ (docs s).size := by
  rw [← length_documents]
  exact List.length_filter_le ..

theorem length_foundAll_le (s : State Memory) (user : String) :
    (foundAll s user).length ≤ (docs s).size := by
  rw [← length_documents]
  exact List.length_filter_le ..

theorem mem_filter_documents {s : State Memory} {accepts : Document → Bool} {doc : Document} :
    doc ∈ (s.store.documents database).filter accepts ↔
      ∃ id stored, (docs s).get? id = some stored ∧ stored.doc = doc ∧ accepts doc = true := by
  rw [List.mem_filter, Memory.mem_documents_iff]
  constructor
  · rintro ⟨⟨id, stored, h, hdoc⟩, haccepts⟩
    exact ⟨id, stored, h, hdoc, haccepts⟩
  · rintro ⟨id, stored, h, hdoc, haccepts⟩
    exact ⟨⟨id, stored, h, hdoc⟩, haccepts⟩

theorem mem_found {s : State Memory} {user space : String} {doc : Document} :
    doc ∈ found s user space ↔
      ∃ id stored, (docs s).get? id = some stored ∧ stored.doc = doc ∧
        doc.get? Record.userField = some (.str user) ∧
        doc.get? Record.spaceField = some (.str space) := by
  simp only [found, mem_filter_documents, spaceSelector_accepts]

theorem mem_foundAll {s : State Memory} {user : String} {doc : Document} :
    doc ∈ foundAll s user ↔
      ∃ id stored, (docs s).get? id = some stored ∧ stored.doc = doc ∧
        doc.get? Record.userField = some (.str user) := by
  simp only [foundAll, mem_filter_documents, userSelector_accepts]

theorem text?_project (doc : Document) (name : String) :
    Document.text? (doc.project [name]) name = doc.text? name := by
  simp only [Document.text?, Document.project, List.foldl_cons, List.foldl_nil,
    SortedMap.get?_insert_self, Document.field]
  cases doc.get? name <;> rfl

theorem keyOf_project (doc : Document) : keyOf (doc.project [Record.keyField]) = keyOf doc := by
  rw [keyOf, keyOf, text?_project]

theorem spaceOf_project (doc : Document) :
    spaceOf (doc.project [Record.spaceField]) = spaceOf doc := by
  rw [spaceOf, spaceOf, text?_project]

section Runs

variable {s : State Memory} {user space : String}

theorem findWhole_take (s : State Memory) (user space : String) :
    onStore (Engine.memory.find database (spaceSelector user space) none findLimit) s =
      .ok ((found s user space).take findLimit) s := by
  rw [onStore, Memory.find_run _ _ (validate_spaceSelector user space)]
  simp only [Selector.select]
  rw [← found]

theorem findWhole_memory (h : (found s user space).length ≤ findLimit) :
    onStore (Engine.memory.find database (spaceSelector user space) none findLimit) s =
      .ok (found s user space) s := by
  rw [findWhole_take, List.take_of_length_le h]

theorem listKeys_take (s : State Memory) (user space : String) (keyPrefix : Option String) :
    listKeys Engine.memory user space keyPrefix s =
      .ok (sortedKeys keyPrefix (((found s user space).take findLimit).map keyOf)) s := by
  have hkeys : (((found s user space).take findLimit).map fun doc =>
      doc.project [Record.keyField]).map keyOf =
      ((found s user space).take findLimit).map keyOf := by
    rw [List.map_map]
    exact List.map_congr_left fun doc _ => keyOf_project doc
  simp only [listKeys, bind_apply, onStore,
    Memory.find_run _ _ (validate_spaceSelector user space), Selector.select]
  rw [← found, hkeys]
  rfl

theorem listKeys_memory (h : (found s user space).length ≤ findLimit)
    (keyPrefix : Option String) :
    listKeys Engine.memory user space keyPrefix s =
      .ok (sortedKeys keyPrefix ((found s user space).map keyOf)) s := by
  rw [listKeys_take, List.take_of_length_le h]

theorem listSpaces_memory (h : (foundAll s user).length ≤ findLimit) :
    listSpaces Engine.memory user s =
      .ok (SortedMap.ofList ((foundAll s user).map fun doc => (spaceOf doc, ()))).keys s := by
  have hspaces : ((foundAll s user).map fun doc => doc.project [Record.spaceField]).map
        (fun doc => (spaceOf doc, ())) =
      (foundAll s user).map fun doc => (spaceOf doc, ()) := by
    rw [List.map_map]
    exact List.map_congr_left fun doc _ => by rw [Function.comp_apply, spaceOf_project]
  simp only [listSpaces, bind_apply, onStore,
    Memory.find_run _ _ (validate_userSelector user), Selector.select]
  rw [← foundAll, List.take_of_length_le h, hspaces]
  rfl

theorem getAll_untagged (h : (found s user space).length ≤ findLimit) (now : Instant) :
    getAll Engine.memory now user space none s =
      .ok (SortedMap.ofList ((found s user space).map fun doc =>
        (keyOf doc, doc.field Record.valueField))) s := by
  simp only [getAll, bind_apply, findWhole_memory h]
  rfl

end Runs

theorem mem_sortedKeys {keyPrefix : Option String} {keys : List String} {key : String} :
    key ∈ sortedKeys keyPrefix keys ↔
      key ∈ keys ∧ (keyPrefix.getD "").toList.isPrefixOf key.toList = true := by
  rw [sortedKeys, List.mem_mergeSort, List.mem_filter]

theorem eq_of_ascending {l r : List String} (hl : l.Pairwise (· < ·)) (hr : r.Pairwise (· < ·))
    (h : ∀ key, key ∈ l ↔ key ∈ r) : l = r := by
  have hperm : l.Perm r :=
    (List.perm_ext_iff_of_nodup (hl.imp String.ne_of_lt) (hr.imp String.ne_of_lt)).2 fun a => h a
  exact hperm.eq_of_pairwise (fun a b _ _ hab hba => absurd (String.lt_trans hab hba)
    (String.lt_irrefl a)) hl hr

theorem sortedKeys_ascending {keys : List String} (h : keys.Nodup) (keyPrefix : Option String) :
    (sortedKeys keyPrefix keys).Pairwise (· < ·) := by
  have hle : (sortedKeys keyPrefix keys).Pairwise fun a b => decide (a ≤ b) = true :=
    List.pairwise_mergeSort (fun a b c hab hbc => by
      simp only [decide_eq_true_eq] at *
      exact String.le_trans hab hbc) (fun a b => by simpa using String.le_total a b) _
  have hnodup : (sortedKeys keyPrefix keys).Nodup :=
    (List.mergeSort_perm _ _).nodup_iff.2 (h.filter _)
  refine List.Pairwise.imp ?_ (hle.and hnodup)
  rintro a b ⟨hab, hne⟩
  exact Decidable.byContradiction fun hn =>
    hne (String.le_antisymm (of_decide_eq_true hab) (String.not_lt.1 hn))

theorem sortedKeys_eq {α : Type} {keys : List String} (hnodup : keys.Nodup) {m : SortedMap α}
    (h : ∀ key, key ∈ keys ↔ key ∈ m.keys) (keyPrefix : Option String) :
    sortedKeys keyPrefix keys =
      m.keys.filter fun key => (keyPrefix.getD "").toList.isPrefixOf key.toList := by
  refine eq_of_ascending (sortedKeys_ascending hnodup keyPrefix) ?_ fun key => ?_
  · exact (List.pairwise_map.2 m.ascending).filter _
  · rw [mem_sortedKeys, List.mem_filter, h]

/-- Every document that shows a user and a namespace is under the id of the key that it shows. -/
def Placed (s : State Memory) (user space : String) : Prop :=
  ∀ id stored, (docs s).get? id = some stored →
    stored.doc.get? Record.userField = some (.str user) →
    stored.doc.get? Record.spaceField = some (.str space) →
    id = docId user space (keyOf stored.doc)

variable {s : State Memory} {user space : String}

theorem Placed.nodup_keys (h : Placed s user space) : ((found s user space).map keyOf).Nodup := by
  have hpairs : (docs s).entries.Pairwise fun a b =>
      (spaceSelector user space).accepts a.2.doc = true →
        (spaceSelector user space).accepts b.2.doc = true → keyOf a.2.doc ≠ keyOf b.2.doc := by
    refine List.Pairwise.imp_of_mem (fun {a b} ha hb hab hshowsA hshowsB hkeys => ?_)
      (docs s).ascending
    have hplaceA := h a.1 a.2 (SortedMap.get?_eq_some_iff.2 ha)
      (spaceSelector_accepts.1 hshowsA).1 (spaceSelector_accepts.1 hshowsA).2
    have hplaceB := h b.1 b.2 (SortedMap.get?_eq_some_iff.2 hb)
      (spaceSelector_accepts.1 hshowsB).1 (spaceSelector_accepts.1 hshowsB).2
    rw [hplaceA, hplaceB, hkeys] at hab
    exact String.lt_irrefl _ hab
  rw [found, Memory.documents, SortedMap.values, List.map_map]
  exact List.pairwise_map.2 (List.pairwise_filter.2 (List.pairwise_map.2 hpairs))

theorem Placed.mem_found_iff (h : Placed s user space) {doc : Document} :
    doc ∈ found s user space ↔
      ∃ stored, (docs s).get? (docId user space (keyOf doc)) = some stored ∧ stored.doc = doc ∧
        doc.get? Record.userField = some (.str user) ∧
        doc.get? Record.spaceField = some (.str space) := by
  rw [mem_found]
  constructor
  · rintro ⟨id, stored, hstored, rfl, huser, hspace⟩
    rw [← h id stored hstored huser hspace]
    exact ⟨stored, hstored, rfl, huser, hspace⟩
  · rintro ⟨stored, hstored, hdoc, hshows⟩
    exact ⟨_, stored, hstored, hdoc, hshows⟩

theorem Placed.get?_values (h : Placed s user space) {key : String} {v : Json} :
    (SortedMap.ofList ((found s user space).map fun doc =>
        (keyOf doc, doc.field Record.valueField))).get? key = some v ↔
      ∃ doc ∈ found s user space, keyOf doc = key ∧ doc.field Record.valueField = v := by
  have hnodup : (((found s user space).map fun doc =>
      (keyOf doc, doc.field Record.valueField)).map (·.1)).Nodup := by
    rw [List.map_map]
    exact h.nodup_keys
  rw [SortedMap.get?_ofList_eq_some_iff hnodup, List.mem_map]
  simp

end Keyspace.Service
