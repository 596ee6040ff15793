import Keyspace.Engine.Memory
import Keyspace.Proofs.Runs
import Keyspace.Proofs.SortedMap

set_option autoImplicit false

namespace Keyspace.Memory

@[simp] theorem database_put (m : Memory) (db id : String) (stored : StoredDocument) :
    (m.put db id stored).database db = (m.database db).insert id stored := by
  simp [put, database]

def written (m : Memory) (now : Instant) (db id : String) (doc : Document) : StoredDocument :=
  ⟨stamped doc id (token (m.nextRevision db id)), m.nextRevision db id, now⟩

def remove (m : Memory) (db id : String) : Memory :=
  { m with databases := m.databases.insert db ((m.database db).erase id) }

@[simp] theorem database_remove (m : Memory) (db id : String) :
    (m.remove db id).database db = (m.database db).erase id := by
  simp [remove, database]

theorem find?_put (m : Memory) (db id : String) (stored : StoredDocument) (db' id' : String) :
    (m.put db id stored).find? db' id' =
      if db' = db ∧ id' = id then some stored else m.find? db' id' := by
  simp only [find?, database, put, SortedMap.get?_insert]
  by_cases hdb : db' = db
  · simp [hdb, SortedMap.get?_insert]
  · simp [hdb]

theorem find?_remove (m : Memory) (db id db' id' : String) :
    (m.remove db id).find? db' id' = if db' = db ∧ id' = id then none else m.find? db' id' := by
  simp only [find?, database, remove, SortedMap.get?_insert]
  by_cases hdb : db' = db
  · simp [hdb, SortedMap.get?_erase]
  · simp [hdb]

theorem of_get?_put {m : Memory} {db id other : String} {stored found : StoredDocument}
    (h : ((m.put db id stored).database db).get? other = some found) :
    other = id ∧ found = stored ∨ (m.database db).get? other = some found := by
  rw [database_put, SortedMap.get?_insert] at h
  split at h
  · rename_i heq
    exact .inl ⟨heq, (Option.some.inj h).symm⟩
  · exact .inr h

theorem of_get?_remove {m : Memory} {db id other : String} {found : StoredDocument}
    (h : ((m.remove db id).database db).get? other = some found) :
    (m.database db).get? other = some found := by
  rw [database_remove, SortedMap.get?_erase] at h
  split at h
  · cases h
  · exact h

theorem get_run (m : Memory) (db id : String) :
    get db id m = match (m.database db).get? id with
      | some stored => .ok stored.doc m
      | none => .error (.notFound db id) m := by
  simp only [get, bind_apply, get_apply, find?]
  cases (m.database db).get? id <;> rfl

theorem save_run (m : Memory) (now : Instant) (db id : String) (doc : Document) :
    save now db id doc m =
      .ok ⟨id, token (m.nextRevision db id)⟩ (m.put db id (m.written now db id doc)) := rfl

theorem delete_run (m : Memory) (db id : String) :
    delete db id m = match (m.database db).get? id with
      | some _ => .ok () (m.remove db id)
      | none => .error (.notFound db id) m := by
  simp only [delete, bind_apply, get_apply, find?]
  cases (m.database db).get? id <;> rfl

theorem find_run (m : Memory) (db : String) {selector : Selector}
    (h : selector.validate = .ok ()) (fields : Option (List String)) (limit : Nat) :
    Engine.memory.find db selector fields limit m =
      .ok (selector.select fields limit (m.documents db)) m := by
  simp [Engine.memory, Engine.scan, h, Engine.orThrow, listAll]

theorem ensureIndex_run (m : Memory) (db : String) (index : Index) :
    ∃ m', ensureIndex db index m = .ok () m' ∧ ∀ other, m'.database other = m.database other := by
  simp only [ensureIndex, bind_apply, get_apply]
  split
  · exact ⟨m, rfl, fun _ => rfl⟩
  · exact ⟨_, rfl, fun _ => rfl⟩

theorem nextRevision_congr {m m' : Memory} {db id : String}
    (h : (m.database db).get? id = (m'.database db).get? id) :
    m.nextRevision db id = m'.nextRevision db id := by
  rw [nextRevision, nextRevision, find?, find?, h]

theorem written_congr {m m' : Memory} {db id : String}
    (h : (m.database db).get? id = (m'.database db).get? id) (now : Instant) (doc : Document) :
    m.written now db id doc = m'.written now db id doc := by
  rw [written, written, nextRevision_congr h]

theorem get?_rev_written (m : Memory) (now : Instant) (db id : String) (doc : Document) :
    (m.written now db id doc).doc.get? Document.revField =
      some (.str (token (m.nextRevision db id))) := by
  rw [written, stamped, SortedMap.get?_insert_self]

theorem mem_documents_iff {m : Memory} {db : String} {doc : Document} :
    doc ∈ m.documents db ↔
      ∃ id stored, (m.database db).get? id = some stored ∧ stored.doc = doc := by
  simp only [documents, List.mem_map, SortedMap.mem_values_iff]
  constructor
  · rintro ⟨stored, ⟨id, h⟩, rfl⟩
    exact ⟨id, stored, h, rfl⟩
  · rintro ⟨id, stored, h, rfl⟩
    exact ⟨stored, ⟨id, h⟩, rfl⟩

/-- Two memories with the same documents in every database. -/
def SameDocuments (m m' : Memory) : Prop := m.databases = m'.databases

instance : IsPreorder Memory SameDocuments where
  refl _ := rfl
  trans _ _ _ := Eq.trans

namespace SameDocuments

variable {m m' : Memory}

theorem database_eq (h : SameDocuments m m') (db : String) : m.database db = m'.database db := by
  rw [database, database, h]

theorem find?_eq (h : SameDocuments m m') (db id : String) : m.find? db id = m'.find? db id := by
  rw [find?, find?, h.database_eq]

theorem put (h : SameDocuments m m') (db id : String) (stored : StoredDocument) :
    SameDocuments (m.put db id stored) (m'.put db id stored) := by
  rw [SameDocuments, Memory.put, Memory.put, h.database_eq, h]

theorem remove (h : SameDocuments m m') (db id : String) :
    SameDocuments (m.remove db id) (m'.remove db id) := by
  rw [SameDocuments, Memory.remove, Memory.remove, h.database_eq, h]

theorem ensureIndex (m : Memory) (db : String) (index : Index) :
    SameDocuments (finalState (Memory.ensureIndex db index m)) m := by
  simp only [Memory.ensureIndex, bind_apply, get_apply]
  split <;> rfl

end SameDocuments

theorem runs_get (db id : String) : Runs SameDocuments (fun _ => True) (get db id) := fun m => by
  rw [get_run]
  cases (m.database db).get? id <;> exact ⟨refl m, fun _ _ _ => trivial⟩

theorem runs_find (db : String) {selector : Selector} (h : selector.validate = .ok ())
    (fields : Option (List String)) (limit : Nat) :
    Runs SameDocuments (fun _ => True) (Engine.memory.find db selector fields limit) := fun m => by
  rw [find_run m db h]
  exact ⟨refl m, nofun⟩

theorem runs_ensureIndex (db : String) (index : Index) :
    Runs SameDocuments (fun _ => True) (ensureIndex db index) :=
  fun m => ⟨(SameDocuments.ensureIndex m db index).symm, fun _ _ _ => trivial⟩

end Keyspace.Memory
