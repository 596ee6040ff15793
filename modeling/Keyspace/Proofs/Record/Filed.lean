import Keyspace.Engine.Memory
import Keyspace.Proofs.DocId
import Keyspace.Proofs.Record.Reading
import Keyspace.Service

set_option autoImplicit false

namespace Keyspace

namespace Record

/-- A document under the id of a user's key in a namespace. -/
structure Filed (user space key id : String) (doc : Document) : Prop where
  id_eq : id = docId user space key
  id : doc.get? Document.idField = some (.str id)
  user : doc.get? userField = some (.str user)
  key : doc.get? keyField = some (.str key)
  space : doc.get? spaceField = some (.str space) ∨ doc.get? spaceField = some (.str (named space))

/-- A document that can be read, and written again. -/
def Readable (doc : Document) : Prop := ∃ r, Reads doc r ∧ r.Timely

theorem named_of_ne {space : String} (h : space ≠ "") : named space = space := by
  simp [named, h]

theorem named_named (space : String) : named (named space) = named space := by
  unfold named
  split
  · rfl
  · simp_all

theorem named_ne_empty (space : String) : named space ≠ "" := by
  unfold named
  split
  · decide
  · simp_all

theorem insert_eq_self {doc : Document} {name : String} {v : Json} (h : doc.get? name = some v) :
    SortedMap.insert doc name v = doc := by
  refine SortedMap.ext_get? fun other => ?_
  rw [SortedMap.get?_insert]
  split
  · rename_i heq
    rw [heq, h]
  · rfl

theorem Reads.insert_rev {doc : Document} {r : Record} (h : Reads doc r) (rev : String) :
    Reads (SortedMap.insert doc Document.revField (.str rev)) { r with rev := some rev } := by
  have herase : (SortedMap.insert doc Document.revField (.str rev)).erase Document.revField =
      SortedMap.erase doc Document.revField := by
    refine SortedMap.ext_get? fun name => ?_
    rw [SortedMap.get?_erase, SortedMap.get?_erase, SortedMap.get?_insert]
    split <;> rfl
  have hrev : readField (SortedMap.insert doc Document.revField (.str rev)) Document.revField none
      (fun v => v.readOption Json.readText) = .ok (some rev) := by
    rw [readField, SortedMap.get?_insert_self]
    rfl
  have hread := ofDocument_eq_ok_iff.2 h
  rw [ofDocument_erase_rev h.rev] at hread
  refine ofDocument_eq_ok_iff.1 ?_
  rw [ofDocument_erase_rev hrev, herase]
  cases hbase : ofDocument (SortedMap.erase doc Document.revField) with
  | error e => rw [hbase] at hread; cases hread
  | ok base =>
    rw [hbase] at hread
    rw [← Except.ok.inj hread]
    rfl

namespace Filed

variable {user space key id : String} {doc : Document}

theorem user_of_reads (h : Filed user space key id doc) {r : Record} (hr : Reads doc r) :
    r.user = user := by
  have hread := hr.user
  rw [readField, h.user] at hread
  exact (Except.ok.inj hread).symm

theorem key_of_reads (h : Filed user space key id doc) {r : Record} (hr : Reads doc r) :
    r.key = key := by
  have hread := hr.key
  rw [readField, h.key] at hread
  exact (Except.ok.inj hread).symm

theorem space_of_reads (h : Filed user space key id doc) {r : Record} (hr : Reads doc r) :
    r.space = named space := by
  have hread := hr.space
  have hname : ∀ s, readSpace (.str s) = .ok (named s) := fun s => rfl
  rcases h.space with hs | hs
  · rw [readField, hs] at hread
    exact (Except.ok.inj hread).symm
  · rw [readField, hs] at hread
    have hnamed := (Except.ok.inj ((hname _).symm.trans hread)).symm
    rwa [named_named] at hnamed

theorem keyOf_eq (h : Filed user space key id doc) : Service.keyOf doc = key := by
  simp [Service.keyOf, Document.text?, h.key, Json.text?]

theorem spaceOf_eq (h : Filed user space key id doc) : Service.spaceOf doc = named space := by
  have hread : ∀ s, doc.get? spaceField = some (.str s) → Service.spaceOf doc = named s :=
    fun s hs => by simp [Service.spaceOf, Document.text?, hs, Json.text?, named]
  rcases h.space with hs | hs
  · exact hread space hs
  · rw [hread _ hs, named_named]

theorem space_of_ne (h : Filed user space key id doc) (hspace : space ≠ "") :
    doc.get? spaceField = some (.str space) := by
  have hshown := h.space
  rw [named_of_ne hspace, or_self] at hshown
  exact hshown

theorem eq_empty_of_space (h : Filed user space key id doc)
    (hshown : doc.get? spaceField = some (.str "")) : space = "" := by
  rcases h.space with hs | hs
  · rw [hshown] at hs
    simpa using hs.symm
  · rw [hshown] at hs
    exact absurd (by simpa using hs.symm) (named_ne_empty space)

theorem insert_rev (h : Filed user space key id doc) (v : Json) :
    Filed user space key id (SortedMap.insert doc Document.revField v) := by
  have hget : ∀ name, name ≠ Document.revField →
      (SortedMap.insert doc Document.revField v).get? name = doc.get? name := fun name hname => by
    rw [SortedMap.get?_insert, if_neg hname]
  exact ⟨h.id_eq, by rw [hget _ (by decide), h.id], by rw [hget _ (by decide), h.user],
    by rw [hget _ (by decide), h.key], by rw [hget _ (by decide)]; exact h.space⟩

theorem stamped_eq (h : Filed user space key id doc) (rev : String) :
    Memory.stamped doc id rev = SortedMap.insert doc Document.revField (.str rev) := by
  rw [Memory.stamped, insert_eq_self h.id]

theorem counted (h : Filed user space key id doc) {agent : String} {now : Instant}
    {doc' : Document} (hcount : countRead doc agent now = some doc') :
    Filed user space key id doc' := by
  have hget : ∀ name, name ∉ [accessCountField, lastAccessedAtField, lastAccessedByField] →
      doc'.get? name = doc.get? name := fun name hname => get?_countRead_of_ne hcount hname
  exact ⟨h.id_eq, by rw [hget _ (by decide), h.id], by rw [hget _ (by decide), h.user],
    by rw [hget _ (by decide), h.key], by rw [hget _ (by decide)]; exact h.space⟩

end Filed

theorem filed_toDocument {r : Record} {space : String} (h : r.ExtraUnknown)
    (hid : r.id = docId r.user space r.key) (hspace : r.space = space ∨ r.space = named space) :
    Filed r.user space r.key r.id r.toDocument where
  id_eq := hid
  id := get?_toDocument h (by simp [entries])
  user := get?_toDocument h (by simp [entries])
  key := get?_toDocument h (by simp [entries])
  space := by
    rw [get?_toDocument h (v := .str r.space) (by simp [entries])]
    rcases hspace with hs | hs
    · exact .inl (by rw [hs])
    · exact .inr (by rw [hs])

theorem filed_fresh (user space key : String) (value : Json) (metadata : Document)
    (agent : Option String) (now : Instant) :
    Filed user space key (docId user space key)
      (fresh user space key value metadata agent now).toDocument :=
  filed_toDocument (r := fresh user space key value metadata agent now) (fun _ _ => rfl) rfl
    (.inl rfl)

theorem timely_fresh (user space key : String) (value : Json) (metadata : Document)
    (agent : Option String) {now : Instant} (h : now.InRange) :
    (fresh user space key value metadata agent now).Timely := by
  intro t ht
  cases agent <;> simp_all [fresh]

theorem readable_toDocument {r : Record} (h : r.ExtraUnknown) (ht : r.Timely) :
    Readable r.toDocument :=
  ⟨_, reads_toDocument h ht, ht⟩

theorem extraUnknown_updated {doc : Document} {r : Record} (h : Reads doc r) (id : String)
    (value : Json) (agent : Option String) (metadata : Option Document) (now : Instant) :
    (Service.updated r id value agent metadata now).ExtraUnknown :=
  h.extraUnknown

theorem timely_updated {r : Record} (h : r.Timely) (id : String) (value : Json)
    (agent : Option String) (metadata : Option Document) {now : Instant} (hnow : now.InRange) :
    (Service.updated r id value agent metadata now).Timely := by
  rintro t (ht | ht | ht)
  · exact h t (.inl ht)
  · cases ht
    exact hnow
  · cases agent with
    | none => exact h t (.inr (.inr ht))
    | some agent =>
      cases ht
      exact hnow

theorem Filed.updated {user space key id : String} {doc : Document}
    (h : Filed user space key id doc) {r : Record} (hr : Reads doc r) (value : Json)
    (agent : Option String) (metadata : Option Document) (now : Instant) :
    Filed user space key id (Service.updated r id value agent metadata now).toDocument := by
  have huser := h.user_of_reads hr
  have hkey := h.key_of_reads hr
  have hspace := h.space_of_reads hr
  subst huser hkey
  exact filed_toDocument (r := Service.updated r id value agent metadata now)
    (extraUnknown_updated hr id value agent metadata now) h.id_eq (.inr hspace)

theorem Readable.counted {doc doc' : Document} {agent : String} {now : Instant}
    (h : Readable doc) (hcount : countRead doc agent now = some doc') (hnow : now.InRange) :
    Readable doc' := by
  obtain ⟨r, hr, ht⟩ := h
  refine ⟨_, hr.counted hcount hnow, ?_⟩
  rintro t (hc | hu | ha)
  · exact ht t (.inl hc)
  · exact ht t (.inr (.inl hu))
  · cases ha
    exact hnow

theorem Readable.insert_rev {doc : Document} (h : Readable doc) (rev : String) :
    Readable (SortedMap.insert doc Document.revField (.str rev)) := by
  obtain ⟨r, hr, ht⟩ := h
  exact ⟨_, hr.insert_rev rev, ht⟩

end Record

end Keyspace
