import Keyspace.Proofs.Record.Reading
import Keyspace.Service

set_option autoImplicit false

namespace Keyspace

def Document.fieldOr (doc : Document) (name : String) (default : Json) : Json :=
  match doc.field name with
  | .null => default
  | v => v

namespace Record

def instantOf? (doc : Document) (name : String) : Option Instant :=
  (Document.text? doc name).bind Instant.ofText?

def metadataOf (doc : Document) : Document :=
  ((doc.get? metadataField).bind Json.map?).getD SortedMap.empty

/-- A document with a value set anew, at a time and perhaps by an agent. Given metadata go over the
ones that are there, name by name. All other fields stay as they are, but that a field which records
know is put in where it is missing or blank, and that a time is written in the one form that is used
for times. -/
def revise (doc : Document) (id rev : String) (value : Json) (agent : Option String)
    (metadata : Option Document) (now : Instant) : Document :=
  doc.extend
    [(Document.revField, .str rev),
      (Document.idField, .str id),
      (userField, doc.fieldOr userField (.str "")),
      (spaceField, .str (Service.spaceOf doc)),
      (keyField, doc.fieldOr keyField (.str "")),
      (valueField, value),
      (metadataField,
        Document.toJson ((metadataOf doc).extend (metadata.getD SortedMap.empty).entries)),
      (createdByField, doc.field createdByField),
      (lastAccessedByField, (agent.map Json.str).getD (doc.field lastAccessedByField)),
      (accessCountField, doc.fieldOr accessCountField (.num (.natural 0))),
      (createdAtField, instantJson (instantOf? doc createdAtField)),
      (updatedAtField, .str now.text),
      (lastAccessedAtField,
        instantJson ((agent.map fun _ => now).or (instantOf? doc lastAccessedAtField)))]

theorem toDocument_eq_extend {doc : Document} {r : Record} {rev : String}
    (hextra : r.extra = doc.filter fun name _ => !knownFields.contains name)
    (hrev : r.rev = some rev) :
    r.toDocument = doc.extend ((Document.revField, .str rev) :: r.entries) := by
  have hunknown : r.ExtraUnknown := fun name hname => by rw [hextra, get?_unknown_of_mem doc hname]
  have hnames : ((Document.revField, .str rev) :: r.entries).map (·.1) =
      Document.revField :: entryNames := rfl
  have hnodup : (Document.revField :: entryNames).Nodup := by decide
  refine SortedMap.ext_get? fun name => ?_
  by_cases hname : name ∈ Document.revField :: entryNames
  · rw [← hnames] at hname hnodup
    obtain ⟨⟨_, v⟩, hmem, rfl⟩ := List.mem_map.1 hname
    rw [SortedMap.get?_extend_of_mem hnodup hmem]
    rcases List.mem_cons.1 hmem with hrevision | hentry
    · cases hrevision
      rw [get?_toDocument_rev hunknown, hrev, Option.map_some]
    · exact get?_toDocument hunknown hentry
  · have hall : ∀ name ∈ knownFields, name ∈ Document.revField :: entryNames := by decide
    have hother : name ∉ knownFields := fun hknown => hname (hall name hknown)
    rw [SortedMap.get?_extend_of_notMem (hnames ▸ hname), get?_toDocument_unknown hother, hextra,
      SortedMap.get?_filter]
    cases doc.get? name <;> simp [hother]

section Fields

variable {doc : Document} {name : String}

theorem str_of_readText {s : String} (h : readField doc name "" Json.readText = .ok s) :
    .str s = doc.fieldOr name (.str "") := by
  unfold Document.fieldOr Document.field
  rcases readField_eq_ok_iff.1 h with ⟨hnone, rfl⟩ | ⟨v, hv, hread⟩
  · rw [hnone, Option.getD_none]
  · rw [hv, Option.getD_some]
    cases v <;> cases hread
    rfl

theorem ofText?_of_readOption {t : Option String}
    (h : readField doc name none (fun v => v.readOption Json.readText) = .ok t) :
    Json.ofText? t = doc.field name := by
  unfold Document.field
  rcases readField_eq_ok_iff.1 h with ⟨hnone, rfl⟩ | ⟨v, hv, hread⟩
  · rw [hnone, Option.getD_none, Json.ofText?]
  · rw [hv, Option.getD_some]
    cases v <;> cases hread <;> rfl

theorem natural_of_readNat64 {n : UInt64}
    (h : readField doc name 0 (fun v => return (← v.readOption Json.readNat64).getD 0) = .ok n) :
    .num (.natural n) = doc.fieldOr name (.num (.natural 0)) := by
  unfold Document.fieldOr Document.field
  rcases readField_eq_ok_iff.1 h with ⟨hnone, rfl⟩ | ⟨v, hv, hread⟩
  · rw [hnone, Option.getD_none]
  · rw [hv, Option.getD_some]
    cases v with
    | null =>
      cases hread
      rfl
    | num m =>
      cases m <;> cases hread
      rfl
    | bool | str | arr | obj => cases hread

theorem eq_instantOf?_of_readInstant {t : Option Instant}
    (h : readField doc name none readInstant = .ok t) : t = instantOf? doc name := by
  unfold instantOf? Document.text?
  rcases readField_eq_ok_iff.1 h with ⟨hnone, rfl⟩ | ⟨v, hv, hread⟩
  · rw [hnone]
    rfl
  · rw [hv]
    cases v with
    | null =>
      cases hread
      rfl
    | str s =>
      simp only [readInstant, Json.readOption, Json.readText, bind, Except.bind, Except.map]
        at hread
      by_cases hempty : s.isEmpty = true
      · rw [if_pos hempty] at hread
        cases hread
        rw [String.isEmpty_iff.1 hempty]
        rfl
      · rw [if_neg hempty] at hread
        cases htext : Instant.ofText? s with
        | none =>
          rw [htext] at hread
          cases hread
        | some t =>
          rw [htext] at hread
          cases hread
          exact htext.symm
    | bool | num | arr | obj => cases hread

theorem eq_metadataOf_of_readMap {m : Document}
    (h : readField doc metadataField SortedMap.empty
      (fun v => return (← v.readOption Json.readMap).getD SortedMap.empty) = .ok m) :
    m = metadataOf doc := by
  unfold metadataOf
  rcases readField_eq_ok_iff.1 h with ⟨hnone, rfl⟩ | ⟨v, hv, hread⟩
  · rw [hnone]
    rfl
  · rw [hv]
    cases v <;> cases hread <;> rfl

theorem eq_spaceOf_of_readSpace {space : String}
    (h : readField doc spaceField defaultSpace readSpace = .ok space) :
    space = Service.spaceOf doc := by
  unfold Service.spaceOf Document.text?
  rcases readField_eq_ok_iff.1 h with ⟨hnone, rfl⟩ | ⟨v, hv, hread⟩
  · rw [hnone]
    rfl
  · rw [hv]
    cases v <;> cases hread <;> rfl

end Fields

/-- A record that is read from a document and set anew is written as the document, revised. -/
theorem toDocument_updated {doc : Document} {r : Record} (h : Reads doc r) (id rev : String)
    (value : Json) (agent : Option String) (metadata : Option Document) (now : Instant) :
    ({ Service.updated r id value agent metadata now with rev := some rev } : Record).toDocument =
      revise doc id rev value agent metadata now := by
  rw [toDocument_eq_extend
    (r := { Service.updated r id value agent metadata now with rev := some rev }) h.extra.symm rfl]
  have hlast : Json.ofText? (agent.or r.lastAccessedByAgent) =
      (agent.map Json.str).getD (doc.field lastAccessedByField) := by
    rw [← ofText?_of_readOption h.lastAccessedByAgent]
    cases agent <;> rfl
  simp only [revise, entries, Service.updated, hlast, instantJson, ← str_of_readText h.user,
    ← str_of_readText h.key, ← eq_spaceOf_of_readSpace h.space,
    ← eq_metadataOf_of_readMap h.metadata, ← ofText?_of_readOption h.createdByAgent,
    ← natural_of_readNat64 h.accessCount, ← eq_instantOf?_of_readInstant h.createdAt,
    ← eq_instantOf?_of_readInstant h.lastAccessedAt]

end Record

end Keyspace
