import Keyspace.Proofs.SortedMap
import Keyspace.Proofs.Time.RoundTrip
import Keyspace.Record

set_option autoImplicit false

namespace Keyspace

namespace Record

/-- What each part of a record is read from. -/
structure Reads (doc : Document) (r : Record) : Prop where
  id : readField doc Document.idField "" Json.readText = .ok r.id
  rev : readField doc Document.revField none (fun v => v.readOption Json.readText) = .ok r.rev
  accessCount : readField doc accessCountField 0
    (fun v => return (← v.readOption Json.readNat64).getD 0) = .ok r.accessCount
  createdAt : readField doc createdAtField none readInstant = .ok r.createdAt
  createdByAgent : readField doc createdByField none (fun v => v.readOption Json.readText) =
    .ok r.createdByAgent
  key : readField doc keyField "" Json.readText = .ok r.key
  lastAccessedAt : readField doc lastAccessedAtField none readInstant = .ok r.lastAccessedAt
  lastAccessedByAgent : readField doc lastAccessedByField none
    (fun v => v.readOption Json.readText) = .ok r.lastAccessedByAgent
  metadata : readField doc metadataField SortedMap.empty
    (fun v => return (← v.readOption Json.readMap).getD SortedMap.empty) = .ok r.metadata
  space : readField doc spaceField defaultSpace readSpace = .ok r.space
  updatedAt : readField doc updatedAtField none readInstant = .ok r.updatedAt
  user : readField doc userField "" Json.readText = .ok r.user
  value : doc.field valueField = r.value
  extra : doc.filter (fun name _ => !knownFields.contains name) = r.extra

theorem bind_eq_ok {ε α β : Type} {x : Except ε α} {f : α → Except ε β} {b : β} :
    (x >>= f) = .ok b ↔ ∃ a, x = .ok a ∧ f a = .ok b := by
  cases x <;> simp [bind, Except.bind]

theorem readField_eq_ok_iff {α : Type} {doc : Document} {name : String} {missing a : α}
    {read : Json → Except ReadError α} :
    readField doc name missing read = .ok a ↔
      (doc.get? name = none ∧ missing = a) ∨ ∃ v, doc.get? name = some v ∧ read v = .ok a := by
  unfold readField
  cases doc.get? name <;> simp

theorem ofDocument_eq_ok_iff {doc : Document} {r : Record} :
    ofDocument doc = .ok r ↔ Reads doc r := by
  constructor
  · intro h
    simp only [ofDocument, bind_eq_ok] at h
    obtain ⟨id, hid, rev, hrev, count, hcount, createdAt, hcreatedAt, createdBy, hcreatedBy, key,
      hkey, accessedAt, haccessedAt, accessedBy, haccessedBy, metadata, hmetadata, space, hspace,
      updatedAt, hupdatedAt, user, huser, h⟩ := h
    cases h
    exact ⟨hid, hrev, hcount, hcreatedAt, hcreatedBy, hkey, haccessedAt, haccessedBy, hmetadata,
      hspace, hupdatedAt, huser, rfl, rfl⟩
  · intro h
    simp only [ofDocument, bind_eq_ok]
    refine ⟨_, h.id, _, h.rev, _, h.accessCount, _, h.createdAt, _, h.createdByAgent, _, h.key, _,
      h.lastAccessedAt, _, h.lastAccessedByAgent, _, h.metadata, _, h.space, _, h.updatedAt, _,
      h.user, ?_⟩
    rw [h.value, h.extra]
    rfl

theorem Reads.unique {doc : Document} {r r' : Record} (h : Reads doc r) (h' : Reads doc r') :
    r = r' :=
  Except.ok.inj ((ofDocument_eq_ok_iff.2 h).symm.trans (ofDocument_eq_ok_iff.2 h'))

/-- The record keeps no field among the unknown ones that it knows. -/
def ExtraUnknown (r : Record) : Prop := ∀ name ∈ knownFields, r.extra.get? name = none

/-- The times of a record are in the years that a text gives in four digits. -/
def Timely (r : Record) : Prop :=
  ∀ t, r.createdAt = some t ∨ r.updatedAt = some t ∨ r.lastAccessedAt = some t → t.InRange

theorem get?_unknown_of_mem (doc : Document) {name : String} (h : name ∈ knownFields) :
    (doc.filter fun name _ => !knownFields.contains name).get? name = none := by
  rw [SortedMap.get?_filter]
  cases doc.get? name <;> simp [h]

theorem Reads.extraUnknown {doc : Document} {r : Record} (h : Reads doc r) : r.ExtraUnknown :=
  fun name hname => by rw [← h.extra, get?_unknown_of_mem doc hname]

theorem get?_toDocument_known {r : Record} (h : r.ExtraUnknown) {name : String}
    (hname : name ∈ knownFields) : r.toDocument.get? name = r.knownDocument.get? name := by
  rw [toDocument, SortedMap.get?_extend, SortedMap.lookup_reverse_entries, h name hname,
    Option.none_or]

theorem get?_toDocument_unknown {r : Record} {name : String} (hname : name ∉ knownFields) :
    r.toDocument.get? name = r.extra.get? name := by
  have hknown : r.knownDocument.get? name = none := by
    simp only [knownFields, List.mem_cons, List.not_mem_nil, or_false, not_or] at hname
    unfold knownDocument
    cases r.rev <;> simp [SortedMap.get?_insert, SortedMap.get?_ofList, SortedMap.lookup, hname]
  rw [toDocument, SortedMap.get?_extend, SortedMap.lookup_reverse_entries, hknown, Option.or_none]

theorem get?_toDocument_rev {r : Record} (h : r.ExtraUnknown) :
    r.toDocument.get? Document.revField = r.rev.map Json.str := by
  rw [get?_toDocument_known h (by decide), knownDocument]
  cases r.rev with
  | none =>
    simp [SortedMap.get?_ofList, SortedMap.lookup, Document.revField, Document.idField, userField,
      spaceField, keyField, valueField, metadataField, createdByField, lastAccessedByField,
      accessCountField, createdAtField, updatedAtField, lastAccessedAtField]
  | some rev => simp

def entries (r : Record) : List (String × Json) :=
  [(Document.idField, .str r.id), (userField, .str r.user), (spaceField, .str r.space),
    (keyField, .str r.key), (valueField, r.value), (metadataField, r.metadata.toJson),
    (createdByField, Json.ofText? r.createdByAgent),
    (lastAccessedByField, Json.ofText? r.lastAccessedByAgent),
    (accessCountField, .num (.natural r.accessCount)), (createdAtField, instantJson r.createdAt),
    (updatedAtField, instantJson r.updatedAt), (lastAccessedAtField, instantJson r.lastAccessedAt)]

def entryNames : List String :=
  [Document.idField, userField, spaceField, keyField, valueField, metadataField, createdByField,
    lastAccessedByField, accessCountField, createdAtField, updatedAtField, lastAccessedAtField]

theorem entryNames_nodup : entryNames.Nodup := by decide

theorem mem_knownFields_of_mem_entryNames :
    ∀ name ∈ entryNames, name ∈ knownFields ∧ name ≠ Document.revField := by decide

theorem get?_toDocument {r : Record} (h : r.ExtraUnknown) {name : String} {v : Json}
    (hmem : (name, v) ∈ r.entries) : r.toDocument.get? name = some v := by
  have hnames : r.entries.map (·.1) = entryNames := rfl
  have hname := mem_knownFields_of_mem_entryNames name (hnames ▸ List.mem_map_of_mem hmem)
  have hlisted : (SortedMap.ofList r.entries).get? name = some v :=
    (SortedMap.get?_ofList_eq_some_iff (hnames ▸ entryNames_nodup)).2 hmem
  rw [get?_toDocument_known h hname.1, knownDocument]
  cases r.rev with
  | none => exact hlisted
  | some rev =>
    simp only [SortedMap.get?_insert, hname.2, if_false]
    exact hlisted

def named (space : String) : String := if space.isEmpty then defaultSpace else space

theorem readField_toDocument {α : Type} {r : Record} (h : r.ExtraUnknown) {name : String} {v : Json}
    (hmem : (name, v) ∈ r.entries) (missing : α) (read : Json → Except ReadError α) :
    readField r.toDocument name missing read = read v := by
  simp [readField, get?_toDocument h hmem]

theorem readOption_ofText? (text : Option String) :
    (Json.ofText? text).readOption Json.readText = .ok text := by
  cases text <;> rfl

theorem readInstant_instantJson {t : Option Instant} (h : ∀ u ∈ t, u.InRange) :
    readInstant (instantJson t) = .ok t := by
  cases t with
  | none => rfl
  | some u =>
    have hne : u.text.isEmpty = false := by
      have hchars : u.chars ≠ [] := by
        simp [Instant.chars_eq, Instant.charsFromMonth, Instant.tailChars]
      simp [Instant.text, hchars]
    simp [readInstant, instantJson, Json.readOption, Json.readText, hne,
      Instant.ofText?_text (h u rfl), bind, Except.bind, pure, Except.pure, Except.map]

theorem readMap_toJson (m : Document) :
    (m.toJson.readOption Json.readMap) = .ok (some m) := by
  simp [Document.toJson, Json.readOption, Json.readMap, SortedMap.ofList_entries, Except.map]

theorem reads_toDocument {r : Record} (h : r.ExtraUnknown) (ht : r.Timely) :
    Reads r.toDocument { r with space := named r.space } where
  id := by rw [readField_toDocument h (v := .str r.id) (by simp [entries])]; rfl
  rev := by
    rw [readField, get?_toDocument_rev h]
    cases r.rev <;> rfl
  accessCount := by
    rw [readField_toDocument h (v := .num (.natural r.accessCount)) (by simp [entries])]
    rfl
  createdAt := by
    rw [readField_toDocument h (v := instantJson r.createdAt) (by simp [entries])]
    exact readInstant_instantJson fun u hu => ht u (.inl hu)
  createdByAgent := by
    rw [readField_toDocument h (v := Json.ofText? r.createdByAgent) (by simp [entries])]
    exact readOption_ofText? _
  key := by rw [readField_toDocument h (v := .str r.key) (by simp [entries])]; rfl
  lastAccessedAt := by
    rw [readField_toDocument h (v := instantJson r.lastAccessedAt) (by simp [entries])]
    exact readInstant_instantJson fun u hu => ht u (.inr (.inr hu))
  lastAccessedByAgent := by
    rw [readField_toDocument h (v := Json.ofText? r.lastAccessedByAgent) (by simp [entries])]
    exact readOption_ofText? _
  metadata := by
    rw [readField_toDocument h (v := r.metadata.toJson) (by simp [entries]),
      readMap_toJson]
    rfl
  space := by rw [readField_toDocument h (v := .str r.space) (by simp [entries])]; rfl
  updatedAt := by
    rw [readField_toDocument h (v := instantJson r.updatedAt) (by simp [entries])]
    exact readInstant_instantJson fun u hu => ht u (.inr (.inl hu))
  user := by rw [readField_toDocument h (v := .str r.user) (by simp [entries])]; rfl
  value := by
    rw [Document.field, get?_toDocument h (v := r.value) (by simp [entries]), Option.getD_some]
  extra := by
    refine SortedMap.ext_get? fun name => ?_
    by_cases hname : name ∈ knownFields
    · rw [h name hname, get?_unknown_of_mem _ hname]
    · rw [SortedMap.get?_filter, get?_toDocument_unknown hname]
      cases r.extra.get? name <;> simp [hname]

theorem readField_congr {α : Type} {doc doc' : Document} {name : String}
    (h : doc.get? name = doc'.get? name) (missing : α) (read : Json → Except ReadError α) :
    readField doc name missing read = readField doc' name missing read := by
  rw [readField, readField, h]

/-- The fields of a document that do not show its record's data. -/
def bookkeeping : List String :=
  [Document.revField, accessCountField, lastAccessedAtField, lastAccessedByField]

/-- A document that differs in its bookkeeping is read as a record that differs in it. -/
theorem Reads.rebooked {doc doc' : Document} {r : Record} {rev agent : Option String}
    {count : UInt64} {time : Option Instant} (h : Reads doc r)
    (hsame : ∀ name ∉ bookkeeping, doc'.get? name = doc.get? name)
    (hrev : readField doc' Document.revField none (fun v => v.readOption Json.readText) = .ok rev)
    (hcount : readField doc' accessCountField 0
      (fun v => return (← v.readOption Json.readNat64).getD 0) = .ok count)
    (hat : readField doc' lastAccessedAtField none readInstant = .ok time)
    (hby : readField doc' lastAccessedByField none (fun v => v.readOption Json.readText) =
      .ok agent) :
    Reads doc' { r with
      rev := rev, accessCount := count, lastAccessedAt := time, lastAccessedByAgent := agent } where
  id := (readField_congr (hsame _ (by decide)) _ _).trans h.id
  rev := hrev
  accessCount := hcount
  createdAt := (readField_congr (hsame _ (by decide)) _ _).trans h.createdAt
  createdByAgent := (readField_congr (hsame _ (by decide)) _ _).trans h.createdByAgent
  key := (readField_congr (hsame _ (by decide)) _ _).trans h.key
  lastAccessedAt := hat
  lastAccessedByAgent := hby
  metadata := (readField_congr (hsame _ (by decide)) _ _).trans h.metadata
  space := (readField_congr (hsame _ (by decide)) _ _).trans h.space
  updatedAt := (readField_congr (hsame _ (by decide)) _ _).trans h.updatedAt
  user := (readField_congr (hsame _ (by decide)) _ _).trans h.user
  value := by
    rw [Document.field, hsame _ (by decide)]
    exact h.value
  extra := by
    refine Eq.trans (SortedMap.ext_get? fun name => ?_) h.extra
    by_cases hname : name ∈ bookkeeping
    · have hknown : name ∈ knownFields := by
        revert name
        decide
      rw [get?_unknown_of_mem _ hknown, get?_unknown_of_mem _ hknown]
    · rw [SortedMap.get?_filter, SortedMap.get?_filter, hsame name hname]

theorem get?_countRead {doc counted : Document} {agent : String} {now : Instant}
    (h : countRead doc agent now = some counted) (name : String) :
    counted.get? name =
      if name = accessCountField then some (.num (.natural (readsOf doc + 1)))
      else if name = lastAccessedAtField then some (.str now.text)
      else if name = lastAccessedByField then some (.str agent)
      else doc.get? name := by
  simp only [countRead] at h
  split at h
  · cases h
    rw [SortedMap.get?_extend]
    simp only [List.reverse_cons, List.reverse_nil, List.nil_append, List.cons_append,
      SortedMap.lookup]
    repeat' split
    all_goals rfl
  · cases h

theorem get?_countRead_of_ne {doc counted : Document} {agent : String} {now : Instant}
    (h : countRead doc agent now = some counted) {name : String}
    (hname : name ∉ [accessCountField, lastAccessedAtField, lastAccessedByField]) :
    counted.get? name = doc.get? name := by
  simp only [List.mem_cons, List.not_mem_nil, or_false, not_or] at hname
  rw [get?_countRead h, if_neg hname.1, if_neg hname.2.1, if_neg hname.2.2]

theorem readsOf_toDocument {r : Record} (h : r.ExtraUnknown) :
    readsOf r.toDocument = r.accessCount := by
  rw [readsOf, get?_toDocument h (v := .num (.natural r.accessCount)) (by simp [entries])]
  rfl

theorem readsOf_of_reads {doc : Document} {r : Record} (h : Reads doc r) :
    readsOf doc = r.accessCount := by
  have hcount := h.accessCount
  unfold readField at hcount
  unfold readsOf
  cases hv : doc.get? accessCountField with
  | none =>
    rw [hv] at hcount
    exact Except.ok.inj hcount
  | some v =>
    rw [hv] at hcount
    cases v with
    | num n =>
      cases n with
      | natural n => exact Except.ok.inj hcount
      | negative n => cases hcount
      | float x => cases hcount
    | null => exact Except.ok.inj hcount
    | bool b => cases hcount
    | str s => cases hcount
    | arr l => cases hcount
    | obj l => cases hcount

theorem readInstant_text {t : Instant} (h : t.InRange) : readInstant (.str t.text) = .ok (some t) :=
  readInstant_instantJson (t := some t) fun u hu => by cases hu; exact h

theorem countRead_eq_some_iff {doc : Document} {agent : String} {now : Instant} :
    (∃ counted, countRead doc agent now = some counted) ↔ (readsOf doc).toNat + 1 < 2 ^ 64 := by
  simp only [countRead]
  split <;> simp_all

theorem toNat_readsOf_succ {doc counted : Document} {agent : String} {now : Instant}
    (h : countRead doc agent now = some counted) :
    (readsOf doc + 1).toNat = (readsOf doc).toNat + 1 := by
  have hroom := countRead_eq_some_iff.1 ⟨counted, h⟩
  rw [UInt64.toNat_add]
  simp only [UInt64.reduceToNat]
  omega

theorem readsOf_countRead {doc counted : Document} {agent : String} {now : Instant}
    (h : countRead doc agent now = some counted) :
    (readsOf counted).toNat = (readsOf doc).toNat + 1 := by
  rw [← toNat_readsOf_succ h, readsOf, get?_countRead h, if_pos rfl]
  rfl

theorem readsOf_insert_rev (doc : Document) (v : Json) :
    readsOf (doc.insert Document.revField v) = readsOf doc := by
  rw [readsOf, readsOf, SortedMap.get?_insert, if_neg (by decide)]

def counted (r : Record) (agent : String) (now : Instant) : Record :=
  { r with
    lastAccessedByAgent := some agent
    lastAccessedAt := some now
    accessCount := r.accessCount + 1 }

section CountedAs

variable {doc doc' : Document} {r : Record} {agent : String} {now : Instant}

/-- A document with one more read counted, by an agent at a time, and perhaps with another token. -/
structure CountedAs (doc : Document) (agent : String) (now : Instant) (doc' : Document) : Prop where
  count : doc'.get? accessCountField = some (.num (.natural (readsOf doc + 1)))
  reader : doc'.get? lastAccessedByField = some (.str agent)
  time : doc'.get? lastAccessedAtField = some (.str now.text)
  token : doc'.get? Document.revField = doc.get? Document.revField ∨
    ∃ rev : String, doc'.get? Document.revField = some (.str rev)
  other : ∀ name ∉ bookkeeping, doc'.get? name = doc.get? name

theorem countedAs_countRead (h : countRead doc agent now = some doc') :
    CountedAs doc agent now doc' where
  count := by rw [get?_countRead h, if_pos rfl]
  reader := by
    rw [get?_countRead h, if_neg (by decide), if_neg (by decide), if_pos rfl]
  time := by rw [get?_countRead h, if_neg (by decide), if_pos rfl]
  token := .inl (get?_countRead_of_ne h (by decide))
  other name hname := get?_countRead_of_ne h fun hmem => hname (List.mem_cons_of_mem _ hmem)

namespace CountedAs

theorem insert_rev (h : CountedAs doc agent now doc') (rev : String) :
    CountedAs doc agent now (SortedMap.insert doc' Document.revField (.str rev)) where
  count := by
    rw [SortedMap.get?_insert, if_neg (by decide)]
    exact h.count
  reader := by
    rw [SortedMap.get?_insert, if_neg (by decide)]
    exact h.reader
  time := by
    rw [SortedMap.get?_insert, if_neg (by decide)]
    exact h.time
  token := .inr ⟨rev, SortedMap.get?_insert_self ..⟩
  other name hname := by
    have hne : name ≠ Document.revField := fun heq => hname (heq ▸ List.mem_cons_self)
    rw [SortedMap.get?_insert, if_neg hne]
    exact h.other name hname

theorem readInstant_time (h : CountedAs doc agent now doc') :
    readField doc' lastAccessedAtField none readInstant = readInstant (.str now.text) := by
  rw [readField, h.time]

theorem reads_of_reads {before : Document} (h : CountedAs doc agent now doc') (hnow : now.InRange)
    (hr : Reads before r) (hsame : ∀ name ∉ bookkeeping, doc'.get? name = before.get? name)
    {rev : Option String}
    (hrev : readField doc' Document.revField none (fun v => v.readOption Json.readText) = .ok rev) :
    Reads doc' { r with
      rev := rev, accessCount := readsOf doc + 1, lastAccessedAt := some now,
      lastAccessedByAgent := some agent } := by
  refine hr.rebooked hsame hrev ?_ ?_ ?_
  · rw [readField, h.count]
    rfl
  · rw [h.readInstant_time]
    exact readInstant_text hnow
  · rw [readField, h.reader]
    rfl

end CountedAs

theorem Reads.counted (h : Reads doc r) (hcount : countRead doc agent now = some doc')
    (ht : now.InRange) : Reads doc' (r.counted agent now) := by
  have hcounted := countedAs_countRead hcount
  have hrev : doc'.get? Document.revField = doc.get? Document.revField :=
    get?_countRead_of_ne hcount (by decide)
  have hreads := hcounted.reads_of_reads ht h hcounted.other
    ((readField_congr hrev _ _).trans h.rev)
  rw [readsOf_of_reads h] at hreads
  exact hreads

end CountedAs

theorem ofDocument_erase_rev {doc : Document} {rev : Option String}
    (h : readField doc Document.revField none (fun v => v.readOption Json.readText) = .ok rev) :
    ofDocument doc = (ofDocument (doc.erase Document.revField)).map ({ · with rev := rev }) := by
  have hget : ∀ name, name ≠ Document.revField →
      doc.get? name = (doc.erase Document.revField).get? name := fun name hname => by
    rw [SortedMap.get?_erase, if_neg hname]
  have hread : ∀ {α : Type} (name : String) (missing : α) (read : Json → Except ReadError α),
      name ≠ Document.revField →
        readField doc name missing read =
          readField (doc.erase Document.revField) name missing read :=
    fun name missing read hname => readField_congr (hget name hname) missing read
  have hrev : readField (doc.erase Document.revField) Document.revField none
      (fun v => v.readOption Json.readText) = .ok none := by
    rw [readField, SortedMap.get?_erase, if_pos rfl]
  have hvalue : doc.field valueField =
      Document.field (doc.erase Document.revField) valueField := by
    rw [Document.field, Document.field, hget valueField (by decide)]
  have hextra : (doc.filter fun name _ => !knownFields.contains name) =
      (doc.erase Document.revField).filter fun name _ => !knownFields.contains name := by
    refine SortedMap.ext_get? fun name => ?_
    by_cases hname : name = Document.revField
    · rw [get?_unknown_of_mem _ (hname ▸ by decide), get?_unknown_of_mem _ (hname ▸ by decide)]
    · rw [SortedMap.get?_filter, SortedMap.get?_filter, hget name hname]
  unfold ofDocument
  simp only [h, hrev, hread Document.idField _ _ (by decide),
    hread accessCountField _ _ (by decide), hread createdAtField _ _ (by decide),
    hread createdByField _ _ (by decide), hread keyField _ _ (by decide),
    hread lastAccessedAtField _ _ (by decide), hread lastAccessedByField _ _ (by decide),
    hread metadataField _ _ (by decide), hread spaceField _ _ (by decide),
    hread updatedAtField _ _ (by decide), hread userField _ _ (by decide), hvalue, hextra]
  change _ = Functor.map _ _
  simp only [map_bind]
  rfl

end Record

end Keyspace
