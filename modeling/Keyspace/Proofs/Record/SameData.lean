import Keyspace.Proofs.Lockstep
import Keyspace.Proofs.Record.Alike
import Keyspace.Proofs.Record.Filed

set_option autoImplicit false

namespace Keyspace

namespace Record

/-- A record without its write token and without what it says about accesses. -/
def data (r : Record) : Record :=
  { r with rev := none, lastAccessedByAgent := none, accessCount := 0, lastAccessedAt := none }

theorem get?_toDocument_congr {a b : Record} (h : b.ExtraUnknown) (hextra : a.extra = b.extra)
    {name : String} (hrev : name = Document.revField → a.rev = b.rev)
    (hentries : SortedMap.lookup name a.entries = SortedMap.lookup name b.entries) :
    a.toDocument.get? name = b.toDocument.get? name := by
  have h' : a.ExtraUnknown := fun other hother => by rw [hextra, h other hother]
  by_cases hknown : name ∈ knownFields
  · by_cases hname : name = Document.revField
    · rw [hname, get?_toDocument_rev h, get?_toDocument_rev h', hrev hname]
    · have hmem : ∀ name ∈ knownFields, name ≠ Document.revField → name ∈ entryNames := by decide
      obtain ⟨v, hv⟩ : ∃ v, SortedMap.lookup name b.entries = some v :=
        SortedMap.exists_lookup_iff.2 (hmem name hknown hname)
      have hentry : ∀ {r : Record}, SortedMap.lookup name r.entries = some v →
          (name, v) ∈ r.entries := fun {r} =>
        (SortedMap.lookup_eq_some_iff (l := r.entries) entryNames_nodup).1
      rw [get?_toDocument h (hentry hv), get?_toDocument h' (hentry (hentries.trans hv))]
  · rw [get?_toDocument_unknown hknown, get?_toDocument_unknown hknown, hextra]

theorem get?_toDocument_data {r : Record} (h : r.ExtraUnknown) {name : String}
    (hname : name ∉ bookkeeping) : r.data.toDocument.get? name = r.toDocument.get? name := by
  simp only [bookkeeping, List.mem_cons, List.not_mem_nil, or_false, not_or] at hname
  obtain ⟨hrev, hcount, hat, hby⟩ := hname
  refine get?_toDocument_congr (a := r.data) h rfl (fun heq => absurd heq hrev) ?_
  simp only [entries, data, SortedMap.lookup, hcount, hat, hby, if_false]

theorem toDocument_insert_rev {r : Record} (h : r.ExtraUnknown) (rev : String) :
    SortedMap.insert r.toDocument Document.revField (.str rev) =
      ({ r with rev := some rev } : Record).toDocument := by
  refine SortedMap.ext_get? fun name => ?_
  rw [SortedMap.get?_insert]
  split
  · rename_i hname
    rw [hname, get?_toDocument_rev (r := { r with rev := some rev }) h]
    rfl
  · rename_i hname
    rw [get?_toDocument_of_ne_rev r (some rev) hname]

theorem extraUnknown_counted {r : Record} (h : r.ExtraUnknown) (agent : String) (now : Instant) :
    (r.counted agent now).ExtraUnknown := h

theorem countRead_toDocument {r : Record} (h : r.ExtraUnknown)
    (hroom : r.accessCount.toNat + 1 < 2 ^ 64) (agent : String) (now : Instant) :
    countRead r.toDocument agent now = some (r.counted agent now).toDocument := by
  obtain ⟨doc, hdoc⟩ : ∃ doc, countRead r.toDocument agent now = some doc :=
    countRead_eq_some_iff.2 (by rwa [readsOf_toDocument h])
  have hshown : ∀ {name v}, (name, v) ∈ (r.counted agent now).entries →
      (r.counted agent now).toDocument.get? name = some v :=
    fun hv => get?_toDocument (extraUnknown_counted h agent now) hv
  rw [hdoc]
  congr 1
  refine SortedMap.ext_get? fun name => ?_
  rw [get?_countRead hdoc, readsOf_toDocument h]
  split_ifs with hcount hat hby
  · rw [hcount, hshown (v := .num (.natural (r.accessCount + 1))) (by simp [entries, counted])]
  · rw [hat, hshown (v := .str now.text) (by simp [entries, counted, instantJson])]
  · rw [hby, hshown (v := .str agent) (by simp [entries, counted, Json.ofText?])]
  · refine (get?_toDocument_congr (a := r.counted agent now) h rfl (fun _ => rfl) ?_).symm
    simp only [entries, counted, SortedMap.lookup, hcount, hat, hby, if_false]

def untimely (t : Option Instant) : Option Instant := t.filter fun u => !decide u.InRange

def firstUntimely (r : Record) : Option Instant :=
  (untimely r.createdAt).or ((untimely r.lastAccessedAt).or (untimely r.updatedAt))

theorem untimely_eq_none_iff {t : Option Instant} : untimely t = none ↔ ∀ u ∈ t, u.InRange := by
  simp [untimely, Option.filter_eq_none_iff]

theorem untimely_some {u : Instant} (h : u.InRange) : untimely (some u) = none :=
  untimely_eq_none_iff.2 fun _ hu => Option.some.inj hu ▸ h

theorem firstUntimely_eq_none_iff {r : Record} : r.firstUntimely = none ↔ r.Timely := by
  simp only [firstUntimely, Option.or_eq_none_iff, untimely_eq_none_iff, Timely, Option.mem_def]
  exact ⟨fun ⟨hc, ha, hu⟩ t ht => ht.elim (hc t) fun ht => ht.elim (hu t) (ha t),
    fun h => ⟨fun t ht => h t (.inl ht), fun t ht => h t (.inr (.inr ht)),
      fun t ht => h t (.inr (.inl ht))⟩⟩

theorem readInstant_eq (t : Option Instant) :
    readInstant (instantJson t) = match untimely t with
      | none => .ok t
      | some u => .error (.invalidTimestamp u.text) := by
  cases t with
  | none => rfl
  | some u =>
    by_cases h : u.InRange
    · rw [untimely_some h]
      exact readInstant_text h
    · have hlate : untimely (some u) = some u := by simp [untimely, h]
      rw [hlate]
      have hne : u.text.isEmpty = false := by
        have hchars : u.chars ≠ [] := by
          simp [Instant.chars_eq, Instant.charsFromMonth, Instant.tailChars]
        simp [Instant.text, hchars]
      simp [readInstant, instantJson, Json.readOption, Json.readText, hne,
        Instant.ofText?_text_of_not_inRange h, bind, Except.bind, Except.map, throw, throwThe,
        MonadExceptOf.throw]

theorem ofDocument_toDocument {r : Record} (h : r.ExtraUnknown) :
    ofDocument r.toDocument = match r.firstUntimely with
      | none => .ok { r with space := named r.space }
      | some u => .error (.invalidTimestamp u.text) := by
  -- Without its times a record can be read, and all the other fields are read in the same way.
  let bare : Record := { r with createdAt := none, updatedAt := none, lastAccessedAt := none }
  have hbare : Reads bare.toDocument { bare with space := named r.space } :=
    reads_toDocument h fun t ht => by simp [bare] at ht
  have hsame : ∀ {α : Type} (name : String) (missing : α) (read : Json → Except ReadError α),
      name ∉ [createdAtField, updatedAtField, lastAccessedAtField] →
        readField r.toDocument name missing read = readField bare.toDocument name missing read := by
    intro α name missing read hname
    simp only [List.mem_cons, List.not_mem_nil, or_false, not_or] at hname
    obtain ⟨hcreated, hupdated, haccessed⟩ := hname
    refine readField_congr (get?_toDocument_congr (a := r) (b := bare) h rfl (fun _ => rfl) ?_)
      missing read
    simp only [entries, bare, SortedMap.lookup, hcreated, hupdated, haccessed, if_false]
  have htime : ∀ (name : String) (t : Option Instant), (name, instantJson t) ∈ r.entries →
      readField r.toDocument name none readInstant = readInstant (instantJson t) :=
    fun _ _ hmem => readField_toDocument h hmem none readInstant
  cases huntimely : r.firstUntimely with
  | none =>
    exact ofDocument_eq_ok_iff.2 (reads_toDocument h (firstUntimely_eq_none_iff.1 huntimely))
  | some u =>
    unfold ofDocument
    simp only [hsame Document.idField _ _ (by decide), hbare.id,
      hsame Document.revField _ _ (by decide), hbare.rev,
      hsame accessCountField _ _ (by decide), hbare.accessCount,
      hsame createdByField _ _ (by decide), hbare.createdByAgent,
      hsame keyField _ _ (by decide), hbare.key,
      hsame lastAccessedByField _ _ (by decide), hbare.lastAccessedByAgent,
      hsame metadataField _ _ (by decide), hbare.metadata,
      hsame spaceField _ _ (by decide), hbare.space,
      hsame userField _ _ (by decide), hbare.user,
      htime createdAtField r.createdAt (by simp [entries]),
      htime lastAccessedAtField r.lastAccessedAt (by simp [entries]),
      htime updatedAtField r.updatedAt (by simp [entries]),
      readInstant_eq]
    simp only [bind, Except.bind]
    rw [firstUntimely] at huntimely
    cases hcreated : untimely r.createdAt with
    | some t =>
      rw [hcreated, Option.some_or] at huntimely
      rw [Option.some.inj huntimely]
    | none =>
      rw [hcreated, Option.none_or] at huntimely
      cases haccessed : untimely r.lastAccessedAt with
      | some t =>
        rw [haccessed, Option.some_or] at huntimely
        rw [Option.some.inj huntimely]
      | none =>
        rw [haccessed, Option.none_or] at huntimely
        rw [huntimely]

/-- A read at a time that its text does not give back leaves a record that cannot be read. -/
theorem ofDocument_counted_of_not_inRange {r : Record} (h : r.ExtraUnknown) (agent : String)
    {now : Instant} (hnow : ¬ now.InRange) :
    ∃ e, ofDocument (r.counted agent now).toDocument = .error e := by
  rw [ofDocument_toDocument (extraUnknown_counted h agent now)]
  cases huntimely : (r.counted agent now).firstUntimely with
  | some u => exact ⟨_, rfl⟩
  | none => exact absurd (firstUntimely_eq_none_iff.1 huntimely now (.inr (.inr rfl))) hnow

/-- The time of the last access can be read, or is the time of the last write. -/
def Settled (r : Record) : Prop :=
  untimely r.lastAccessedAt = none ∨ r.lastAccessedAt = r.updatedAt

/-- Whether a settled record can be read does not depend on its last access. -/
theorem Settled.firstUntimely_eq {r : Record} (h : r.Settled) :
    r.firstUntimely = (untimely r.createdAt).or (untimely r.updatedAt) := by
  rw [firstUntimely]
  rcases h with h | h
  · rw [h, Option.none_or]
  · rw [h, Option.or_self]

theorem Timely.settled {r : Record} (h : r.Timely) : r.Settled :=
  .inl (untimely_eq_none_iff.2 fun t ht => h t (.inr (.inr ht)))

theorem settled_fresh (user space key : String) (value : Json) (metadata : Document)
    (agent : Option String) (now : Instant) :
    (fresh user space key value metadata agent now).Settled := by
  cases agent with
  | none => exact .inl rfl
  | some agent => exact .inr rfl

theorem Timely.settled_updated {r : Record} (h : r.Timely) (id : String) (value : Json)
    (agent : Option String) (metadata : Option Document) (now : Instant) :
    (Service.updated r id value agent metadata now).Settled := by
  cases agent with
  | none => exact .inl (untimely_eq_none_iff.2 fun t ht => h t (.inr (.inr ht)))
  | some agent => exact .inr rfl

/-- Settled records under an id that hold the same data, the first of them read on behalf of agents
at most so often. -/
structure Twins (reads : Nat) (id : String) (r r' : Record) : Prop where
  data : r.data = r'.data
  id : r.id = id
  extraUnknown : r.ExtraUnknown
  settled : r.Settled
  settled_right : r'.Settled
  reads_le : r.accessCount.toNat ≤ reads

namespace Twins

variable {reads reads' : Nat} {id : String} {r r' : Record}

theorem extraUnknown_right (h : Twins reads id r r') : r'.ExtraUnknown := by
  have hextra : r.data.extra = r'.data.extra := congrArg Record.extra h.data
  exact fun name hname => (congrArg (·.get? name) hextra).symm.trans (h.extraUnknown name hname)

theorem mono (h : Twins reads id r r') (hle : reads ≤ reads') : Twins reads' id r r' :=
  { h with reads_le := Nat.le_trans h.reads_le hle }

theorem withRev (h : Twins reads id r r') (rev : Option String) :
    Twins reads id { r with rev := rev } r' :=
  ⟨h.data, h.id, h.extraUnknown, h.settled, h.settled_right, h.reads_le⟩

theorem withRev_right (h : Twins reads id r r') (rev : Option String) :
    Twins reads id r { r' with rev := rev } :=
  ⟨h.data, h.id, h.extraUnknown, h.settled, h.settled_right, h.reads_le⟩

theorem counted (h : Twins reads id r r') (hreads : reads + 1 < 2 ^ 64) (agent : String)
    {now : Instant} (hnow : now.InRange) : Twins (reads + 1) id (r.counted agent now) r' where
  data := h.data
  id := h.id
  extraUnknown := h.extraUnknown
  settled := .inl (untimely_some hnow)
  settled_right := h.settled_right
  reads_le := by
    have hle := h.reads_le
    have hcount : (r.counted agent now).accessCount.toNat = r.accessCount.toNat + 1 := by
      rw [Record.counted, UInt64.toNat_add]
      simp only [UInt64.reduceToNat]
      omega
    omega

theorem fresh (reads : Nat) (user space key : String) (value : Json) (metadata : Document)
    (agent : Option String) (now : Instant) :
    Twins reads (docId user space key) (Record.fresh user space key value metadata agent now)
      (Record.fresh user space key value metadata agent now) :=
  ⟨rfl, rfl, fun _ _ => rfl, settled_fresh .., settled_fresh .., Nat.zero_le _⟩

/-- A new value on both sides makes records with the same data again, which agent it comes from
included. -/
theorem updated (h : Twins reads id r r') (ht : r.Timely) (ht' : r'.Timely) (value : Json)
    (agent : Option String) (metadata : Option Document) (now : Instant) :
    Twins reads id (Service.updated r id value agent metadata now)
      (Service.updated r' id value agent metadata now) where
  data := by
    have hdata : ∀ r : Record, (Service.updated r id value agent metadata now).data =
        (Service.updated r.data id value agent metadata now).data := fun _ => rfl
    rw [hdata r, hdata r', h.data]
  id := rfl
  extraUnknown := h.extraUnknown
  settled := ht.settled_updated ..
  settled_right := ht'.settled_updated ..
  reads_le := h.reads_le

theorem ofDocument (h : Twins reads id r r') :
    Agree (fun a a' => Twins reads id a a' ∧ a.Timely ∧ a'.Timely)
      (Record.ofDocument r.toDocument) (Record.ofDocument r'.toDocument) := by
  have hsame : r.firstUntimely = r'.firstUntimely := by
    have hwritten := congrArg
      (fun d : Record => (untimely d.createdAt).or (untimely d.updatedAt)) h.data
    rw [h.settled.firstUntimely_eq, h.settled_right.firstUntimely_eq]
    exact hwritten
  rw [ofDocument_toDocument h.extraUnknown, ofDocument_toDocument h.extraUnknown_right, hsame]
  cases huntimely : r'.firstUntimely with
  | some u => exact .error
  | none =>
    have ht : r.Timely := firstUntimely_eq_none_iff.1 (hsame.trans huntimely)
    have ht' : r'.Timely := firstUntimely_eq_none_iff.1 huntimely
    have hdata : ({ r with space := named r.space } : Record).data =
        ({ r' with space := named r'.space } : Record).data :=
      congrArg (fun r : Record => { r with space := named r.space }) h.data
    exact .ok ⟨⟨hdata, h.id, h.extraUnknown, h.settled, h.settled_right, h.reads_le⟩, ht, ht'⟩

end Twins

end Record

/-- Documents of twin records. -/
def Document.Twins (reads : Nat) (id : String) (doc doc' : Document) : Prop :=
  ∃ r r', Record.Twins reads id r r' ∧ doc = r.toDocument ∧ doc' = r'.toDocument

namespace Document.Twins

variable {reads reads' : Nat} {id : String} {doc doc' : Document}

theorem mono (h : Twins reads id doc doc') (hle : reads ≤ reads') : Twins reads' id doc doc' := by
  obtain ⟨r, r', htwins, hdoc, hdoc'⟩ := h
  exact ⟨r, r', htwins.mono hle, hdoc, hdoc'⟩

theorem get?_eq (h : Twins reads id doc doc') {name : String} (hname : name ∉ Record.bookkeeping) :
    doc.get? name = doc'.get? name := by
  obtain ⟨r, r', htwins, rfl, rfl⟩ := h
  rw [← Record.get?_toDocument_data htwins.extraUnknown hname, htwins.data,
    Record.get?_toDocument_data htwins.extraUnknown_right hname]

theorem get?_id (h : Twins reads id doc doc') : doc.get? Document.idField = some (.str id) := by
  obtain ⟨r, _, htwins, rfl, _⟩ := h
  rw [← htwins.id]
  exact Record.get?_toDocument htwins.extraUnknown (by simp [Record.entries])

theorem text?_eq (h : Twins reads id doc doc') {name : String} (hname : name ∉ Record.bookkeeping) :
    doc.text? name = doc'.text? name := by
  rw [Document.text?, Document.text?, h.get?_eq hname]

theorem field_eq (h : Twins reads id doc doc') {name : String}
    (hname : name ∉ Record.bookkeeping) : doc.field name = doc'.field name := by
  rw [Document.field, Document.field, h.get?_eq hname]

theorem insert_rev (h : Twins reads id doc doc') (rev : String) :
    Twins reads id (SortedMap.insert doc revField (.str rev)) doc' := by
  obtain ⟨r, r', htwins, rfl, rfl⟩ := h
  exact ⟨_, r', htwins.withRev (some rev),
    Record.toDocument_insert_rev htwins.extraUnknown rev, rfl⟩

theorem stamped (h : Twins reads id doc doc') (rev : String) :
    Twins reads id (Memory.stamped doc id rev) doc' := by
  rw [Memory.stamped, Record.insert_eq_self h.get?_id]
  exact h.insert_rev rev

theorem stamped_right (h : Twins reads id doc doc') (rev : String) :
    Twins reads id doc (Memory.stamped doc' id rev) := by
  rw [Memory.stamped, Record.insert_eq_self ((h.get?_eq (by decide)).symm.trans h.get?_id)]
  obtain ⟨r, r', htwins, rfl, rfl⟩ := h
  exact ⟨r, _, htwins.withRev_right (some rev), rfl,
    Record.toDocument_insert_rev htwins.extraUnknown_right rev⟩

theorem countRead (h : Twins reads id doc doc') (hreads : reads + 1 < 2 ^ 64) (agent : String)
    {now : Instant} (hnow : now.InRange) :
    ∃ counted, Record.countRead doc agent now = some counted ∧
      Twins (reads + 1) id counted doc' := by
  obtain ⟨r, r', htwins, rfl, rfl⟩ := h
  have hroom : r.accessCount.toNat + 1 < 2 ^ 64 := by have := htwins.reads_le; omega
  exact ⟨_, Record.countRead_toDocument htwins.extraUnknown hroom agent now, _, r',
    htwins.counted hreads agent hnow, rfl, rfl⟩

theorem ofDocument (h : Twins reads id doc doc') :
    Agree (fun r r' => Record.Twins reads id r r' ∧ r.Timely ∧ r'.Timely)
      (Record.ofDocument doc) (Record.ofDocument doc') := by
  obtain ⟨r, r', htwins, rfl, rfl⟩ := h
  exact htwins.ofDocument

end Document.Twins

end Keyspace
