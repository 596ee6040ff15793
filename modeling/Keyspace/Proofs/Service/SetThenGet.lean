import Keyspace.Proofs.Record.SameData
import Keyspace.Proofs.Service.Draft
import Keyspace.Proofs.Service.Memory

set_option autoImplicit false

namespace Keyspace

namespace Record

theorem stamped_toDocument {r : Record} (h : r.ExtraUnknown) (rev : String) :
    Memory.stamped r.toDocument r.id rev = ({ r with rev := some rev } : Record).toDocument := by
  have hid : r.toDocument.get? Document.idField = some (.str r.id) :=
    get?_toDocument h (by simp [entries])
  rw [Memory.stamped, insert_eq_self hid, toDocument_insert_rev h]

end Record

namespace Service

variable {user space key : String} {value : Json} {agent : Option String}
  {metadata : Option Document} {now : Instant} {s s' : State Memory} {r : Record}

theorem Drafted.extraUnknown {found : Option Document}
    (h : Drafted user space key value agent metadata now found r) : r.ExtraUnknown := by
  cases h with
  | update hread =>
    exact Record.extraUnknown_updated (Record.ofDocument_eq_ok_iff.1 hread) _ _ _ _ _
  | create => exact fun _ _ => rfl

theorem Drafted.id_eq {found : Option Document}
    (h : Drafted user space key value agent metadata now found r) :
    r.id = docId user space key := by
  cases h <;> rfl

theorem Drafted.value_eq {found : Option Document}
    (h : Drafted user space key value agent metadata now found r) : r.value = value := by
  cases h <;> rfl

/-- The times of what was found that a set keeps are when it was made, and when an agent last read
it unless an agent sets it now. -/
theorem Drafted.timely_iff {found : Option Document}
    (h : Drafted user space key value agent metadata now found r) (hnow : now.InRange) :
    r.Timely ↔ ∀ doc ∈ found, ∀ existing, Record.ofDocument doc = .ok existing →
      (∀ t ∈ existing.createdAt, t.InRange) ∧
        (agent = none → ∀ t ∈ existing.lastAccessedAt, t.InRange) := by
  cases h with
  | create =>
    exact iff_of_true (Record.timely_fresh _ _ _ _ _ _ hnow) fun _ hfound => by cases hfound
  | @update doc existing hread =>
    constructor
    · intro h doc' hdoc existing' hexisting
      cases hdoc
      rw [hread] at hexisting
      cases hexisting
      refine ⟨fun t ht => h t (.inl ht), fun hagent t ht => h t (.inr (.inr ?_))⟩
      subst hagent
      exact ht
    · intro h t ht
      obtain ⟨hcreated, haccessed⟩ := h doc rfl existing hread
      rcases ht with ht | ht | ht
      · exact hcreated t ht
      · cases ht
        exact hnow
      · cases agent with
        | none => exact haccessed rfl t ht
        | some agent =>
          cases ht
          exact hnow

theorem drafted_or_unreadable (user space key : String) (value : Json) (agent : Option String)
    (metadata : Option Document) (now : Instant) (found : Option Document) :
    (∃ draft, Drafted user space key value agent metadata now found draft) ∨
      ∃ doc e, found = some doc ∧ Record.ofDocument doc = .error e := by
  cases found with
  | none => exact .inl ⟨_, .create⟩
  | some doc =>
    cases hread : Record.ofDocument doc with
    | ok existing => exact .inl ⟨_, .update hread⟩
    | error e => exact .inr ⟨doc, e, rfl, hread⟩

def found? (s : State Memory) (user space key : String) : Option Document :=
  ((docs s).get? (docId user space key)).map (·.doc)

def HoldsRecord (s : State Memory) (user space key : String) (r : Record) : Prop :=
  found? s user space key = some r.toDocument

/-- A set that can make its record of what is found under the key succeeds, and leaves the document
of the record that it answers. -/
theorem set_drafted {draft : Record}
    (h : Drafted user space key value agent metadata now (found? s user space key) draft) :
    ∃ rev s', set Engine.memory now user space key value agent metadata s =
        .ok { draft with rev := some rev } s' ∧
      HoldsRecord s' user space key { draft with rev := some rev } := by
  have hholds : ∀ s', docs s' = docs (written s now (docId user space key) draft.toDocument) →
      HoldsRecord s' user space key
        { draft with rev := some (nextToken s (docId user space key)) } := fun s' hdocs => by
    rw [HoldsRecord, found?, hdocs, docs_written, SortedMap.get?_insert_self, Option.map_some,
      Memory.written, ← h.id_eq, Record.stamped_toDocument h.extraUnknown]
    rfl
  cases hstored : (docs s).get? (docId user space key) with
  | none =>
    rw [found?, hstored] at h
    cases h with
    | create =>
      obtain ⟨s', hrun, hdocs⟩ := set_absent hstored now value agent metadata
      exact ⟨_, s', hrun, hholds s' hdocs⟩
  | some stored =>
    rw [found?, hstored] at h
    cases h with
    | update hread =>
      obtain ⟨s', hrun, hdocs⟩ := set_present hstored (Record.ofDocument_eq_ok_iff.1 hread) now
        value agent metadata
      exact ⟨_, s', hrun, hholds s' hdocs⟩

theorem set_unreadable {doc : Document} {e : ReadError}
    (hfound : found? s user space key = some doc) (hread : Record.ofDocument doc = .error e)
    (now : Instant) (value : Json) (agent : Option String) (metadata : Option Document) :
    ∃ s', set Engine.memory now user space key value agent metadata s =
      .error (.store (.serialization e.message)) s' := by
  obtain ⟨s', hrun, hdocs⟩ := ensureIndexed_memory user space s
  have hsame : ((docs s').get? (docId user space key)).map (·.doc) = some doc := by
    rw [← hfound, found?, docs, docs, hdocs]
  refine ⟨s', ?_⟩
  simp only [set, bind_apply, hrun, lookup_memory, hsame, readRecord, hread]
  rfl

theorem get_of_holdsRecord (h : HoldsRecord s user space key r) (hextra : r.ExtraUnknown) :
    get Engine.memory now user space key none s = match r.firstUntimely with
      | none => .ok (some { r with space := Record.named r.space }) s
      | some t =>
        .error (.store (.serialization (ReadError.invalidTimestamp t.text).message)) s := by
  obtain ⟨stored, hstored, hdoc⟩ := Option.map_eq_some_iff.1 h
  rw [get_untagged hstored, hdoc]
  simp only [bind_apply, readRecord, Record.ofDocument_toDocument hextra]
  cases r.firstUntimely <;> rfl

/-- If the set of a value succeeds, the next look-up of its key finds a record of that value. -/
def ReadsBack (s : State Memory) (now later : Instant) (user space key : String) (value : Json)
    (agent : Option String) (metadata : Option Document) : Prop :=
  ∀ r s', set Engine.memory now user space key value agent metadata s = .ok r s' →
    ∃ r' s'', get Engine.memory later user space key none s' = .ok (some r') s'' ∧ r'.value = value

theorem readsBack_iff_timely {later : Instant} {draft : Record}
    (h : Drafted user space key value agent metadata now (found? s user space key) draft) :
    ReadsBack s now later user space key value agent metadata ↔ draft.Timely := by
  obtain ⟨rev, s₁, hrun, hholds⟩ := set_drafted h
  have hget : get Engine.memory later user space key none s₁ = _ :=
    get_of_holdsRecord hholds h.extraUnknown
  rw [← Record.firstUntimely_eq_none_iff]
  constructor
  · intro hreads
    obtain ⟨r', s'', hfound, -⟩ := hreads _ _ hrun
    rw [hget] at hfound
    cases huntimely : draft.firstUntimely with
    | none => rfl
    | some t =>
      have hsame : Record.firstUntimely { draft with rev := some rev } = some t := huntimely
      rw [hsame] at hfound
      cases hfound
  · intro huntimely r s' hset
    rw [hrun] at hset
    cases hset
    have hsame : Record.firstUntimely { draft with rev := some rev } = none := huntimely
    rw [hsame] at hget
    exact ⟨_, _, hget, h.value_eq⟩

/-- Over any memory, and with the clock in the years of four digits, what has been set is read back
exactly when the record that was there before, if any, has no time outside these years that the set
keeps: when it was made, and when an agent last read it unless an agent sets it now. -/
theorem readsBack_iff (s : State Memory) {now : Instant} (hnow : now.InRange) (later : Instant)
    (user space key : String) (value : Json) (agent : Option String) (metadata : Option Document) :
    ReadsBack s now later user space key value agent metadata ↔
      ∀ doc ∈ found? s user space key, ∀ existing, Record.ofDocument doc = .ok existing →
        (∀ t ∈ existing.createdAt, t.InRange) ∧
          (agent = none → ∀ t ∈ existing.lastAccessedAt, t.InRange) := by
  rcases drafted_or_unreadable user space key value agent metadata now
    (found? s user space key) with
    ⟨draft, hdraft⟩ | ⟨doc, e, hfound, hread⟩
  · exact (readsBack_iff_timely hdraft).trans (hdraft.timely_iff hnow)
  · refine iff_of_true (fun r s' hset => ?_) fun doc' hdoc existing hexisting => ?_
    · obtain ⟨s'', hrun⟩ := set_unreadable hfound hread now value agent metadata
      rw [hrun] at hset
      cases hset
    · rw [hfound] at hdoc
      cases hdoc
      rw [hread] at hexisting
      cases hexisting

def holding (doc : Document) : State Memory :=
  start (Memory.empty.insertRaw Instant.epoch database (docId "u" "n" "k") doc)

theorem found?_holding (doc : Document) : found? (holding doc) "u" "n" "k" = some doc := by
  simp [found?, holding, docs, start, Memory.insertRaw]

def legacyDocument : Document :=
  SortedMap.ofList [(Record.spaceField, .null), (Record.metadataField, .null),
    (Record.accessCountField, .null), (Record.createdAtField, .str "2024-05-01T12:30:00.123456"),
    (Record.lastAccessedAtField, .str "9999-12-31T23:59:60.5+00:30"),
    ("sizeBytes", .num (.natural 12))]

theorem readsBack_legacy :
    Instant.epoch.InRange ∧ (Record.ofDocument legacyDocument).isOk = true ∧
      ReadsBack (holding legacyDocument) Instant.epoch Instant.epoch "u" "n" "k" (.num (.natural 1))
        none none := by
  have hnow : Instant.epoch.InRange := by decide
  have htimes : (Record.ofDocument legacyDocument).toOption.any (fun r =>
      (Record.untimely r.createdAt).isNone && (Record.untimely r.lastAccessedAt).isNone) =
        true := by
    decide +kernel
  refine ⟨hnow, by decide +kernel, (readsBack_iff _ hnow ..).2 fun doc hdoc existing hread => ?_⟩
  rw [found?_holding] at hdoc
  cases hdoc
  simp only [hread, Except.toOption, Option.any_some, Bool.and_eq_true, Option.isNone_iff_eq_none,
    Record.untimely_eq_none_iff] at htimes
  exact ⟨htimes.1, fun _ => htimes.2⟩

/-- A document made in the last hour of the year 9999 of a place to the west: in the year 10000. -/
def westernDocument : Document :=
  SortedMap.ofList [(Record.createdAtField, .str "9999-12-31T23:59:59-01:00")]

theorem not_readsBack_western :
    ¬ ReadsBack (holding westernDocument) Instant.epoch Instant.epoch "u" "n" "k"
      (.num (.natural 1)) none none := by
  intro h
  have htime : (Record.ofDocument westernDocument).toOption.any (fun r =>
      (Record.untimely r.createdAt).isSome) = true := by decide +kernel
  cases hread : Record.ofDocument westernDocument with
  | error e => simp [hread, Except.toOption] at htime
  | ok existing =>
    have hdraft : Drafted "u" "n" "k" (.num (.natural 1)) none none Instant.epoch
        (some westernDocument) _ := .update hread
    rw [← found?_holding] at hdraft
    have htimely := (readsBack_iff_timely hdraft).1 h
    have hnone : Record.untimely existing.createdAt = none :=
      Record.untimely_eq_none_iff.2 fun t ht => htimely t (.inl ht)
    simp [hread, Except.toOption, hnone] at htime

end Service

end Keyspace
