import Keyspace.Proofs.Record.Legible
import Keyspace.Proofs.Service.Faults
import Keyspace.Proofs.Service.Reads
import Keyspace.Proofs.Service.SetThenGet

set_option autoImplicit false

namespace Keyspace.Service

open Record (CountedAs Legible countRead readsOf unbooked)

variable {σ : Type} {engine : Engine σ} {now : Instant} {user space key id agent : String}
  {doc : Document} {r : Record}

def countedFor (engine : Engine σ) (now : Instant) (id : String) (agent : Option String)
    (doc : Document) : Run σ Document :=
  match agent with
  | some agent => trackRead engine now id agent doc
  | none => pure doc

theorem get_eq (engine : Engine σ) (now : Instant) (user space key : String)
    (agent : Option String) :
    get engine now user space key agent = (do
      match ← lookup engine (docId user space key) with
      | none => return none
      | some doc =>
        let doc ← countedFor engine now (docId user space key) agent doc
        return some (← readRecord doc)) := by
  cases agent <;> rfl

theorem get_eq_some_iff {agent : Option String} {s s' : State σ} :
    get engine now user space key agent s = .ok (some r) s' ↔
      ∃ doc s₁ doc', lookup engine (docId user space key) s = .ok (some doc) s₁ ∧
        countedFor engine now (docId user space key) agent doc s₁ = .ok doc' s' ∧
        Record.ofDocument doc' = .ok r := by
  rw [get_eq]
  constructor
  · intro h
    obtain ⟨found, s₁, hlookup, h⟩ := bind_eq_ok_iff.1 h
    cases found with
    | none => cases h
    | some doc =>
      obtain ⟨doc', s₂, hcounted, h⟩ := bind_eq_ok_iff.1 h
      obtain ⟨record, s₃, hread, h⟩ := bind_eq_ok_iff.1 h
      cases h
      obtain ⟨hr, rfl⟩ := readRecord_eq_ok_iff.1 hread
      exact ⟨doc, s₁, doc', hlookup, hcounted, hr⟩
  · rintro ⟨doc, s₁, doc', hlookup, hcounted, hr⟩
    exact bind_eq_ok_iff.2 ⟨_, _, hlookup, bind_eq_ok_iff.2 ⟨_, _, hcounted, bind_eq_ok_iff.2
      ⟨_, _, readRecord_eq_ok_iff.2 ⟨hr, rfl⟩, rfl⟩⟩⟩

theorem trackRead_counted {counted : Document} (hcount : countRead doc agent now = some counted)
    (engine : Engine σ) (id : String) (s : State σ) :
    ∃ doc' s', trackRead engine now id agent doc s = .ok doc' s' ∧
      CountedAs doc agent now doc' := by
  have hcounted := Record.countedAs_countRead hcount
  simp only [trackRead, hcount, bind_apply, attempt]
  cases engine.save now database id counted s.store with
  | ok receipt store => exact ⟨_, _, rfl, hcounted.insert_rev receipt.rev⟩
  | error e store => exact ⟨_, _, rfl, hcounted⟩

theorem countedAs_of_trackRead {s s' : State σ} {doc' : Document}
    (h : trackRead engine now id agent doc s = .ok doc' s') : CountedAs doc agent now doc' := by
  cases hcount : countRead doc agent now with
  | none =>
    simp only [trackRead, hcount] at h
    cases h
  | some counted =>
    obtain ⟨doc'', s'', hrun, hcounted⟩ := trackRead_counted hcount engine id s
    cases hrun.symm.trans h
    exact hcounted

/-- Where an untagged read finds a record, one on behalf of an agent finds it too, with the
read counted, and perhaps with another token. -/
def TaggingKeeps (engine : Engine σ) (s : State σ) (now : Instant)
    (user space key agent : String) : Prop :=
  ∀ r s₁, get engine now user space key none s = .ok (some r) s₁ →
    ∃ r' s', get engine now user space key (some agent) s = .ok (some r') s' ∧
      r'.accessCount.toNat = r.accessCount.toNat + 1 ∧
      r' = { r with
        accessCount := r'.accessCount
        lastAccessedByAgent := some agent
        lastAccessedAt := some now
        rev := r'.rev }

/-- Over every engine, and whatever comes of the write, this is so exactly as long as the counter is
below its maximum, and the clock in the years of four digits. -/
theorem taggingKeeps_iff (engine : Engine σ) (s : State σ) (now : Instant)
    (user space key agent : String) :
    TaggingKeeps engine s now user space key agent ↔
      ∀ r s₁, get engine now user space key none s = .ok (some r) s₁ →
        r.accessCount.toNat + 1 < 2 ^ 64 ∧ now.InRange := by
  refine forall_congr' fun r => forall_congr' fun s₁ => forall_congr' fun huntagged => ?_
  obtain ⟨doc, _, _, hlookup, hdoc, hread⟩ := get_eq_some_iff.1 huntagged
  cases hdoc
  have hr := Record.ofDocument_eq_ok_iff.1 hread
  constructor
  · rintro ⟨r', s', htagged, hcount, -⟩
    obtain ⟨doc₁, s₂, doc', hlookup', htrack, hread'⟩ := get_eq_some_iff.1 htagged
    cases hlookup.symm.trans hlookup'
    exact ⟨hcount ▸ r'.accessCount.toNat_lt,
      (countedAs_of_trackRead htrack).inRange_of_reads (Record.ofDocument_eq_ok_iff.1 hread')⟩
  · rintro ⟨hroom, hnow⟩
    rw [← Record.readsOf_of_reads hr] at hroom
    obtain ⟨counted, hcount⟩ := Record.countRead_eq_some_iff.2 hroom
    obtain ⟨doc', s', htrack, hcounted⟩ := trackRead_counted hcount engine _ s₁
    obtain ⟨rev, hr'⟩ := hcounted.reads hnow hr
    refine ⟨_, s', get_eq_some_iff.2
      ⟨doc, s₁, doc', hlookup, htrack, Record.ofDocument_eq_ok_iff.2 hr'⟩, ?_, rfl⟩
    have hsucc := Record.toNat_readsOf_succ hcount
    rw [Record.readsOf_of_reads hr] at hsucc
    exact hsucc

def fullDocument : Document :=
  SortedMap.ofList [(Record.accessCountField, .num (.natural 18446744073709551615))]

/-- Its record is found, but not on behalf of an agent. -/
theorem not_taggingKeeps_full :
    ¬ TaggingKeeps Engine.memory (holding fullDocument) Instant.epoch "u" "n" "k" "a" := by
  intro h
  have huntagged : ((answer? (get Engine.memory Instant.epoch "u" "n" "k" none
      (holding fullDocument))).join).isSome = true := by decide +kernel
  have htagged : answer? (get Engine.memory Instant.epoch "u" "n" "k" (some "a")
      (holding fullDocument)) = none := by decide +kernel
  obtain ⟨r, hr⟩ := Option.isSome_iff_exists.1 huntagged
  obtain ⟨r', s', hrun, -⟩ := h r _ (eq_ok_of_answer? (Option.join_eq_some_iff.1 hr))
  rw [hrun] at htagged
  cases htagged

def contents (o : Observed Memory) (db id : String) : Option (Document × Nat) :=
  (o.inner.find? db id).map fun stored => (stored.doc, stored.revision)

/-- A look-up that fails leaves every document as it was, with its revision. -/
def LeavesOnFailure (s : WatchedState) (now : Instant) (user space key : String)
    (agent : Option String) : Prop :=
  ∀ e s', get watched now user space key agent s = .error e s' →
    ∀ db id, contents s'.store db id = contents s.store db id

def Reaches (s : WatchedState) (call : Call) : Prop := (s.store.schedule.next call).1 = none

/-- A look-up on behalf of an agent that comes to write the counted document, and writes it. -/
structure Records (s : WatchedState) (now : Instant) (user space key agent : String)
    (stored : StoredDocument) (counted : Document) : Prop where
  asked : Reaches s (.get database (docId user space key))
  written : Reaches s (.save database (docId user space key))
  found : s.store.inner.find? database (docId user space key) = some stored
  counted : countRead stored.doc agent now = some counted

section Watched

variable {s : WatchedState} {stored : StoredDocument} {counted : Document} {o o' : Observed Memory}

theorem get_watched_eq_ok_iff :
    watched.get database id o = .ok doc o' ↔ (o.schedule.next (.get database id)).1 = none ∧
      (∃ stored, o.inner.find? database id = some stored ∧ stored.doc = doc) ∧
      o' = ⟨o.inner, o.calls ++ [.get database id], (o.schedule.next (.get database id)).2⟩ := by
  change Observed.observe (.get database id) (Memory.get database id) o = _ ↔ _
  obtain ⟨inner, calls, schedule⟩ := o'
  rw [Observed.observe_eq_ok_iff, Memory.get_run, Memory.find?]
  cases (o.inner.database database).get? id <;> simp [eq_comm, and_assoc]

theorem save_watched_eq_ok_iff {receipt : Receipt} :
    watched.save now database id doc o = .ok receipt o' ↔
      (o.schedule.next (.save database id)).1 = none ∧
      receipt = ⟨id, Memory.token (o.inner.nextRevision database id)⟩ ∧
      o' = ⟨o.inner.put database id (o.inner.written now database id doc),
        o.calls ++ [.save database id], (o.schedule.next (.save database id)).2⟩ := by
  change Observed.observe (.save database id) (Memory.save now database id doc) o = _ ↔ _
  obtain ⟨inner, calls, schedule⟩ := o'
  rw [Observed.observe_eq_ok_iff, Memory.save_run]
  simp [eq_comm, and_assoc]

/-- The record is read only then from what was written. -/
theorem Records.get_eq (h : Records s now user space key agent stored counted) :
    ∃ rev s', get watched now user space key (some agent) s =
        (do return some (← readRecord (SortedMap.insert counted Document.revField (.str rev)))) s' ∧
      s'.store.inner = s.store.inner.put database (docId user space key)
        (s.store.inner.written now database (docId user space key) counted) :=
  ⟨_, _, get_counted (get_watched_eq_ok_iff.2 ⟨h.asked, ⟨stored, h.found, rfl⟩, rfl⟩) h.counted
    (save_watched_eq_ok_iff.2 ⟨h.written, rfl, rfl⟩), rfl⟩

theorem trackRead_same (h : ∀ counted, countRead doc agent now = some counted →
      ¬ Reaches s (.save database id)) :
    SameDocuments s.store (finalState (trackRead watched now id agent doc s)).store := by
  cases hcount : countRead doc agent now with
  | none =>
    simp only [trackRead, hcount]
    exact refl s.store
  | some counted =>
    cases hsave : watched.save now database id counted s.store with
    | ok receipt store => exact absurd (save_watched_eq_ok_iff.1 hsave).1 (h counted hcount)
    | error e store =>
      simp only [trackRead, hcount, bind_apply, attempt, hsave]
      exact save_failed hsave

/-- Every other look-up leaves the documents as they are. -/
theorem records_or_same (s : WatchedState) (now : Instant) (user space key agent : String) :
    (∃ stored counted, Records s now user space key agent stored counted) ∨
      SameDocuments s.store
        (finalState (get watched now user space key (some agent) s)).store := by
  refine or_iff_not_imp_left.2 fun hrecords => ?_
  rw [get_eq]
  -- Of the three parts of a look-up, only the second can write.
  refine Runs.finalState_bind (R := fun s s' : WatchedState => SameDocuments s.store s'.store)
    (Keeps.store (keeps_lookup (runs_get_watched _)) s).1 fun found s₁ hlookup => ?_
  rcases lookup_ok hlookup with ⟨doc, rfl, hget⟩ | ⟨rfl, -⟩
  · obtain ⟨hasked, ⟨stored, hfound, rfl⟩, hstore⟩ := get_watched_eq_ok_iff.1 hget
    refine Runs.finalState_bind (R := fun s s' : WatchedState => SameDocuments s.store s'.store)
      (trackRead_same fun counted hcount hwritten => hrecords ⟨stored, counted, hasked, ?_, hfound,
        hcount⟩) fun doc' s₂ _ => (Keeps.store ((keeps_readRecord doc').bind fun _ => .pure) s₂).1
    rw [Reaches, hstore] at hwritten
    exact hwritten
  · exact refl s₁.store

theorem contents_eq (h : SameDocuments o o') (db id : String) :
    contents o' db id = contents o db id := by
  rw [contents, contents, Memory.SameDocuments.find?_eq h]

theorem contents_written_ne (hinner : o'.inner = o.inner.put database id
      (o.inner.written now database id doc)) (hfound : o.inner.find? database id = some stored) :
    contents o' database id ≠ contents o database id := by
  rw [contents, contents, hinner, Memory.find?_put, if_pos ⟨rfl, rfl⟩, hfound]
  simp [Memory.written, Memory.nextRevision, hfound]

/-- A look-up leaves everything as it was when it fails, unless it is on behalf of an agent, its two
calls reach the memory, its count has room, and yet no record can be read from the document: because
the time of the read cannot, or because there is none in the document besides its bookkeeping. -/
theorem leavesOnFailure_iff (s : WatchedState) (now : Instant) (user space key : String)
    (agent : Option String) :
    LeavesOnFailure s now user space key agent ↔
      (agent.isSome = true → Reaches s (.get database (docId user space key)) →
        Reaches s (.save database (docId user space key)) →
        ∀ stored, s.store.inner.find? database (docId user space key) = some stored →
          (readsOf stored.doc).toNat + 1 < 2 ^ 64 →
          now.InRange ∧ Legible (unbooked stored.doc)) := by
  cases agent with
  | none =>
    refine iff_of_true (fun e s' hfails db id => ?_) nofun
    have hsame := (keeps_get_untagged (runs_get_watched (docId user space key)) now s).1.1
    rw [hfails] at hsame
    exact contents_eq hsame db id
  | some agent =>
    constructor
    · intro hleaves _ hasked hwritten stored hfound hroom
      obtain ⟨counted, hcount⟩ := Record.countRead_eq_some_iff.2 hroom
      obtain ⟨rev, s', hget, hinner⟩ := Records.get_eq ⟨hasked, hwritten, hfound, hcount⟩
      rw [← ((Record.countedAs_countRead hcount).insert_rev rev).legible_iff
        (SortedMap.get?_insert_self ..)]
      -- Were the record illegible, the look-up would fail, and the revision would be the next one.
      by_contra hillegible
      obtain ⟨e, hread⟩ := readRecord_error
        (fun r hr => hillegible ⟨r, Record.ofDocument_eq_ok_iff.2 hr⟩) s'
      exact contents_written_ne hinner hfound
        (hleaves _ _ (hget.trans (bind_eq_error_iff.2 (.inl hread))) _ _)
    · intro hlegible e s' hfails db id
      rcases records_or_same s now user space key agent with ⟨stored, counted, hrecords⟩ | hsame
      · obtain ⟨rev, s₁, hget, -⟩ := hrecords.get_eq
        have hroom := Record.countRead_eq_some_iff.1 ⟨counted, hrecords.counted⟩
        have hcountedAs := Record.countedAs_countRead hrecords.counted
        obtain ⟨r, hr⟩ :=
          ((hcountedAs.insert_rev rev).legible_iff (SortedMap.get?_insert_self ..)).2
            (hlegible rfl hrecords.asked hrecords.written stored hrecords.found hroom)
        have hread := readRecord_ok (Record.ofDocument_eq_ok_iff.1 hr) s₁
        cases (hget.trans (bind_eq_ok_iff.2 ⟨_, _, hread, rfl⟩)).symm.trans hfails
      · rw [hfails] at hsame
        exact contents_eq hsame db id

end Watched

def misfiledDocument : Document := SortedMap.ofList [(Record.userField, .num (.natural 5))]

/-- A look-up of it fails, and has counted the read. -/
theorem not_leavesOnFailure_misfiled :
    ¬ LeavesOnFailure (start (Observed.start (holding misfiledDocument).store {})) Instant.epoch
      "u" "n" "k" (some "a") := by
  intro h
  have hfails : (error? (get watched Instant.epoch "u" "n" "k" (some "a")
      (start (Observed.start (holding misfiledDocument).store {})))).isSome = true := by
    decide +kernel
  obtain ⟨e, he⟩ := Option.isSome_iff_exists.1 hfails
  have hsame := h e _ (eq_error_of_error? he) database (docId "u" "n" "k")
  revert hsame
  decide +kernel

end Keyspace.Service
