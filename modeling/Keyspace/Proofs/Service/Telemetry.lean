import Keyspace.Proofs.Service.History
import Keyspace.Proofs.Service.Lockstep
import Mathlib.Algebra.GroupWithZero.Nat
import Mathlib.Data.List.Induction

/-!
Access telemetry over the memory, with any writes failing.

`Tracked events reads s` says that what is kept in a state is what the events have left: no document
under an id without a life, and under every other one a document that tells its life, with the
number of its reads and the agent of the latest event that has one. Every operation keeps this with
the events that it adds, so it holds along every run (`tracked_after`).
-/

set_option autoImplicit false

namespace Keyspace.Service

/-- A document that tells the life of the record under an id. -/
structure Tells (life : List Event) (reads : Nat) (id : String) (doc : Document) : Prop where
  alive : life ≠ []
  filed : ∃ user space key, Record.Filed user space key id doc
  count : ∃ n : UInt64, doc.get? Record.accessCountField = some (.num (.natural n)) ∧
    n.toNat = readsIn life
  agent : doc.get? Record.lastAccessedByField = some (Json.ofText? (lastAgent life))
  reads_le : readsIn life ≤ reads

/-- The documents in memory tell what has happened. -/
structure Tracked (events : List Event) (reads : Nat) (s : WatchedState) : Prop where
  absent : ∀ id, (docs (inMemory s)).get? id = none → lifeOf id events = []
  present : ∀ id stored, (docs (inMemory s)).get? id = some stored →
    Tells (lifeOf id events) reads id stored.doc
  onlyWritesFail : OnlyWritesFail s

variable {events life : List Event} {reads reads' : Nat} {id user space key agent : String}
  {doc : Document} {s s' : WatchedState} {now : Instant}

namespace Tells

theorem mono (h : Tells life reads id doc) (hreads : reads ≤ reads') : Tells life reads' id doc :=
  ⟨h.alive, h.filed, h.count, h.agent, by have := h.reads_le; omega⟩

theorem insert_rev (h : Tells life reads id doc) (v : Json) :
    Tells life reads id (SortedMap.insert doc Document.revField v) := by
  obtain ⟨user, space, key, hfiled⟩ := h.filed
  have hget : ∀ name, name ≠ Document.revField →
      (SortedMap.insert doc Document.revField v).get? name = doc.get? name := fun name hname => by
    rw [SortedMap.get?_insert, if_neg hname]
  exact ⟨h.alive, ⟨user, space, key, hfiled.insert_rev v⟩,
    by rw [hget _ (by decide)]; exact h.count, by rw [hget _ (by decide)]; exact h.agent,
    h.reads_le⟩

theorem written (h : Tells life reads id doc) (m : Memory) (now : Instant) :
    Tells life reads id (m.written now database id doc).doc := by
  obtain ⟨user, space, key, hfiled⟩ := h.filed
  rw [Memory.written, hfiled.stamped_eq]
  exact h.insert_rev _

theorem readsOf_eq (h : Tells life reads id doc) :
    (Record.readsOf doc).toNat = readsIn life := by
  obtain ⟨n, hn, hcount⟩ := h.count
  simp [Record.readsOf, hn, Json.nat64?, Json.Number.nat64?, hcount]

theorem exists_countRead (h : Tells life reads id doc) (hreads : reads + 1 < 2 ^ 64)
    (agent : String) (now : Instant) : ∃ counted, Record.countRead doc agent now = some counted :=
  Record.countRead_eq_some_iff.2 (by rw [h.readsOf_eq]; have := h.reads_le; omega)

theorem counted (h : Tells life reads id doc) {counted : Document}
    (hcount : Record.countRead doc agent now = some counted) (hreads : readsIn life < reads) :
    Tells (life ++ [.read id agent]) reads id counted := by
  obtain ⟨user, space, key, hfiled⟩ := h.filed
  have hreadsIn : readsIn (life ++ [.read id agent]) = readsIn life + 1 := readsIn_append ..
  refine ⟨by simp, ⟨user, space, key, hfiled.counted hcount⟩, ⟨Record.readsOf doc + 1, ?_, ?_⟩,
    ?_, by omega⟩
  · rw [Record.get?_countRead hcount, if_pos rfl]
  · rw [Record.toNat_readsOf_succ hcount, h.readsOf_eq, hreadsIn]
  · rw [Record.get?_countRead hcount, if_neg (by decide), if_neg (by decide), if_pos rfl,
      lastAgent_append]
    rfl

theorem fresh (user space key : String) (value : Json) (metadata : Document)
    (agent : Option String) (now : Instant) (reads : Nat) :
    Tells [.written (docId user space key) agent] reads (docId user space key)
      (Record.fresh user space key value metadata agent now).toDocument where
  alive := by simp
  filed := ⟨user, space, key, Record.filed_fresh ..⟩
  count := ⟨0, Record.get?_toDocument (fun _ _ => rfl) (by simp [Record.entries, Record.fresh]),
    by simp [readsIn, Event.isRead]⟩
  agent := by
    rw [Record.get?_toDocument (fun _ _ => rfl) (v := Json.ofText? agent)
      (by simp [Record.entries, Record.fresh])]
    cases agent <;> simp [lastAgent, Event.agent?]
  reads_le := by simp [readsIn, Event.isRead]

theorem updated (h : Tells life reads id doc) {r : Record} (hr : Record.Reads doc r)
    (value : Json) (agent : Option String) (metadata : Option Document) (now : Instant) :
    Tells (life ++ [.written id agent]) reads id
      (Service.updated r id value agent metadata now).toDocument := by
  obtain ⟨user, space, key, hfiled⟩ := h.filed
  obtain ⟨n, hn, hcount⟩ := h.count
  have hextra := Record.extraUnknown_updated hr id value agent metadata now
  have hreadsIn : readsIn (life ++ [.written id agent]) = readsIn life := readsIn_append ..
  have haccess : r.accessCount = n := by
    have hread := hr.accessCount
    rw [Record.readField, hn] at hread
    exact (Except.ok.inj hread).symm
  have hlast : r.lastAccessedByAgent = lastAgent life := by
    have hread := hr.lastAccessedByAgent
    rw [Record.readField, h.agent] at hread
    exact (Except.ok.inj ((Record.readOption_ofText? _).symm.trans hread)).symm
  refine ⟨by simp, ⟨user, space, key, hfiled.updated hr value agent metadata now⟩,
    ⟨n, ?_, hcount.trans hreadsIn.symm⟩, ?_, hreadsIn ▸ h.reads_le⟩
  · rw [← haccess]
    exact Record.get?_toDocument hextra (by simp [Record.entries, Service.updated])
  · rw [lastAgent_append, ← hlast]
    exact Record.get?_toDocument hextra (by simp [Record.entries, Service.updated, Event.agent?])

end Tells

namespace Tracked

theorem start (faults : List (Option StoreError)) :
    Tracked [] 0 (Service.start (Observed.start Memory.empty { save := faults })) :=
  ⟨fun _ _ => rfl, fun _ _ h => by simp [inMemory, docs, Service.start, Observed.start,
    Memory.empty, Memory.database] at h, rfl⟩

theorem mono (h : Tracked events reads s) (hreads : reads ≤ reads') : Tracked events reads' s :=
  ⟨h.absent, fun id stored hstored => (h.present id stored hstored).mono hreads,
    h.onlyWritesFail⟩

theorem unchanged (h : Tracked events reads s) (hs : Unchanged s s') : Tracked events reads s' :=
  ⟨hs.docs ▸ h.absent, hs.docs ▸ h.present, hs.onlyWritesFail h.onlyWritesFail⟩

theorem save (h : Tracked events reads s) (hs : Saved s s' now id doc) {e : Event}
    (hid : e.id = id) (hkept : e.isRemoval = false)
    (hdoc : Tells (lifeOf id events ++ [e]) reads id doc) :
    Tracked (events ++ if NextWriteReaches (fates s) then [e] else []) reads s' := by
  by_cases hreaches : NextWriteReaches (fates s)
  · have hdocs := hs.docs
    rw [if_pos hreaches, docs_written] at hdocs
    rw [if_pos hreaches]
    refine ⟨fun other hother => ?_, fun other stored hother => ?_, hs.onlyWritesFail⟩
    · rw [hdocs, SortedMap.get?_insert] at hother
      split at hother
      · cases hother
      · rename_i hne
        rw [lifeOf_append_other (hid ▸ Ne.symm hne)]
        exact h.absent other hother
    · rw [hdocs, SortedMap.get?_insert] at hother
      split at hother
      · rename_i heq
        cases hother
        rw [heq, lifeOf_append_self hid hkept]
        exact hdoc.written _ now
      · rename_i hne
        rw [lifeOf_append_other (hid ▸ Ne.symm hne)]
        exact h.present other stored hother
  · have hdocs := hs.docs
    rw [if_neg hreaches] at hdocs
    rw [if_neg hreaches, List.append_nil]
    exact ⟨hdocs ▸ h.absent, hdocs ▸ h.present, hs.onlyWritesFail⟩

theorem remove (h : Tracked events reads s)
    (hdocs : docs (inMemory s') = (docs (inMemory s)).erase id)
    (hschedule : s'.store.schedule = s.store.schedule) :
    Tracked (events ++ [.removed id]) reads s' := by
  refine ⟨fun other hother => ?_, fun other stored hother => ?_, ?_⟩
  · by_cases heq : other = id
    · rw [heq, lifeOf_append_removed]
    · rw [hdocs, SortedMap.get?_erase, if_neg heq] at hother
      rw [lifeOf_append_other (e := .removed id) (Ne.symm heq)]
      exact h.absent other hother
  · rw [hdocs, SortedMap.get?_erase] at hother
    split at hother
    · cases hother
    · rename_i hne
      rw [lifeOf_append_other (e := .removed id) (Ne.symm hne)]
      exact h.present other stored hother
  · have hfates : fates s' = fates s := by rw [fates, fates, hschedule]
    rw [OnlyWritesFail, hschedule, hfates]
    exact h.onlyWritesFail

theorem tracksRead (h : Tracked events reads s) {stored : StoredDocument}
    (hstored : (docs (inMemory s)).get? id = some stored) {counted : Document}
    (hcount : Record.countRead stored.doc agent now = some counted)
    (hreads : readsIn (lifeOf id events) < reads) (hs : Saved s s' now id counted) :
    Tracked (events ++ if NextWriteReaches (fates s) then [.read id agent] else []) reads s' :=
  h.save hs rfl rfl ((h.present id stored hstored).counted hcount hreads)

theorem get (h : Tracked events reads s) {agent : Option String}
    (hreads : reads + readCost agent < 2 ^ 64) (now : Instant) (user space key : String) :
    Tracked (events ++ getEvents user space key agent s) (reads + readCost agent)
      (finalState (Service.get watched now user space key agent s)) := by
  obtain ⟨s₁, hlookup, hsame⟩ := lookup_watched h.onlyWritesFail (docId user space key)
  have h₁ := h.unchanged hsame
  unfold Service.get
  simp only [bind_apply, hlookup]
  cases hstored : (docs (inMemory s)).get? (docId user space key) with
  | none =>
    have hnone : getEvents user space key agent s = [] := by
      cases agent <;> simp [getEvents, hstored]
    rw [hnone, List.append_nil]
    exact h₁.mono (Nat.le_add_right ..)
  | some stored =>
    have hread : ∀ doc (s : WatchedState),
        finalState ((do return some (← readRecord doc) : Run (Observed Memory) _) s) = s := by
      intro doc s
      simp only [bind_apply, readRecord]
      cases Record.ofDocument doc <;> rfl
    cases agent with
    | none =>
      simp only [Option.map_some, getEvents, List.append_nil]
      exact (hread stored.doc s₁).symm ▸ h₁
    | some agent =>
      have hcost : readCost (some agent) = 1 := rfl
      rw [hcost] at hreads ⊢
      have hdoc := h.present _ stored hstored
      obtain ⟨counted, hcount⟩ := hdoc.exists_countRead hreads agent now
      obtain ⟨r, s₂, hsave, hsaved⟩ := attempt_save_watched h₁.onlyWritesFail now
        (docId user space key) counted
      have hevents : getEvents user space key (some agent) s =
          if NextWriteReaches (fates s₁) then [.read (docId user space key) agent] else [] := by
        simp [getEvents, hstored, trackedReads, hsame.fates_eq]
      have htracked := (h₁.mono (Nat.le_succ reads)).tracksRead (hsame.docs ▸ hstored) hcount
        (by have := hdoc.reads_le; omega) hsaved
      rw [hevents]
      simp only [Option.map_some, trackRead, hcount, bind_apply, hsave]
      cases r with
      | ok receipt => exact (hread _ s₂).symm ▸ htracked
      | error e => exact (hread _ s₂).symm ▸ htracked

theorem saveRecord (h : Tracked events reads s) {r : Record} {agent : Option String}
    (hdoc : Tells (lifeOf id events ++ [.written id agent]) reads id r.toDocument)
    (now : Instant) :
    Tracked
      (events ++ match Service.saveRecord now id r s with
        | .ok _ _ => [.written id agent]
        | .error _ _ => [])
      reads (finalState (Service.saveRecord now id r s)) := by
  obtain ⟨s', hsaved, ⟨hreaches, r', hrun⟩ | ⟨hmissed, e, hrun⟩⟩ :=
    saveRecord_watched h.onlyWritesFail now id r
  · have htracked := h.save hsaved (e := .written id agent) rfl rfl hdoc
    rw [if_pos hreaches] at htracked
    rw [hrun]
    exact htracked
  · have htracked := h.save hsaved (e := .written id agent) rfl rfl hdoc
    rw [if_neg hmissed] at htracked
    rw [hrun]
    exact htracked

theorem set (h : Tracked events reads s) (now : Instant) (user space key : String) (value : Json)
    (agent : Option String) (metadata : Option Document) :
    Tracked (events ++ setEvents now user space key value agent metadata s) reads
      (finalState (Service.set watched now user space key value agent metadata s)) := by
  obtain ⟨s', hsame, hrun⟩ := set_watched h.onlyWritesFail now user space key value agent metadata
  have h' := h.unchanged hsame
  rw [setEvents, hrun]
  cases hstored : (docs (inMemory s)).get? (docId user space key) with
  | none =>
    refine h'.saveRecord ?_ now
    rw [h.absent _ hstored]
    exact Tells.fresh ..
  | some stored =>
    cases hread : Record.ofDocument stored.doc with
    | error e =>
      simp only [hread, List.append_nil]
      exact h'
    | ok r =>
      simp only [hread]
      exact h'.saveRecord ((h.present _ stored hstored).updated
        (Record.ofDocument_eq_ok_iff.1 hread) value agent metadata now) now

theorem delete (h : Tracked events reads s) (user space key : String) :
    Tracked (events ++ deleteEvents user space key s) reads
      (finalState (Service.delete watched user space key s)) := by
  obtain ⟨s', hrun, hdocs, hschedule⟩ := delete_watched h.onlyWritesFail user space key
  have hremoved := h.remove hdocs hschedule
  cases hstored : (docs (inMemory s)).get? (docId user space key) with
  | none =>
    simp only [deleteEvents, hrun, hstored, Option.isSome_none, List.append_nil, finalState]
    refine h.unchanged ⟨?_, hschedule⟩
    rw [hdocs, SortedMap.erase_eq_self hstored]
  | some stored =>
    simp only [deleteEvents, hrun, hstored, Option.isSome_some, finalState]
    exact hremoved

theorem along {α β γ : Type} {step : α → Run (Observed Memory) β}
    {eventsAt : α → WatchedState → List Event} {f : γ → α → Run (Observed Memory) γ} (cost : Nat)
    (hf : ∀ c a, ∃ g : β → γ, f c a = step a >>= fun b => pure (g b))
    (hstep : ∀ a events reads s, reads + cost < 2 ^ 64 → Tracked events reads s →
      Tracked (events ++ eventsAt a s) (reads + cost) (finalState (step a s)))
    (l : List α) (c : γ) (h : Tracked events reads s) (hreads : reads + l.length * cost < 2 ^ 64) :
    Tracked (events ++ eventsAlong step eventsAt l s) (reads + l.length * cost)
      (finalState (l.foldlM f c s)) := by
  induction l generalizing events reads s c with
  | nil =>
    simp only [eventsAlong, List.append_nil, List.length_nil, Nat.zero_mul]
    exact h
  | cons a rest ih =>
    have hlength : (a :: rest).length * cost = cost + rest.length * cost := by
      rw [List.length_cons, Nat.succ_mul, Nat.add_comm]
    rw [hlength] at hreads ⊢
    have hfirst := hstep a events reads s (by omega) h
    obtain ⟨g, hg⟩ := hf c a
    rw [List.foldlM_cons, hg]
    simp only [eventsAlong, bind_apply]
    cases hrun : step a s with
    | ok b s' =>
      rw [hrun] at hfirst
      rw [← List.append_assoc, ← Nat.add_assoc]
      exact ih (g b) hfirst (by omega)
    | error e s' =>
      rw [hrun] at hfirst
      rw [List.append_nil]
      exact hfirst.mono (by omega)

theorem getMany (h : Tracked events reads s) {agent : Option String} {keys : List String}
    (hreads : reads + keys.length * readCost agent < 2 ^ 64) (now : Instant)
    (user space : String) :
    Tracked
      (events ++ eventsAlong (fun key => Service.get watched now user space key agent)
        (fun key => getEvents user space key agent) keys s)
      (reads + keys.length * readCost agent)
      (finalState (Service.getMany watched now user space keys agent s)) := by
  refine along (readCost agent) (fun found key => ?_)
    (fun key _ _ _ hreads h => h.get hreads now user space key) keys SortedMap.empty h hreads
  refine ⟨fun r => r.elim found fun record => found.insert key record.value, ?_⟩
  congr 1
  funext r
  cases r <;> rfl

theorem setMany (h : Tracked events reads s) (hreads : reads < 2 ^ 64) (now : Instant)
    (user : String) (items : List BatchItem) (agent : Option String) :
    Tracked
      (events ++ eventsAlong
        (fun item : BatchItem =>
          Service.set watched now user item.space item.key item.value agent item.metadata)
        (fun item => setEvents now user item.space item.key item.value agent item.metadata)
        items s)
      reads (finalState (Service.setMany watched now user items agent s)) :=
  along 0 (fun count _ => ⟨fun _ => count + 1, rfl⟩)
    (fun item _ _ _ _ h => h.set now user item.space item.key item.value agent item.metadata)
    items 0 h (by simpa using hreads)

theorem listKeys (h : Tracked events reads s) (user space : String) (keyPrefix : Option String) :
    ∃ keys s', Service.listKeys watched user space keyPrefix s = .ok keys s' ∧
      Tracked events reads s' := by
  obtain ⟨s', hrun, hsame⟩ := find_watched h.onlyWritesFail (validate_spaceSelector user space)
    (some [Record.keyField]) findLimit
  simp only [Service.listKeys, bind_apply, hrun]
  exact ⟨_, s', rfl, h.unchanged hsame⟩

theorem listSpaces (h : Tracked events reads s) (user : String) :
    ∃ spaces s', Service.listSpaces watched user s = .ok spaces s' ∧
      Tracked events reads s' := by
  obtain ⟨s', hrun, hsame⟩ := find_watched h.onlyWritesFail (validate_userSelector user)
    (some [Record.spaceField]) findLimit
  simp only [Service.listSpaces, bind_apply, hrun]
  exact ⟨_, s', rfl, h.unchanged hsame⟩

theorem clear (h : Tracked events reads s) (hreads : reads < 2 ^ 64) (now : Instant)
    (user space : String) :
    Tracked (events ++ eventsOf ⟨user, now, .clear space⟩ s) reads
      (finalState (Service.clear watched user space s)) := by
  obtain ⟨keys, s', hrun, h'⟩ := h.listKeys user space none
  simp only [eventsOf, Service.clear, bind_apply, hrun]
  exact along 0 (fun count _ => ⟨fun found => if found then count + 1 else count, rfl⟩)
    (fun key _ _ _ _ h => h.delete user space key) keys 0 h' (by simpa using hreads)

theorem countReads (h : Tracked events reads s) (hreads : reads + 1 < 2 ^ 64)
    {entries : List (String × StoredDocument)}
    (hentries : ∀ e ∈ entries, (docs (inMemory s)).get? e.1 = some e.2)
    (user space agent : String) (now : Instant) :
    ∃ counted, Service.countReads user space agent now (entries.map (·.2.doc)) = some counted ∧
      List.Forall₂ (fun e c => c.1 = e.1 ∧ Record.countRead e.2.doc agent now = some c.2) entries
        counted := by
  induction entries with
  | nil => exact ⟨[], rfl, .nil⟩
  | cons e rest ih =>
    obtain ⟨counted, hrest, hmatch⟩ := ih fun e he => hentries e (List.mem_cons_of_mem _ he)
    have hdoc := h.present e.1 e.2 (hentries e List.mem_cons_self)
    obtain ⟨c, hc⟩ := hdoc.exists_countRead hreads agent now
    obtain ⟨_, _, _, hfiled⟩ := hdoc.filed
    have hid : e.2.doc.text? Document.idField = some e.1 := by
      simp [Document.text?, hfiled.id, Json.text?]
    refine ⟨(e.1, c) :: counted, ?_, .cons ⟨rfl, hc⟩ hmatch⟩
    rw [List.map_cons, countReads_cons, hc, hid, hrest]
    rfl

theorem writeBack {entries : List (String × StoredDocument)} {counted : List (String × Document)}
    (hmatch : List.Forall₂
      (fun e c => c.1 = e.1 ∧ Record.countRead e.2.doc agent now = some c.2) entries counted)
    (hnodup : (entries.map (·.1)).Nodup) (h : Tracked events reads s)
    (hentries : ∀ e ∈ entries, (docs (inMemory s)).get? e.1 = some e.2 ∧
      readsIn (lifeOf e.1 events) < reads) :
    ∃ s', Service.writeBack watched now counted s = .ok () s' ∧
      Tracked (events ++ trackedReads agent (entries.map (·.1)) (fates s)) reads s' := by
  induction hmatch generalizing events s with
  | nil => exact ⟨s, rfl, by simpa [trackedReads] using h⟩
  | @cons e c rest counted hc _ ih =>
    obtain ⟨hid, hcount⟩ := hc
    obtain ⟨hstored, hroom⟩ := hentries e List.mem_cons_self
    rw [List.map_cons, List.nodup_cons] at hnodup
    obtain ⟨r, s₁, hsave, hsaved⟩ := attempt_save_watched h.onlyWritesFail now c.1 c.2
    have h₁ := h.tracksRead hstored hcount hroom (hid ▸ hsaved)
    have hfates : fates s₁ = (fates s).tail := by rw [fates, hsaved.schedule]
    have hother : ∀ e' ∈ rest, (docs (inMemory s₁)).get? e'.1 = some e'.2 ∧
        readsIn (lifeOf e'.1 (events ++
          if NextWriteReaches (fates s) then [.read e.1 agent] else [])) < reads := by
      intro e' he'
      have hne : e'.1 ≠ e.1 := fun heq => hnodup.1 (heq ▸ List.mem_map_of_mem he')
      obtain ⟨hstored', hroom'⟩ := hentries e' (List.mem_cons_of_mem _ he')
      have hdocs := hsaved.docs
      split at hdocs
      · rename_i hreaches
        rw [if_pos hreaches, lifeOf_append_other (e := .read e.1 agent) (Ne.symm hne), hdocs,
          docs_written, SortedMap.get?_insert, hid, if_neg hne]
        exact ⟨hstored', hroom'⟩
      · rename_i hmissed
        rw [if_neg hmissed, List.append_nil, hdocs]
        exact ⟨hstored', hroom'⟩
    obtain ⟨s', hrun, h'⟩ := ih hnodup.2 h₁ hother
    refine ⟨s', (writeBack_cons hsave counted).trans hrun, ?_⟩
    rw [List.map_cons, trackedReads, ← List.append_assoc, ← hfates]
    exact h'

theorem getAll (h : Tracked events reads s) {agent : Option String}
    (hreads : reads + readCost agent < 2 ^ 64) (now : Instant) (user space : String) :
    Tracked (events ++ eventsOf ⟨user, now, .getAll space agent⟩ s) (reads + readCost agent)
      (finalState (Service.getAll watched now user space agent s)) := by
  obtain ⟨s₁, hrun, hsame⟩ := find_watched h.onlyWritesFail (validate_spaceSelector user space)
    none findLimit
  have h₁ := h.unchanged hsame
  have hfound : (spaceSelector user space).select none findLimit
      (s.store.inner.documents database) = (returned user space s).map (·.2.doc) := by
    rw [Selector.select, Memory.documents, SortedMap.values, List.map_map, List.filter_map,
      ← List.map_take]
    rfl
  rw [hfound] at hrun
  unfold Service.getAll
  simp only [bind_apply, hrun]
  cases agent with
  | none =>
    simp only [eventsOf, List.append_nil]
    exact h₁.mono (Nat.le_add_right ..)
  | some agent =>
    have hentries : ∀ e ∈ returned user space s, (docs (inMemory s₁)).get? e.1 = some e.2 := by
      intro e he
      rw [hsame.docs]
      exact SortedMap.get?_eq_some_iff.2 (List.mem_of_mem_filter (List.mem_of_mem_take he))
    have hnodup : ((returned user space s).map (·.1)).Nodup := by
      refine (docs (inMemory s)).keys_nodup.sublist (List.Sublist.map _ ?_)
      exact (List.take_sublist ..).trans List.filter_sublist
    have hcost : readCost (some agent) = 1 := rfl
    rw [hcost] at hreads ⊢
    obtain ⟨counted, hcounted, hmatch⟩ := h₁.countReads hreads hentries user space agent now
    have hroom : ∀ e ∈ returned user space s, (docs (inMemory s₁)).get? e.1 = some e.2 ∧
        readsIn (lifeOf e.1 events) < reads + 1 := fun e he =>
      ⟨hentries e he, Nat.lt_succ_of_le (h₁.present _ _ (hentries e he)).reads_le⟩
    obtain ⟨s₂, hback, h₂⟩ := writeBack hmatch hnodup (h₁.mono (Nat.le_succ reads)) hroom
    rw [hsame.fates_eq] at h₂
    simp only [hcounted, bind_apply, hback]
    exact h₂

theorem outcome (h : Tracked events reads s) (r : Request)
    (hreads : reads + r.operation.taggedReads < 2 ^ 64) :
    Tracked (events ++ eventsOf r s) (reads + r.operation.taggedReads)
      (Service.outcome watched r s).2 := by
  obtain ⟨user, now, operation⟩ := r
  rw [state_outcome]
  unfold perform
  cases operation with
  | get space key agent =>
    rw [finalState_map]
    exact h.get hreads now user space key
  | set space key value agent metadata =>
    rw [finalState_map]
    exact h.set now user space key value agent metadata
  | delete space key =>
    rw [finalState_map]
    exact h.delete user space key
  | listKeys space keyPrefix =>
    obtain ⟨keys, s', hrun, h'⟩ := h.listKeys user space keyPrefix
    rw [finalState_map, hrun, eventsOf, List.append_nil]
    exact h'
  | listSpaces =>
    obtain ⟨spaces, s', hrun, h'⟩ := h.listSpaces user
    rw [finalState_map, hrun, eventsOf, List.append_nil]
    exact h'
  | getAll space agent =>
    rw [finalState_map]
    exact h.getAll hreads now user space
  | getMany space keys agent =>
    rw [finalState_map]
    exact h.getMany hreads now user space
  | setMany items agent =>
    rw [finalState_map]
    exact h.setMany hreads now user items agent
  | clear space =>
    rw [finalState_map]
    exact h.clear hreads now user space

theorem after (h : Tracked events reads s) (requests : List Request)
    (hreads : reads + (requests.map (·.operation.taggedReads)).sum < 2 ^ 64) :
    Tracked (events ++ history requests s) (reads + (requests.map (·.operation.taggedReads)).sum)
      (Service.after watched requests s) := by
  induction requests generalizing events reads s with
  | nil => simpa [history, Service.after] using h
  | cons r rest ih =>
    rw [List.map_cons, List.sum_cons, ← Nat.add_assoc] at hreads ⊢
    rw [history, ← List.append_assoc]
    exact ih (h.outcome r (by omega)) hreads

end Tracked

def Operation.Quiet : Operation → Prop
  | .set .. | .setMany .. | .listKeys .. | .listSpaces => True
  | .get _ _ agent | .getAll _ agent | .getMany _ _ agent => agent = none
  | .delete .. | .clear _ => False

theorem mem_eventsAlong {α β : Type} {step : α → Run (Observed Memory) β}
    {eventsAt : α → WatchedState → List Event} {l : List α} {e : Event}
    (h : e ∈ eventsAlong step eventsAt l s) : ∃ a s', e ∈ eventsAt a s' := by
  induction l generalizing s with
  | nil => cases h
  | cons a rest ih =>
    rw [eventsAlong, List.mem_append] at h
    rcases h with h | h
    · exact ⟨a, s, h⟩
    · split at h
      · exact ih h
      · cases h

def Event.IsWrite (e : Event) : Prop := e.isRead = false ∧ e.isRemoval = false

theorem isWrite_of_mem_setEvents {value : Json} {agent : Option String}
    {metadata : Option Document} {e : Event}
    (h : e ∈ setEvents now user space key value agent metadata s) : e.IsWrite := by
  rw [setEvents] at h
  split at h
  · obtain rfl := List.mem_singleton.1 h
    exact ⟨rfl, rfl⟩
  · cases h

theorem isWrite_of_quiet {r : Request} (hquiet : r.operation.Quiet) {e : Event}
    (h : e ∈ eventsOf r s) : e.IsWrite := by
  obtain ⟨user, now, operation⟩ := r
  cases operation with
  | get space key agent =>
    obtain rfl : agent = none := hquiet
    cases h
  | set space key value agent metadata => exact isWrite_of_mem_setEvents h
  | delete space key => exact hquiet.elim
  | listKeys space keyPrefix => cases h
  | listSpaces => cases h
  | getAll space agent =>
    obtain rfl : agent = none := hquiet
    cases h
  | getMany space keys agent =>
    obtain rfl : agent = none := hquiet
    obtain ⟨key, s', hkey⟩ := mem_eventsAlong h
    cases hkey
  | setMany items agent =>
    obtain ⟨item, s', hitem⟩ := mem_eventsAlong h
    exact isWrite_of_mem_setEvents hitem
  | clear space => exact hquiet.elim

theorem lifeOf_append_writes (id : String) (events : List Event) {more : List Event}
    (h : ∀ e ∈ more, e.IsWrite) :
    readsIn (lifeOf id (events ++ more)) = readsIn (lifeOf id events) ∧
      (lifeOf id events ≠ [] → lifeOf id (events ++ more) ≠ []) := by
  induction more using List.reverseRecOn with
  | nil => simp
  | append_singleton more e ih =>
    obtain ⟨hreads, halive⟩ := ih fun e he => h e (List.mem_append_left _ he)
    obtain ⟨hread, hkept⟩ := h e (by simp)
    rw [← List.append_assoc]
    by_cases hid : e.id = id
    · rw [lifeOf_append_self hid hkept, readsIn_append, hreads]
      exact ⟨by simp [hread], fun _ => by simp⟩
    · rw [lifeOf_append_other hid]
      exact ⟨hreads, halive⟩

def beginning (faults : List (Option StoreError)) : WatchedState :=
  start (Observed.start Memory.empty { save := faults })

/-- A record in memory has been counted as often as it has been read on behalf of an agent, and
shows the agent of the latest event that has one. Operations that read on behalf of no agent, and
remove nothing, leave the count as it is. -/
theorem telemetry_exact (faults : List (Option StoreError)) (requests : List Request)
    (hreads : (requests.map (·.operation.taggedReads)).sum < 2 ^ 64 - 1) :
    (∀ id stored,
      (docs (inMemory (after watched requests (beginning faults)))).get? id = some stored →
      (∃ n : UInt64, stored.doc.get? Record.accessCountField = some (.num (.natural n)) ∧
        n.toNat = readsIn (lifeOf id (history requests (beginning faults)))) ∧
      stored.doc.get? Record.lastAccessedByField =
        some (Json.ofText? (lastAgent (lifeOf id (history requests (beginning faults)))))) ∧
    (∀ id, (docs (inMemory (after watched requests (beginning faults)))).get? id = none →
      lifeOf id (history requests (beginning faults)) = []) ∧
    ∀ r : Request, r.operation.Quiet → ∀ id stored,
      (docs (inMemory (after watched requests (beginning faults)))).get? id = some stored →
      ∃ stored', (docs (inMemory
          (outcome watched r (after watched requests (beginning faults))).2)).get? id =
            some stored' ∧
        stored'.doc.get? Record.accessCountField = stored.doc.get? Record.accessCountField := by
  have h := (Tracked.start faults).after requests (by omega)
  rw [List.nil_append, Nat.zero_add] at h
  refine ⟨fun id stored hstored => ?_, h.absent, fun r hquiet id stored hstored => ?_⟩
  · exact ⟨(h.present id stored hstored).count, (h.present id stored hstored).agent⟩
  · have hcost : r.operation.taggedReads = 0 := by
      obtain ⟨user, now, operation⟩ := r
      cases operation <;> simp_all [Operation.Quiet, Operation.taggedReads, readCost]
    have hnext := h.outcome r (by omega)
    have hdoc := h.present id stored hstored
    obtain ⟨hsame, halive⟩ := lifeOf_append_writes id (history requests (beginning faults))
      fun e he => isWrite_of_quiet hquiet he
    cases hstored' : (docs (inMemory
        (outcome watched r (after watched requests (beginning faults))).2)).get? id with
    | none => exact absurd (hnext.absent id hstored') (halive hdoc.alive)
    | some stored' =>
      obtain ⟨n, hn, hcount⟩ := hdoc.count
      obtain ⟨n', hn', hcount'⟩ := (hnext.present id stored' hstored').count
      refine ⟨stored', rfl, ?_⟩
      rw [hn, hn', UInt64.toNat_inj.1 (hcount'.trans (hsame.trans hcount.symm))]

def readTwice : List Request :=
  [⟨"u", Instant.epoch, .set "n" "k" .null none none⟩,
    ⟨"u", Instant.epoch, .get "n" "k" (some "a")⟩,
    ⟨"u", Instant.epoch, .get "n" "k" (some "b")⟩]

def thirdWriteFails : List (Option StoreError) := [none, none, some (.transport "")]

theorem telemetry_readTwice :
    ∃ stored, (docs (inMemory (after watched readTwice (beginning thirdWriteFails)))).get?
        (docId "u" "n" "k") = some stored ∧
      stored.doc.get? Record.accessCountField = some (.num (.natural 1)) ∧
      stored.doc.get? Record.lastAccessedByField = some (.str "a") := by
  obtain ⟨htold, habsent, _⟩ := telemetry_exact thirdWriteFails readTwice (by decide)
  have hlife : readsIn (lifeOf (docId "u" "n" "k")
      (history readTwice (beginning thirdWriteFails))) = 1 := by decide +kernel
  have hlast : lastAgent (lifeOf (docId "u" "n" "k")
      (history readTwice (beginning thirdWriteFails))) = some "a" := by decide +kernel
  cases hstored : (docs (inMemory (after watched readTwice (beginning thirdWriteFails)))).get?
      (docId "u" "n" "k") with
  | none =>
    rw [habsent _ hstored] at hlife
    cases hlife
  | some stored =>
    obtain ⟨⟨n, hn, hcount⟩, hagent⟩ := htold _ stored hstored
    rw [hlife] at hcount
    obtain rfl : n = 1 := UInt64.toNat_inj.1 hcount
    rw [hlast] at hagent
    exact ⟨stored, rfl, hn, hagent⟩

end Keyspace.Service
