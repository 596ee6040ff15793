import Keyspace.Proofs.Record.SameData
import Keyspace.Proofs.Service.Finding
import Keyspace.Proofs.Service.Telemetry

/-!
Reads on behalf of agents do not influence the data.

A run is compared with the one in which every read is on behalf of no agent. In the first any of the
writes that track reads may fail, in the second none is made. `Shadows reads s t` says that the
documents of the first state are twins of those of the second. Each operation answers the same data
from such states and leads to such states again: what tracks a read changes the first state only,
and leaves a twin where it found one. So the transcripts show the same data (`transcript_untagged`).
-/

set_option autoImplicit false

namespace Keyspace.Service

/-- An operation with its reads on behalf of no agent. -/
def Operation.untagged : Operation → Operation
  | .get space key _ => .get space key none
  | .getAll space _ => .getAll space none
  | .getMany space keys _ => .getMany space keys none
  | operation => operation

def Request.untagged (r : Request) : Request := { r with operation := r.operation.untagged }

/-- An answer without the write tokens of its records and what they say about accesses. -/
def Answer.data : Answer → Answer
  | .record r => .record (r.map Record.data)
  | .written r => .written r.data
  | answer => answer

def ComesToWrite (user space key : String) (s : WatchedState) : Prop :=
  ∀ stored ∈ (docs (inMemory s)).get? (docId user space key),
    (Record.ofDocument stored.doc).isOk = true

def SetReaches (user space key : String) (s : WatchedState) : Prop :=
  ComesToWrite user space key s → NextWriteReaches (fates s)

instance (user space key : String) (s : WatchedState) : Decidable (SetReaches user space key s) :=
  inferInstanceAs (Decidable ((∀ stored ∈ _, _ = _) → NextWriteReaches _))

def BatchReaches (now : Instant) (user : String) (agent : Option String) :
    List BatchItem → WatchedState → Prop
  | [], _ => True
  | item :: rest, s => SetReaches user item.space item.key s ∧
    match set watched now user item.space item.key item.value agent item.metadata s with
    | .ok _ s' => BatchReaches now user agent rest s'
    | .error _ _ => True

instance decidableBatchReaches (now : Instant) (user : String) (agent : Option String) :
    (items : List BatchItem) → (s : WatchedState) → Decidable (BatchReaches now user agent items s)
  | [], _ => .isTrue trivial
  | item :: rest, s =>
    have : Decidable (match set watched now user item.space item.key item.value agent
        item.metadata s with
      | .ok _ s' => BatchReaches now user agent rest s'
      | .error _ _ => True) :=
      match set watched now user item.space item.key item.value agent item.metadata s with
      | .ok _ s' => decidableBatchReaches now user agent rest s'
      | .error _ _ => .isTrue trivial
    inferInstanceAs (Decidable (_ ∧ _))

def Request.SetsReach (r : Request) (s : WatchedState) : Prop :=
  match r.operation with
  | .set space key _ _ _ => SetReaches r.user space key s
  | .setMany items agent => BatchReaches r.now r.user agent items s
  | .get .. | .delete .. | .listKeys .. | .listSpaces | .getAll .. | .getMany .. | .clear _ => True

instance (r : Request) (s : WatchedState) : Decidable (r.SetsReach s) := by
  unfold Request.SetsReach
  split <;> infer_instance

/-- Along a run no write of a set fails. -/
def SetsReach : List Request → WatchedState → Prop
  | [], _ => True
  | r :: rest, s => r.SetsReach s ∧ SetsReach rest (outcome watched r s).2

instance decidableSetsReach :
    (requests : List Request) → (s : WatchedState) → Decidable (SetsReach requests s)
  | [], _ => .isTrue trivial
  | r :: rest, s =>
    have := decidableSetsReach rest (outcome watched r s).2
    inferInstanceAs (Decidable (_ ∧ _))

variable {reads reads' : Nat} {user space key id : String} {now : Instant} {agent : Option String}
  {s s' t t' : WatchedState} {doc doc' : Document} {R : WatchedState → WatchedState → Prop}

/-- The documents in memory are twins. In the first state writes may be made to fail, in the second
nothing is. -/
structure Shadows (reads : Nat) (s t : WatchedState) : Prop where
  docs : ∀ id, Option.Rel (fun a b => Document.Twins reads id a.doc b.doc)
    ((docs (inMemory s)).get? id) ((docs (inMemory t)).get? id)
  onlyWritesFail : OnlyWritesFail s
  nothingFails : t.store.schedule = {}

def Shown (reads : Nat) (t : WatchedState) (id : String) (doc : Document) : Prop :=
  ∃ stored, (docs (inMemory t)).get? id = some stored ∧ Document.Twins reads id doc stored.doc

namespace Shadows

theorem beginning (faults : List (Option StoreError)) :
    Shadows 0 (Service.beginning faults) (Service.beginning []) :=
  ⟨fun _ => .none, rfl, rfl⟩

theorem mono (h : Shadows reads s t) (hle : reads ≤ reads') : Shadows reads' s t := by
  refine ⟨fun id => ?_, h.onlyWritesFail, h.nothingFails⟩
  have hid := h.docs id
  generalize (Service.docs (inMemory s)).get? id = a, (Service.docs (inMemory t)).get? id = b
    at hid
  cases hid with
  | none => exact .none
  | some htwins => exact .some (htwins.mono hle)

theorem onlyWritesFail_right (h : Shadows reads s t) : OnlyWritesFail t := by
  rw [OnlyWritesFail, fates, h.nothingFails]

theorem reaches_right (h : Shadows reads s t) : NextWriteReaches (fates t) := by
  rw [fates, h.nothingFails]
  rfl

theorem unchanged (h : Shadows reads s t) (hs : Unchanged s s') (ht : Unchanged t t') :
    Shadows reads s' t' :=
  ⟨fun id => by rw [hs.docs, ht.docs]; exact h.docs id, hs.onlyWritesFail h.onlyWritesFail,
    ht.schedule.trans h.nothingFails⟩

theorem tracked (h : Shadows reads s t) (hs : Saved s s' now id doc) (hdoc : Shown reads t id doc) :
    Shadows reads s' t := by
  refine ⟨fun other => ?_, hs.onlyWritesFail, h.nothingFails⟩
  obtain ⟨stored, hstored, htwins⟩ := hdoc
  rw [hs.docs]
  split
  · rw [docs_written, SortedMap.get?_insert]
    split
    · rename_i hother
      rw [hother, hstored]
      exact .some (htwins.stamped _)
    · exact h.docs other
  · exact h.docs other

theorem saved (h : Shadows reads s t) (hreaches : NextWriteReaches (fates s))
    (hs : Saved s s' now id doc) (ht : Saved t t' now id doc')
    (htwins : Document.Twins reads id doc doc') : Shadows reads s' t' := by
  refine ⟨fun other => ?_, hs.onlyWritesFail, ?_⟩
  · rw [hs.docs, ht.docs, if_pos hreaches, if_pos h.reaches_right, docs_written, docs_written,
      SortedMap.get?_insert, SortedMap.get?_insert]
    split
    · rename_i hother
      rw [hother]
      exact .some ((htwins.stamped _).stamped_right _)
    · exact h.docs other
  · rw [ht.schedule, fates, h.nothingFails]
    rfl

theorem removed (h : Shadows reads s t)
    (hs : Service.docs (inMemory s') = (Service.docs (inMemory s)).erase id)
    (ht : Service.docs (inMemory t') = (Service.docs (inMemory t)).erase id)
    (hschedule : s'.store.schedule = s.store.schedule)
    (hschedule' : t'.store.schedule = t.store.schedule) : Shadows reads s' t' := by
  refine ⟨fun other => ?_, ?_, hschedule'.trans h.nothingFails⟩
  · rw [hs, ht, SortedMap.get?_erase, SortedMap.get?_erase]
    split
    · exact .none
    · exact h.docs other
  · rw [OnlyWritesFail, fates, hschedule]
    exact h.onlyWritesFail

theorem found (h : Shadows reads s t) {selector : Selector} {texts : List (String × String)}
    (hasks : AsksFor selector texts) :
    List.Forall₂ (fun d d' => (∃ id, Shown reads t id d) ∧ ∃ id, Document.Twins reads id d d')
      (selector.select none findLimit (s.store.inner.documents database))
      (selector.select none findLimit (t.store.inner.documents database)) := by
  have hall : List.Forall₂
      (fun d d' => (∃ id, Shown reads t id d) ∧ ∃ id, Document.Twins reads id d d')
      (s.store.inner.documents database) (t.store.inner.documents database) := by
    refine List.forall₂_map_left_iff.2 (List.forall₂_map_right_iff.2
      (SortedMap.forall₂_values fun id => ?_))
    have hid := h.docs id
    change Option.Rel _ ((Service.docs (inMemory s)).get? id) ((Service.docs (inMemory t)).get? id)
    generalize (Service.docs (inMemory s)).get? id = a, ht : (Service.docs (inMemory t)).get? id = b
      at hid
    cases hid with
    | none => exact .none
    | some htwins => exact .some ⟨⟨id, _, ht, htwins⟩, id, htwins⟩
  refine List.forall₂_take _ (List.rel_filter (fun d d' hd => ?_) hall)
  obtain ⟨_, id, htwins⟩ := hd
  simp only [hasks.accepts]
  refine forall₂_congr fun e he => ?_
  have hfield : e.1 ∉ Record.bookkeeping := by
    rcases hasks.fields e he with heq | heq <;> rw [heq] <;> decide
  rw [htwins.get?_eq hfield]

end Shadows

theorem readRecord_twins (h : Document.Twins reads id doc doc') :
    Lockstep R (fun r r' => Record.Twins reads id r r' ∧ r.Timely ∧ r'.Timely)
      (readRecord doc) (readRecord doc') := by
  have hread := h.ofDocument
  unfold readRecord
  generalize Record.ofDocument doc = x, Record.ofDocument doc' = y at hread
  cases hread with
  | ok htwins => exact .pure htwins
  | error => exact .throw _

theorem answer_twins (h : Document.Twins reads id doc doc') :
    Lockstep R (fun r r' => r.map Record.data = r'.map Record.data)
      (do return some (← readRecord doc)) (do return some (← readRecord doc')) :=
  (readRecord_twins h).map fun _ _ hr => congrArg some hr.1.data

theorem get_untagged_shadows (hreads : reads + readCost agent < 2 ^ 64)
    (hnow : 0 < readCost agent → now.InRange) (user space key : String) :
    LockstepTo (Shadows reads) (Shadows (reads + readCost agent))
      (fun r r' => r.map Record.data = r'.map Record.data)
      (get watched now user space key agent) (get watched now user space key none) := by
  intro s t h
  obtain ⟨s₁, hs, hsame⟩ := lookup_watched h.onlyWritesFail (docId user space key)
  obtain ⟨t₁, ht, hsame'⟩ := lookup_watched h.onlyWritesFail_right (docId user space key)
  have h₁ := h.unchanged hsame hsame'
  have hid := h.docs (docId user space key)
  have hid' : (docs (inMemory t₁)).get? (docId user space key) =
      (docs (inMemory t)).get? (docId user space key) := by rw [hsame'.docs]
  unfold get
  simp only [bind_apply, hs, ht]
  generalize (docs (inMemory s)).get? (docId user space key) = a,
    (docs (inMemory t)).get? (docId user space key) = b at hid hid'
  cases hid with
  | none => exact .ok rfl (h₁.mono (Nat.le_add_right ..))
  | some htwins =>
    rename_i a b
    cases agent with
    | none => exact answer_twins htwins s₁ t₁ h₁
    | some agent =>
      obtain ⟨counted, hcount, hcounted⟩ := htwins.countRead hreads agent (hnow Nat.one_pos)
      obtain ⟨r, s₂, hsave, hsaved⟩ :=
        attempt_save_watched h₁.onlyWritesFail now (docId user space key) counted
      have h₂ := (h₁.mono (Nat.le_succ reads)).tracked hsaved ⟨b, hid', hcounted⟩
      simp only [Option.map_some, trackRead, hcount, bind_apply, hsave]
      cases r with
      | ok receipt => exact answer_twins (hcounted.insert_rev receipt.rev) s₂ t₁ h₂
      | error e => exact answer_twins hcounted s₂ t₁ h₂

theorem saveRecord_shadows {r r' : Record} (h : Shadows reads s t)
    (hreaches : NextWriteReaches (fates s)) (htwins : Record.Twins reads id r r') (now : Instant) :
    Matching (Shadows reads) (fun r r' => r.data = r'.data) (saveRecord now id r s)
      (saveRecord now id r' t) := by
  obtain ⟨rev, s', hs, hsaved⟩ := saveRecord_reaches h.onlyWritesFail hreaches now id r
  obtain ⟨rev', t', ht, hsaved'⟩ :=
    saveRecord_reaches h.onlyWritesFail_right h.reaches_right now id r'
  rw [hs, ht]
  exact .ok ((htwins.withRev _).withRev_right _).data
    (h.saved hreaches hsaved hsaved' ⟨r, r', htwins, rfl, rfl⟩)

theorem set_shadows (now : Instant) (user space key : String) (value : Json)
    (agent : Option String) (metadata : Option Document) :
    LockstepTo (fun s t => Shadows reads s t ∧ SetReaches user space key s) (Shadows reads)
      (fun r r' => r.data = r'.data) (set watched now user space key value agent metadata)
      (set watched now user space key value agent metadata) := by
  rintro s t ⟨h, hreaches⟩
  obtain ⟨s₁, hsame, hs⟩ := set_watched h.onlyWritesFail now user space key value agent metadata
  obtain ⟨t₁, hsame', ht⟩ :=
    set_watched h.onlyWritesFail_right now user space key value agent metadata
  have h₁ := h.unchanged hsame hsame'
  have hid := h.docs (docId user space key)
  rw [SetReaches, ComesToWrite, ← hsame.fates_eq] at hreaches
  rw [hs, ht]
  generalize (docs (inMemory s)).get? (docId user space key) = a,
    (docs (inMemory t)).get? (docId user space key) = b at hid hreaches
  cases hid with
  | none =>
    exact saveRecord_shadows h₁ (hreaches fun _ hstored => by cases hstored) (.fresh ..) now
  | some htwins =>
    rename_i a b
    have hread := htwins.ofDocument
    dsimp only
    cases ha : Record.ofDocument a.doc <;> cases hb : Record.ofDocument b.doc <;>
      rw [ha, hb] at hread <;> cases hread
    · exact .error h₁
    · rename_i hrecords
      obtain ⟨hrecords, htimely, htimely'⟩ := hrecords
      have hcomes : NextWriteReaches (fates s₁) := hreaches fun stored hstored => by
        cases hstored
        rw [ha]
        rfl
      exact saveRecord_shadows h₁ hcomes
        (hrecords.updated htimely htimely' value agent metadata now) now

theorem delete_shadows (user space key : String) :
    Lockstep (Shadows reads) Eq (delete watched user space key)
      (delete watched user space key) := by
  intro s t h
  obtain ⟨s', hs, hdocs, hschedule⟩ := delete_watched h.onlyWritesFail user space key
  obtain ⟨t', ht, hdocs', hschedule'⟩ := delete_watched h.onlyWritesFail_right user space key
  have hid := h.docs (docId user space key)
  rw [hs, ht]
  refine .ok ?_ (h.removed hdocs hdocs' hschedule hschedule')
  generalize (docs (inMemory s)).get? (docId user space key) = a,
    (docs (inMemory t)).get? (docId user space key) = b at hid
  cases hid <;> rfl

theorem find_shadows {selector : Selector} {texts : List (String × String)}
    (hasks : AsksFor selector texts) {name : String} (hname : name ∉ Record.bookkeeping)
    {α : Type} {g : Document → α} (hproject : ∀ doc, g (doc.project [name]) = g doc)
    (hshow : ∀ doc doc' : Document, doc.text? name = doc'.text? name → g doc = g doc') :
    Lockstep (Shadows reads) (fun ds ds' => ds.map g = ds'.map g)
      (onStore (watched.find database selector (some [name]) findLimit))
      (onStore (watched.find database selector (some [name]) findLimit)) := by
  intro s t h
  obtain ⟨s', hs, hsame⟩ := find_watched h.onlyWritesFail hasks.valid (some [name]) findLimit
  obtain ⟨t', ht, hsame'⟩ :=
    find_watched h.onlyWritesFail_right hasks.valid (some [name]) findLimit
  have hcut : ∀ ds : List Document, (selector.select (some [name]) findLimit ds).map g =
      (selector.select none findLimit ds).map g := fun ds => by
    simp only [Selector.select, List.map_map]
    exact List.map_congr_left fun d _ => hproject d
  rw [hs, ht]
  refine .ok ?_ (h.unchanged hsame hsame')
  rw [hcut, hcut]
  refine map_eq_of_forall₂ (h.found hasks) fun d d' hd => hshow d d' ?_
  obtain ⟨_, _, htwins⟩ := hd
  exact htwins.text?_eq hname

theorem listKeys_shadows (user space : String) (keyPrefix : Option String) :
    Lockstep (Shadows reads) Eq (listKeys watched user space keyPrefix)
      (listKeys watched user space keyPrefix) :=
  (find_shadows (asksFor_space user space) (by decide) keyOf_project fun _ _ hkey => by
    rw [keyOf, keyOf, hkey]).map fun _ _ hkeys => congrArg (sortedKeys keyPrefix) hkeys

theorem listSpaces_shadows (user : String) :
    Lockstep (Shadows reads) Eq (listSpaces watched user) (listSpaces watched user) :=
  (find_shadows (asksFor_user user) (by decide) (g := fun doc => (spaceOf doc, ()))
    (fun doc => by rw [spaceOf_project]) fun _ _ hspace => by
    rw [spaceOf, spaceOf, hspace]).map fun _ _ hspaces =>
      congrArg (fun l => (SortedMap.ofList l).keys) hspaces

theorem countReads_shown (hreads : reads + 1 < 2 ^ 64) (hnow : now.InRange) {ds : List Document}
    (hds : ∀ d ∈ ds, ∃ id, Shown reads t id d) (user space agent : String) :
    ∃ counted, countReads user space agent now ds = some counted ∧
      ∀ c ∈ counted, Shown (reads + 1) t c.1 c.2 := by
  induction ds with
  | nil => exact ⟨[], rfl, by simp⟩
  | cons d ds ih =>
    obtain ⟨counted, hrest, hshown⟩ := ih fun d hd => hds d (List.mem_cons_of_mem _ hd)
    obtain ⟨id, stored, hstored, htwins⟩ := hds d List.mem_cons_self
    obtain ⟨c, hc, hcounted⟩ := htwins.countRead hreads agent hnow
    have hid : d.text? Document.idField = some id := text?_eq_some_iff.2 htwins.get?_id
    refine ⟨(id, c) :: counted, by rw [countReads_cons, hc, hid, hrest]; rfl, ?_⟩
    exact List.forall_mem_cons.2 ⟨⟨stored, hstored, hcounted⟩, hshown⟩

theorem writeBack_shadows (h : Shadows reads s t) {counted : List (String × Document)}
    (hshown : ∀ c ∈ counted, Shown reads t c.1 c.2) (now : Instant) :
    ∃ s', writeBack watched now counted s = .ok () s' ∧ Shadows reads s' t := by
  induction counted generalizing s with
  | nil => exact ⟨s, rfl, h⟩
  | cons c rest ih =>
    obtain ⟨r, s₁, hsave, hsaved⟩ := attempt_save_watched h.onlyWritesFail now c.1 c.2
    obtain ⟨s', hrun, h'⟩ := ih (h.tracked hsaved (hshown c List.mem_cons_self))
      fun c hc => hshown c (List.mem_cons_of_mem _ hc)
    exact ⟨s', (writeBack_cons hsave rest).trans hrun, h'⟩

theorem getAll_untagged_shadows (hreads : reads + readCost agent < 2 ^ 64)
    (hnow : 0 < readCost agent → now.InRange) (user space : String) :
    LockstepTo (Shadows reads) (Shadows (reads + readCost agent)) Eq
      (getAll watched now user space agent) (getAll watched now user space none) := by
  intro s t h
  obtain ⟨s₁, hs, hsame⟩ :=
    find_watched h.onlyWritesFail (validate_spaceSelector user space) none findLimit
  obtain ⟨t₁, ht, hsame'⟩ :=
    find_watched h.onlyWritesFail_right (validate_spaceSelector user space) none findLimit
  have h₁ := h.unchanged hsame hsame'
  have hfound := h.found (asksFor_space user space)
  have hvalues := map_eq_of_forall₂ hfound
    (f := fun doc => (keyOf doc, doc.field Record.valueField)) fun d d' hd => by
      obtain ⟨_, _, htwins⟩ := hd
      rw [keyOf, keyOf, htwins.text?_eq (by decide), htwins.field_eq (by decide)]
  unfold getAll
  simp only [bind_apply, hs, ht]
  rw [← hvalues]
  cases agent with
  | none => exact .ok rfl (h₁.mono (Nat.le_add_right ..))
  | some agent =>
    have hds := ((List.forall₂_and_left ..).1 hfound).1
    have hshows : ∀ id d, Shown reads t id d → Shown reads t₁ id d := fun id d => by
      rw [Shown, Shown, hsame'.docs]
      exact fun hd => hd
    obtain ⟨counted, hcount, hshown⟩ :=
      countReads_shown hreads (hnow Nat.one_pos)
        (fun d hd => (hds d hd).imp fun id => hshows id d) user space agent
    obtain ⟨s₂, hback, h₂⟩ := writeBack_shadows (h₁.mono (Nat.le_succ reads)) hshown now
    simp only [hcount, bind_apply, hback]
    exact .ok rfl h₂

theorem getMany_untagged_shadows {keys : List String}
    (hreads : reads + keys.length * readCost agent < 2 ^ 64)
    (hnow : 0 < keys.length * readCost agent → now.InRange) (user space : String) :
    LockstepTo (Shadows reads) (Shadows (reads + keys.length * readCost agent)) Eq
      (getMany watched now user space keys agent) (getMany watched now user space keys none) := by
  unfold getMany
  refine LockstepTo.foldlM (fun hle _ _ h => h.mono hle) rfl fun k hk key hkey found found' hf => ?_
  subst hf
  have hpos : 0 < readCost agent → 0 < keys.length * readCost agent :=
    Nat.mul_pos (List.length_pos_of_mem hkey)
  refine (get_untagged_shadows (by omega) (fun h => hnow (hpos h)) user space key).bind
    (fun _ _ h => h) fun r r' hr => ?_
  cases r <;> cases r' <;> first | cases hr | skip
  · exact .pure rfl
  · rename_i r r'
    have hvalue : r.value = r'.value := by
      have hdata := congrArg Record.value (Option.some.inj hr)
      exact hdata
    exact .pure (by rw [hvalue])

theorem setMany_shadows (now : Instant) (user : String) (items : List BatchItem)
    (agent : Option String) :
    LockstepTo (fun s t => Shadows reads s t ∧ BatchReaches now user agent items s)
      (Shadows reads) Eq (setMany watched now user items agent)
      (setMany watched now user items agent) := by
  unfold setMany
  generalize 0 = count
  induction items generalizing count with
  | nil => exact fun _ _ h => .ok rfl h.1
  | cons item rest ih =>
    rintro s t ⟨h, hfirst, hrest⟩
    have hset := set_shadows now user item.space item.key item.value agent item.metadata s t
      ⟨h, hfirst⟩
    rw [List.foldlM_cons]
    simp only [bind_apply]
    cases hs : set watched now user item.space item.key item.value agent item.metadata s <;>
      cases ht : set watched now user item.space item.key item.value agent item.metadata t <;>
      rw [hs, ht] at hset <;> cases hset
    · rename_i h'
      rw [hs] at hrest
      exact ih _ _ _ ⟨h', hrest⟩
    · rename_i h'
      exact .error h'

theorem clear_shadows (user space : String) :
    Lockstep (Shadows reads) Eq (clear watched user space) (clear watched user space) := by
  unfold clear
  refine (listKeys_shadows user space none).bind fun keys keys' hkeys => ?_
  subst hkeys
  refine .foldlM rfl fun key _ count count' hcount => ?_
  subst hcount
  exact (delete_shadows user space key).map fun found found' hfound => by rw [hfound]

theorem perform_untagged {r : Request} (h : Shadows reads s t)
    (hreads : reads + r.operation.taggedReads < 2 ^ 64)
    (hnow : 0 < r.operation.taggedReads → r.now.InRange) (hsets : r.SetsReach s) :
    Matching (Shadows (reads + r.operation.taggedReads)) (fun a b => a.data = b.data)
      (perform watched r s) (perform watched r.untagged t) := by
  let sameData := fun a b : Answer => a.data = b.data
  obtain ⟨user, now, operation⟩ := r
  unfold perform
  cases operation with
  | get space key agent =>
    exact (get_untagged_shadows hreads hnow user space key).map (f := Answer.record)
      (g := Answer.record) (P := sameData) (fun _ _ hr => congrArg Answer.record hr) s t h
  | set space key value agent metadata =>
    exact (set_shadows now user space key value agent metadata).map (f := Answer.written)
      (g := Answer.written) (P := sameData) (fun _ _ hr => congrArg Answer.written hr) s t
      ⟨h, hsets⟩
  | delete space key =>
    exact (delete_shadows user space key).map (fun _ _ hr => by rw [hr]) s t h
  | listKeys space keyPrefix =>
    exact (listKeys_shadows user space keyPrefix).map (fun _ _ hr => by rw [hr]) s t h
  | listSpaces => exact (listSpaces_shadows user).map (fun _ _ hr => by rw [hr]) s t h
  | getAll space agent =>
    exact (getAll_untagged_shadows hreads hnow user space).map (fun _ _ hr => by rw [hr]) s t h
  | getMany space keys agent =>
    exact (getMany_untagged_shadows hreads hnow user space).map (fun _ _ hr => by rw [hr]) s t h
  | setMany items agent =>
    exact (setMany_shadows now user items agent).map (fun _ _ hr => by rw [hr]) s t ⟨h, hsets⟩
  | clear space => exact (clear_shadows user space).map (fun _ _ hr => by rw [hr]) s t h

/-- A request answers the same data, and leads to twin documents again. -/
theorem outcome_untagged {r : Request} (h : Shadows reads s t)
    (hreads : reads + r.operation.taggedReads < 2 ^ 64)
    (hnow : 0 < r.operation.taggedReads → r.now.InRange) (hsets : r.SetsReach s) :
    (outcome watched r s).1.map Answer.data =
        (outcome watched r.untagged t).1.map Answer.data ∧
      Shadows (reads + r.operation.taggedReads) (outcome watched r s).2
        (outcome watched r.untagged t).2 := by
  have hstep := perform_untagged h hreads hnow hsets
  unfold outcome
  generalize perform watched r s = x, perform watched r.untagged t = y at hstep
  cases hstep with
  | ok hdata h' => exact ⟨congrArg Except.ok hdata, h'⟩
  | error h' => exact ⟨rfl, h'⟩

theorem transcript_shadows {requests : List Request} (h : Shadows reads s t)
    (hreads : reads + taggedReads requests < 2 ^ 64)
    (hnow : ∀ r ∈ requests, 0 < r.operation.taggedReads → r.now.InRange)
    (hsets : SetsReach requests s) :
    (transcript watched requests s).map (fun e => e.2.map Answer.data) =
      (transcript watched (requests.map Request.untagged) t).map
        fun e => e.2.map Answer.data := by
  induction requests generalizing reads s t with
  | nil => rfl
  | cons r rest ih =>
    have htotal : reads + taggedReads (r :: rest) =
        reads + r.operation.taggedReads + taggedReads rest := by
      rw [taggedReads, taggedReads, List.map_cons, List.sum_cons, Nat.add_assoc]
    rw [htotal] at hreads
    obtain ⟨hanswer, h'⟩ := outcome_untagged h (by omega) (hnow r List.mem_cons_self) hsets.1
    have hrest := ih h' hreads (fun q hq => hnow q (List.mem_cons_of_mem r hq)) hsets.2
    rw [List.map_cons, transcript, transcript, List.map_cons, List.map_cons, hanswer, hrest]

/-- Whatever agents read, and whichever of the writes that track their reads fail, the answers show
the data that they would show had every read been on behalf of no agent. The writes of sets are
assumed not to fail, and the clock to show a year of four digits when an agent reads: a later time
would be written in a form that cannot be read back (`Record.ofDocument_counted_of_not_inRange`). -/
theorem transcript_untagged (faults : List (Option StoreError)) (requests : List Request)
    (hreads : taggedReads requests < 2 ^ 64 - 1)
    (hnow : ∀ r ∈ requests, 0 < r.operation.taggedReads → r.now.InRange)
    (hsets : SetsReach requests (beginning faults)) :
    (transcript watched requests (beginning faults)).map (fun e => e.2.map Answer.data) =
      (transcript watched (requests.map Request.untagged) (beginning [])).map
        fun e => e.2.map Answer.data :=
  transcript_shadows (.beginning faults) (by omega) hnow hsets

def readBetweenSets : List Request :=
  [⟨"u", Instant.epoch, .set "n" "k" (.str "v") (some "a") none⟩,
    ⟨"u", Instant.epoch, .get "n" "k" (some "b")⟩,
    ⟨"u", Instant.epoch, .getAll "n" (some "c")⟩,
    ⟨"u", Instant.epoch, .set "n" "k" (.str "w") none none⟩,
    ⟨"u", Instant.epoch, .getMany "n" ["k"] (some "b")⟩,
    ⟨"u", Instant.epoch, .get "n" "k" none⟩]

def someReadsUntracked : List (Option StoreError) :=
  [none, some (.transport ""), none, none, some (.transport "")]

theorem transcript_untagged_readBetweenSets :
    taggedReads readBetweenSets = 3 ∧ SetsReach readBetweenSets (beginning someReadsUntracked) ∧
      (transcript watched readBetweenSets (beginning someReadsUntracked)).map
          (fun e => e.2.map Answer.data) =
        (transcript watched (readBetweenSets.map Request.untagged) (beginning [])).map
          fun e => e.2.map Answer.data := by
  have hsets : SetsReach readBetweenSets (beginning someReadsUntracked) := by decide +kernel
  exact ⟨by decide, hsets,
    transcript_untagged someReadsUntracked readBetweenSets (by decide) (by decide) hsets⟩

def lateInstant : Instant := (Instant.of? 10000 1 1 0 0 0 0).get (by decide)

def lateRead : List Request :=
  [⟨"u", Instant.epoch, .set "n" "k" (.str "v") none none⟩,
    ⟨"u", lateInstant, .get "n" "k" (some "a")⟩]

/-- The read fails by its own tracking: the time of the access has no text that is read again. -/
theorem transcripts_differ_of_lateRead :
    taggedReads lateRead < 2 ^ 64 - 1 ∧ SetsReach lateRead (beginning []) ∧
      (transcript watched lateRead (beginning [])).map (fun e => e.2.map Answer.data) ≠
        (transcript watched (lateRead.map Request.untagged) (beginning [])).map
          fun e => e.2.map Answer.data := by
  refine ⟨by decide, by decide +kernel, fun h => ?_⟩
  have hoks := congrArg (List.map Except.isOk) h
  revert hoks
  decide +kernel

end Keyspace.Service
