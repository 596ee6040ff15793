import Keyspace.Proofs.Service.Listing
import Keyspace.Proofs.Service.Lockstep

set_option autoImplicit false

namespace Keyspace.Service

def Carries (user : String) (values : String → String → Option Json) (reads : Nat) (id : String)
    (doc : Document) : Prop :=
  ∃ space key r, space ≠ "" ∧ Record.Filed user space key id doc ∧ Record.Reads doc r ∧
    r.Timely ∧ r.accessCount.toNat ≤ reads ∧ values space key = some r.value

/-- The documents in memory carry the values of a map. -/
structure Matches (user : String) (values : String → String → Option Json) (reads : Nat)
    (s : State Memory) : Prop where
  sound : ∀ id stored, (docs s).get? id = some stored → Carries user values reads id stored.doc
  complete : ∀ space key v, values space key = some v →
    ∃ stored, (docs s).get? (docId user space key) = some stored

def updateAt (values : String → String → Option Json) (space key : String) (v : Option Json)
    (space' key' : String) : Option Json :=
  if space' = space ∧ key' = key then v else values space' key'

def updateAll (values : String → String → Option Json) (items : List BatchItem) :
    String → String → Option Json :=
  items.foldl (fun values item => updateAt values item.space item.key (some item.value)) values

def clearKeys (values : String → String → Option Json) (space : String) (keys : List String)
    (space' key : String) : Option Json :=
  if space' = space ∧ key ∈ keys then none else values space' key

variable {user space key id : String} {values values' : String → String → Option Json}
  {reads reads' : Nat} {doc : Document} {ds : List Document} {s s' : State Memory} {now : Instant}

theorem Carries.mono (h : Carries user values reads id doc) (hreads : reads ≤ reads')
    (hvalues : ∀ space key, docId user space key = id → values' space key = values space key) :
    Carries user values' reads' id doc := by
  obtain ⟨space, key, r, hspace, hfiled, hr, ht, hcount, hvalue⟩ := h
  refine ⟨space, key, r, hspace, hfiled, hr, ht, by omega, ?_⟩
  rw [hvalues space key hfiled.id_eq.symm, hvalue]

theorem Carries.insert_rev (h : Carries user values reads id doc) (rev : String) :
    Carries user values reads id (SortedMap.insert doc Document.revField (.str rev)) := by
  obtain ⟨space, key, r, hspace, hfiled, hr, ht, hcount, hvalue⟩ := h
  exact ⟨space, key, _, hspace, hfiled.insert_rev _, hr.insert_rev rev, ht, hcount, hvalue⟩

theorem Carries.written (h : Carries user values reads id doc) (m : Memory) (now : Instant) :
    Carries user values reads id (m.written now database id doc).doc := by
  obtain ⟨space, key, r, hspace, hfiled, hrest⟩ := h
  rw [Memory.written, hfiled.stamped_eq]
  exact Carries.insert_rev ⟨space, key, r, hspace, hfiled, hrest⟩ _

theorem Carries.counted (h : Carries user values reads id doc) (hreads : reads + 1 < 2 ^ 64)
    (agent : String) (hnow : now.InRange) :
    ∃ doc', Record.countRead doc agent now = some doc' ∧
      Carries user values (reads + 1) id doc' := by
  obtain ⟨space, key, r, hspace, hfiled, hr, ht, hcount, hvalue⟩ := h
  obtain ⟨doc', hdoc'⟩ : ∃ doc', Record.countRead doc agent now = some doc' :=
    Record.countRead_eq_some_iff.2 (by rw [Record.readsOf_of_reads hr]; omega)
  refine ⟨doc', hdoc', space, key, _, hspace, hfiled.counted hdoc', hr.counted hdoc' hnow, ?_, ?_,
    hvalue⟩
  · rintro t (hc | hu | ha)
    · exact ht t (.inl hc)
    · exact ht t (.inr (.inl hu))
    · cases ha
      exact hnow
  · simp only [Record.counted, UInt64.toNat_add, UInt64.reduceToNat]
    omega

namespace Matches

theorem congr_docs (h : Matches user values reads s) (hdocs : docs s' = docs s) :
    Matches user values reads s' :=
  ⟨hdocs ▸ h.sound, hdocs ▸ h.complete⟩

theorem mono (h : Matches user values reads s) (hreads : reads ≤ reads') :
    Matches user values reads' s :=
  ⟨fun id stored hstored => (h.sound id stored hstored).mono hreads fun _ _ _ => rfl, h.complete⟩

theorem write (h : Matches user values reads s) (hreads : reads ≤ reads')
    (hdoc : Carries user values' reads' id doc)
    (hvalues : ∀ space key, docId user space key ≠ id → values' space key = values space key)
    (now : Instant) : Matches user values' reads' (written s now id doc) := by
  constructor
  · intro other stored hstored
    rw [docs_written, SortedMap.get?_insert] at hstored
    split at hstored
    · rename_i heq
      cases hstored
      exact heq ▸ hdoc.written s.store now
    · rename_i hne
      exact (h.sound other stored hstored).mono hreads
        fun space key hid => hvalues space key (hid ▸ hne)
  · intro space key v hv
    rw [docs_written, SortedMap.get?_insert]
    split
    · exact ⟨_, rfl⟩
    · rename_i hne
      exact h.complete space key v (hvalues space key hne ▸ hv)

theorem absent (h : Matches user values reads s)
    (hdoc : (docs s).get? (docId user space key) = none) : values space key = none := by
  cases hv : values space key with
  | none => rfl
  | some v =>
    obtain ⟨stored, hstored⟩ := h.complete space key v hv
    rw [hdoc] at hstored
    cases hstored

theorem present (h : Matches user values reads s) {stored : StoredDocument}
    (hdoc : (docs s).get? (docId user space key) = some stored) :
    ∃ r, space ≠ "" ∧ Record.Filed user space key (docId user space key) stored.doc ∧
      Record.Reads stored.doc r ∧ r.Timely ∧ r.accessCount.toNat ≤ reads ∧
      values space key = some r.value := by
  obtain ⟨space', key', r, hspace, hfiled, hrest⟩ := h.sound _ stored hdoc
  obtain ⟨rfl, rfl⟩ := docId_inj_of_user.1 hfiled.id_eq
  exact ⟨r, hspace, hfiled, hrest⟩

theorem get (h : Matches user values reads s) (hreads : reads + 1 < 2 ^ 64) (hnow : now.InRange)
    (space key agent : String) :
    ∃ r s', Service.get Engine.memory now user space key (some agent) s = .ok r s' ∧
      r.map (·.value) = values space key ∧ Matches user values (reads + 1) s' := by
  cases hdoc : (docs s).get? (docId user space key) with
  | none =>
    exact ⟨none, s, get_absent hdoc (some agent), (h.absent hdoc).symm, h.mono (by omega)⟩
  | some stored =>
    obtain ⟨doc', hcount, hcarries⟩ := (h.sound _ stored hdoc).counted hreads agent hnow
    have hrun := get_tagged hdoc hcount
    have hstate := h.write (by omega) hcarries (fun _ _ _ => rfl) now
    obtain ⟨space', key', r, hspace, hfiled, hr, ht, hle, hvalue⟩ :=
      hcarries.insert_rev (nextToken s (docId user space key))
    obtain ⟨rfl, rfl⟩ := docId_inj_of_user.1 hfiled.id_eq
    refine ⟨some r, _, ?_, hvalue.symm, hstate⟩
    rw [hrun]
    simp only [bind_apply, readRecord_ok hr]
    rfl

theorem set (h : Matches user values reads s) (hspace : space ≠ "") (hnow : now.InRange)
    (key : String) (value : Json) (agent : Option String) (metadata : Option Document) :
    ∃ r s', Service.set Engine.memory now user space key value agent metadata s = .ok r s' ∧
      Matches user (updateAt values space key (some value)) reads s' := by
  have hother : ∀ space' key', docId user space' key' ≠ docId user space key →
      updateAt values space key (some value) space' key' = values space' key' := by
    intro space' key' hne
    refine if_neg ?_
    rintro ⟨rfl, rfl⟩
    exact hne rfl
  have hhere : updateAt values space key (some value) space key = some value := if_pos ⟨rfl, rfl⟩
  cases hdoc : (docs s).get? (docId user space key) with
  | none =>
    obtain ⟨s', hrun, hdocs⟩ := set_absent hdoc now value agent metadata
    refine ⟨_, s', hrun, (h.write (Nat.le_refl _) ?_ hother now).congr_docs hdocs⟩
    have htimely := Record.timely_fresh user space key value (metadata.getD SortedMap.empty) agent
      hnow
    exact ⟨space, key, _, hspace, Record.filed_fresh .., Record.reads_toDocument (fun _ _ => rfl)
      htimely, htimely, Nat.zero_le _, hhere⟩
  | some stored =>
    obtain ⟨r, _, hfiled, hr, ht, hcount, hvalue⟩ := h.present hdoc
    obtain ⟨s', hrun, hdocs⟩ := set_present hdoc hr now value agent metadata
    refine ⟨_, s', hrun, (h.write (Nat.le_refl _) ?_ hother now).congr_docs hdocs⟩
    have htimely := Record.timely_updated ht (docId user space key) value agent metadata hnow
    exact ⟨space, key, _, hspace, hfiled.updated hr value agent metadata now,
      Record.reads_toDocument (Record.extraUnknown_updated hr _ value agent metadata now) htimely,
      htimely, hcount, hhere⟩

theorem delete (h : Matches user values reads s) (space key : String) :
    ∃ s', Service.delete Engine.memory user space key s = .ok (values space key).isSome s' ∧
      Matches user (updateAt values space key none) reads s' := by
  cases hdoc : (docs s).get? (docId user space key) with
  | none =>
    have hnone := h.absent hdoc
    have hsame : updateAt values space key none = values := by
      funext space' key'
      unfold updateAt
      split
      · rename_i heq
        rw [heq.1, heq.2, hnone]
      · rfl
    rw [hnone, hsame]
    exact ⟨s, delete_absent hdoc, h⟩
  | some stored =>
    obtain ⟨r, _, _, _, _, _, hvalue⟩ := h.present hdoc
    rw [hvalue]
    refine ⟨_, delete_present hdoc, fun other stored hstored => ?_, fun space' key' v hv => ?_⟩
    · rw [docs_removed, SortedMap.get?_erase] at hstored
      split at hstored
      · cases hstored
      · rename_i hne
        refine (h.sound other stored hstored).mono (Nat.le_refl _) fun space' key' hid => if_neg ?_
        rintro ⟨rfl, rfl⟩
        exact hne hid.symm
    · unfold updateAt at hv
      split at hv
      · cases hv
      · rename_i hne
        rw [docs_removed, SortedMap.get?_erase, if_neg fun hid => hne (docId_inj_of_user.1 hid)]
        exact h.complete space' key' v hv

theorem carries_of_mem_found (h : Matches user values reads s) {space : String} {doc : Document}
    (hdoc : doc ∈ found s user space) :
    ∃ r stored, (docs s).get? (docId user space (keyOf doc)) = some stored ∧ stored.doc = doc ∧
      Record.Reads doc r ∧ values space (keyOf doc) = some r.value := by
  obtain ⟨id, stored, hstored, rfl, huser, hshown⟩ := mem_found.1 hdoc
  obtain ⟨space', key, r, hspace, hfiled, hr, ht, hcount, hvalue⟩ := h.sound id stored hstored
  have hsame : space' = space := by
    have hboth := (hfiled.space_of_ne hspace).symm.trans hshown
    simpa using hboth
  subst hsame
  rw [hfiled.keyOf_eq]
  exact ⟨r, stored, hfiled.id_eq ▸ hstored, rfl, hr, hvalue⟩

theorem placed (h : Matches user values reads s) (space : String) : Placed s user space := by
  intro id stored hstored huser hshown
  obtain ⟨space', key, r, hspace, hfiled, _⟩ := h.sound id stored hstored
  have hsame : space' = space := by
    have hboth := (hfiled.space_of_ne hspace).symm.trans hshown
    simpa using hboth
  rw [hfiled.keyOf_eq, ← hsame]
  exact hfiled.id_eq

theorem exists_mem_found (h : Matches user values reads s) {space key : String} {v : Json}
    (hv : values space key = some v) :
    ∃ doc ∈ found s user space, keyOf doc = key ∧ doc.field Record.valueField = v := by
  obtain ⟨stored, hstored⟩ := h.complete space key v hv
  obtain ⟨r, hspace, hfiled, hr, _, _, hvalue⟩ := h.present hstored
  rw [hv] at hvalue
  refine ⟨stored.doc, ?_, hfiled.keyOf_eq, hr.value.trans (Option.some.inj hvalue).symm⟩
  exact mem_found.2 ⟨_, stored, hstored, rfl, hfiled.user, hfiled.space_of_ne hspace⟩

theorem values_found (h : Matches user values reads s) {space : String} {m : SortedMap Json}
    (hm : ∀ key, m.get? key = values space key) :
    SortedMap.ofList ((found s user space).map fun doc =>
      (keyOf doc, doc.field Record.valueField)) = m := by
  refine SortedMap.ext_get? fun key => Option.ext fun v => ?_
  rw [(h.placed space).get?_values, hm]
  constructor
  · rintro ⟨doc, hdoc, rfl, rfl⟩
    obtain ⟨r, stored, _, rfl, hr, hvalue⟩ := h.carries_of_mem_found hdoc
    rw [hvalue, hr.value]
  · exact h.exists_mem_found

theorem listKeys (h : Matches user values reads s) (hlimit : (docs s).size ≤ findLimit)
    {space : String} {m : SortedMap Json} (hm : ∀ key, m.get? key = values space key)
    (keyPrefix : Option String) :
    Service.listKeys Engine.memory user space keyPrefix s =
      .ok (m.keys.filter fun key => (keyPrefix.getD "").toList.isPrefixOf key.toList) s := by
  have hfound : (found s user space).length ≤ findLimit :=
    Nat.le_trans (length_found_le s user space) hlimit
  rw [listKeys_memory hfound, sortedKeys_eq (h.placed space).nodup_keys fun key => ?_]
  rw [SortedMap.mem_keys_iff, hm, List.mem_map]
  constructor
  · rintro ⟨doc, hdoc, rfl⟩
    obtain ⟨r, _, _, _, _, hvalue⟩ := h.carries_of_mem_found hdoc
    exact ⟨r.value, hvalue⟩
  · rintro ⟨v, hv⟩
    obtain ⟨doc, hdoc, hkey, _⟩ := h.exists_mem_found hv
    exact ⟨doc, hdoc, hkey⟩

theorem listSpaces (h : Matches user values reads s) (hlimit : (docs s).size ≤ findLimit)
    {m : SortedMap Unit}
    (hm : ∀ space, (∃ u, m.get? space = some u) ↔ ∃ key v, values space key = some v) :
    Service.listSpaces Engine.memory user s = .ok m.keys s := by
  have hfound : (foundAll s user).length ≤ findLimit :=
    Nat.le_trans (length_foundAll_le s user) hlimit
  rw [listSpaces_memory hfound]
  congr 2
  refine SortedMap.ext_get? fun space => Option.ext fun u => ?_
  have hexists : ∀ {x : Option Unit}, x = some u ↔ ∃ w, x = some w := fun {x} =>
    ⟨fun hx => ⟨u, hx⟩, fun ⟨w, hw⟩ => hw⟩
  rw [hexists, hexists, SortedMap.exists_get?_ofList_iff, hm, List.map_map, List.mem_map]
  constructor
  · rintro ⟨doc, hdoc, rfl⟩
    obtain ⟨id, stored, hstored, rfl, _⟩ := mem_foundAll.1 hdoc
    obtain ⟨space, key, r, hspace, hfiled, _, _, _, hvalue⟩ := h.sound id stored hstored
    refine ⟨key, r.value, ?_⟩
    rw [Function.comp_apply, hfiled.spaceOf_eq, Record.named_of_ne hspace, hvalue]
  · rintro ⟨key, v, hv⟩
    obtain ⟨stored, hstored⟩ := h.complete space key v hv
    obtain ⟨r, hspace, hfiled, _⟩ := h.present hstored
    refine ⟨stored.doc, mem_foundAll.2 ⟨_, stored, hstored, rfl, hfiled.user⟩, ?_⟩
    rw [Function.comp_apply, hfiled.spaceOf_eq, Record.named_of_ne hspace]

theorem countReads (h : ∀ doc ∈ ds, ∃ id, Carries user values reads id doc)
    (hreads : reads + 1 < 2 ^ 64) (hnow : now.InRange) (space agent : String) :
    ∃ cs, Service.countReads user space agent now ds = some cs ∧
      ∀ c ∈ cs, Carries user values (reads + 1) c.1 c.2 := by
  induction ds with
  | nil => exact ⟨[], rfl, fun _ hc => by cases hc⟩
  | cons doc ds ih =>
    obtain ⟨cs, hcs, hcarries⟩ := ih fun d hd => h d (List.mem_cons_of_mem doc hd)
    obtain ⟨id, hdoc⟩ := h doc List.mem_cons_self
    obtain ⟨doc', hcount, hdoc'⟩ := hdoc.counted hreads agent hnow
    have hid : doc.text? Document.idField = some id := by
      obtain ⟨space', key, r, hspace, hfiled, _⟩ := hdoc
      simp [Document.text?, hfiled.id, Json.text?]
    refine ⟨(id, doc') :: cs, by simp [countReads_cons, hcount, hcs, hid], fun c hc => ?_⟩
    rcases List.mem_cons.1 hc with rfl | hc
    · exact hdoc'
    · exact hcarries c hc

theorem writeBack (h : Matches user values reads s) {cs : List (String × Document)}
    (hcs : ∀ c ∈ cs, Carries user values reads c.1 c.2) (now : Instant) :
    ∃ s', Service.writeBack Engine.memory now cs s = .ok () s' ∧ Matches user values reads s' := by
  induction cs generalizing s with
  | nil => exact ⟨s, rfl, h⟩
  | cons c cs ih =>
    have hfirst := h.write (Nat.le_refl _) (hcs c List.mem_cons_self) (fun _ _ _ => rfl) now
    obtain ⟨s', hrun, hs'⟩ := ih hfirst fun d hd => hcs d (List.mem_cons_of_mem c hd)
    exact ⟨s', hrun, hs'⟩

theorem getAll (h : Matches user values reads s) (hlimit : (docs s).size ≤ findLimit)
    (hreads : reads + 1 < 2 ^ 64) (hnow : now.InRange) {space : String} {m : SortedMap Json}
    (hm : ∀ key, m.get? key = values space key) (agent : String) :
    ∃ s', Service.getAll Engine.memory now user space (some agent) s = .ok m s' ∧
      Matches user values (reads + 1) s' := by
  have hfound : (found s user space).length ≤ findLimit :=
    Nat.le_trans (length_found_le s user space) hlimit
  have hcarries : ∀ doc ∈ found s user space, ∃ id, Carries user values reads id doc := by
    intro doc hdoc
    obtain ⟨id, stored, hstored, rfl, _⟩ := mem_found.1 hdoc
    exact ⟨id, h.sound id stored hstored⟩
  obtain ⟨cs, hcs, hcounted⟩ := countReads hcarries hreads hnow space agent
  obtain ⟨s', hrun, hs'⟩ := (h.mono (Nat.le_succ reads)).writeBack hcounted now
  refine ⟨s', ?_, hs'⟩
  simp only [Service.getAll, bind_apply, findWhole_memory hfound, hcs, hrun,
    h.values_found hm]
  rfl

theorem getMany (h : Matches user values reads s) {keys : List String}
    (hreads : reads + keys.length < 2 ^ 64) (hnow : now.InRange) {space : String}
    {m : SortedMap Json} (hm : ∀ key, m.get? key = values space key) (agent : String) :
    ∃ s', Service.getMany Engine.memory now user space keys (some agent) s =
        .ok (m.filter fun key _ => keys.contains key) s' ∧
      Matches user values (reads + keys.length) s' := by
  suffices hloop : ∃ found s', Service.getMany Engine.memory now user space keys (some agent) s =
      .ok found s' ∧ found = m.filter (fun key _ => keys.contains key) ∧
        Matches user values (reads + keys.length) s' by
    obtain ⟨found, s', hrun, rfl, hs'⟩ := hloop
    exact ⟨s', hrun, hs'⟩
  unfold Service.getMany
  refine foldlM_run (fun done found s => found = m.filter (fun key _ => done.contains key) ∧
    Matches user values (reads + done.length) s) (fun done key rest found s hkeys hs => ?_) ⟨?_, h⟩
  · obtain ⟨rfl, hs⟩ := hs
    have hroom : reads + done.length + 1 < 2 ^ 64 := by
      have hlength := congrArg List.length hkeys
      simp only [List.length_append, List.length_cons] at hlength
      omega
    obtain ⟨r, s₁, hget, hvalue, hs₁⟩ := hs.get hroom hnow space key agent
    have hcount : reads + (done ++ [key]).length = reads + done.length + 1 := by simp; omega
    simp only [bind_apply, hget, hcount]
    rw [← hm] at hvalue
    cases r with
    | none => exact ⟨_, s₁, rfl, SortedMap.filter_contains_append hvalue.symm, hs₁⟩
    | some r => exact ⟨_, s₁, rfl, SortedMap.insert_filter_contains hvalue.symm, hs₁⟩
  · refine SortedMap.ext_get? fun key => ?_
    rw [SortedMap.get?_filter]
    cases m.get? key <;> rfl

theorem setMany (h : Matches user values reads s) (hnow : now.InRange) {items : List BatchItem}
    (hitems : ∀ item ∈ items, item.space ≠ "") (agent : Option String) :
    ∃ s', Service.setMany Engine.memory now user items agent s = .ok items.length s' ∧
      Matches user (updateAll values items) reads s' := by
  suffices hloop : ∃ count s', Service.setMany Engine.memory now user items agent s =
      .ok count s' ∧ count = items.length ∧ Matches user (updateAll values items) reads s' by
    obtain ⟨count, s', hrun, rfl, hs'⟩ := hloop
    exact ⟨s', hrun, hs'⟩
  unfold Service.setMany
  refine foldlM_run (fun done count s => count = done.length ∧
    Matches user (updateAll values done) reads s) (fun done item rest count s hdone hs => ?_)
    ⟨rfl, h⟩
  obtain ⟨rfl, hs⟩ := hs
  have hspace : item.space ≠ "" := hitems item (by rw [hdone]; simp)
  obtain ⟨r, s₁, hset, hs₁⟩ := hs.set hspace hnow item.key item.value agent item.metadata
  refine ⟨_, s₁, by simp only [bind_apply, hset]; rfl, by simp, ?_⟩
  rwa [updateAll, List.foldl_append]

theorem clear (h : Matches user values reads s) (hlimit : (docs s).size ≤ findLimit)
    {space : String} {m : SortedMap Json} (hm : ∀ key, m.get? key = values space key) :
    ∃ s', Service.clear Engine.memory user space s = .ok m.size s' ∧
      Matches user (clearKeys values space m.keys) reads s' := by
  have hkeys : (m.keys.filter fun key => (none.getD "").toList.isPrefixOf key.toList) = m.keys :=
    List.filter_eq_self.2 fun key _ => rfl
  have hlist := h.listKeys hlimit hm none
  rw [hkeys] at hlist
  have hsize : m.size = m.keys.length := by simp [SortedMap.keys, SortedMap.size]
  suffices hloop : ∃ count s', Service.clear Engine.memory user space s =
      .ok count s' ∧ count = m.keys.length ∧
        Matches user (clearKeys values space m.keys) reads s' by
    obtain ⟨count, s', hrun, rfl, hs'⟩ := hloop
    exact ⟨s', hsize ▸ hrun, hs'⟩
  simp only [Service.clear, bind_apply, hlist]
  refine foldlM_run (fun done count s => count = done.length ∧
    Matches user (clearKeys values space done) reads s) (fun done key rest count s hdone hs => ?_)
    ⟨rfl, ?_⟩
  · obtain ⟨rfl, hs⟩ := hs
    have hnew : key ∉ done := by
      have hnodup := m.keys_nodup
      rw [hdone] at hnodup
      exact fun hmem => (List.nodup_append.1 hnodup).2.2 key hmem key List.mem_cons_self rfl
    obtain ⟨v, hv⟩ := SortedMap.mem_keys_iff.1 (show key ∈ m.keys by rw [hdone]; simp)
    obtain ⟨s₁, hdelete, hs₁⟩ := hs.delete space key
    have hfound : (clearKeys values space done space key).isSome = true := by
      simp [clearKeys, hnew, ← hm, hv]
    have hnext : updateAt (clearKeys values space done) space key none =
        clearKeys values space (done ++ [key]) := by
      funext space' key'
      unfold updateAt clearKeys
      by_cases hs : space' = space <;> by_cases hk : key' = key <;> simp [hs, hk]
    rw [hfound] at hdelete
    refine ⟨_, s₁, by simp only [bind_apply, hdelete]; rfl, by simp, hnext ▸ hs₁⟩
  · have hempty : clearKeys values space [] = values := by
      funext space' key'
      simp [clearKeys]
    rwa [hempty]

end Matches

end Keyspace.Service
