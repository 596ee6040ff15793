import Keyspace.Proofs.Service.Listing
import Keyspace.Proofs.Service.View
import Mathlib.Data.List.Nodup

set_option autoImplicit false

namespace Keyspace.Service

def answerOf (user : String) (s : State Memory) (operation : Operation) : Except Failure Answer :=
  (outcome Engine.memory ⟨user, Instant.epoch, operation⟩ s).1

def Finds (user space : String) (s : State Memory) (key : String) (v : Json) : Prop :=
  ∃ r, answerOf user s (.get space key none) = .ok (.record (some r)) ∧ r.value = v

/-- The listings of a namespace are in order, and have the keys and values that look-ups find. -/
def ListingsAgree (user space : String) (s : State Memory) : Prop :=
  ∃ keys values,
    answerOf user s (.listKeys space none) = .ok (.keys keys) ∧
    answerOf user s (.getAll space none) = .ok (.values values) ∧
    keys.Pairwise (· < ·) ∧
    (∀ key, key ∈ keys ↔ ∃ v, Finds user space s key v) ∧
    ∀ key v, values.get? key = some v ↔ Finds user space s key v

/-- The documents that show a namespace are those under the ids of its keys that can be read. -/
def ShownAsKept (user space : String) (s : State Memory) : Prop :=
  ∀ id stored, (docs s).get? id = some stored →
    (stored.doc.get? Record.spaceField = some (.str space) ↔
      (∃ key, id = docId user space key) ∧ ∃ r, Record.Reads stored.doc r)

/-- Every record of the empty namespace still shows it. -/
def NoneRenamed (user : String) (s : State Memory) : Prop :=
  ∀ key stored, (docs s).get? (docId user "" key) = some stored →
    stored.doc.get? Record.spaceField = some (.str "")

variable {user space : String} {s : State Memory} {ready : Prop}

theorem finds_iff {key : String} {v : Json} :
    Finds user space s key v ↔
      ∃ stored r, (docs s).get? (docId user space key) = some stored ∧
        Record.Reads stored.doc r ∧ r.value = v := by
  unfold Finds answerOf outcome perform
  cases hdoc : (docs s).get? (docId user space key) with
  | none => simp [get_absent hdoc none]
  | some stored =>
    simp only [bind_apply, get_untagged hdoc, Option.some.injEq]
    cases hread : Record.ofDocument stored.doc with
    | ok r =>
      have hr := Record.ofDocument_eq_ok_iff.1 hread
      simp only [readRecord_ok hr, pure_apply]
      constructor
      · rintro ⟨r', h, hv⟩
        cases h
        exact ⟨stored, r, rfl, hr, hv⟩
      · rintro ⟨_, r', rfl, hr', hv⟩
        exact ⟨r, rfl, hr.unique hr' ▸ hv⟩
    | error e =>
      have hnot : ∀ r, ¬ Record.Reads stored.doc r := fun r hr => by
        rw [Record.ofDocument_eq_ok_iff.2 hr] at hread
        cases hread
      obtain ⟨e, he⟩ := readRecord_error hnot s
      simp only [he]
      constructor
      · rintro ⟨r, h, _⟩
        cases h
      · rintro ⟨_, r, rfl, hr, _⟩
        exact absurd hr (hnot r)

theorem kept_after {requests : List Request} (huser : ∀ r ∈ requests, r.user = user)
    (hnow : ready → ∀ r ∈ requests, r.now.InRange) {id : String} {stored : StoredDocument}
    (hstored : (docs (after Engine.memory requests (start Memory.empty))).get? id = some stored) :
    Kept (placesOf user) ready id stored.doc := by
  have hstart : Viewed user ready SortedMap.empty (start Memory.empty).store
      (start Memory.empty).store := ⟨Owned.empty user ready, rfl, rfl⟩
  have hview := (transcript_alike (n := 0)
    (fun r hr => Viewed.engineAlike_of_eq (huser r hr) ready SortedMap.empty)
    (fun r hr h => hnow h r hr) (fun _ _ _ => trivial)
    (fun r hr => r.operation.within_placesOf (huser r hr))
    (fun r _ => r.operation.writes_filing) trivial hstart).2
  refine hview.owned.kept id stored hstored ?_
  have hpart := congrArg (fun m => SortedMap.get? m id) hview.part
  simp only [SortedMap.get?_filter] at hpart
  have hget : ((after Engine.memory requests (start Memory.empty)).store.database
      database).get? id = some stored := hstored
  rw [hget] at hpart
  cases hshows : shows user id stored with
  | true => rfl
  | false => simp [Option.filter, hshows] at hpart

theorem placed_of_shownAsKept (hkept : ∀ id stored, (docs s).get? id = some stored →
      Kept (placesOf user) ready id stored.doc) (h : ShownAsKept user space s) :
    Placed s user space := by
  intro id stored hstored _ hspace
  obtain ⟨⟨key, hid⟩, _⟩ := (h id stored hstored).1 hspace
  obtain ⟨_, space', key', rfl, _, hfiled, _⟩ := hkept id stored hstored
  obtain ⟨rfl, rfl⟩ := docId_inj_of_user.1 (hfiled.id_eq.symm.trans hid)
  rw [hfiled.keyOf_eq]
  exact hid

theorem answerOf_listKeys (hlimit : (found s user space).length ≤ findLimit) :
    answerOf user s (.listKeys space none) =
      .ok (.keys (sortedKeys none ((found s user space).map keyOf))) := by
  simp only [answerOf, outcome, perform, bind_apply, listKeys_memory hlimit]
  rfl

theorem answerOf_getAll (hlimit : (found s user space).length ≤ findLimit) :
    answerOf user s (.getAll space none) =
      .ok (.values (SortedMap.ofList ((found s user space).map fun doc =>
        (keyOf doc, doc.field Record.valueField)))) := by
  simp only [answerOf, outcome, perform, bind_apply, getAll_untagged hlimit]
  rfl

theorem sortedKeys_none_perm (keys : List String) : (sortedKeys none keys).Perm keys := by
  have hall : keys.filter (fun key =>
      ((none : Option String).getD "").toList.isPrefixOf key.toList) = keys :=
    List.filter_eq_self.2 fun key _ => rfl
  rw [sortedKeys, hall]
  exact List.mergeSort_perm _ _

theorem finds_iff_mem_found (h : ShownAsKept user space s) (hplaced : Placed s user space)
    (hshows : ∀ id stored, (docs s).get? id = some stored →
      Kept (placesOf user) ready id stored.doc) {key : String} {v : Json} :
    Finds user space s key v ↔
      ∃ doc ∈ found s user space, keyOf doc = key ∧ doc.field Record.valueField = v := by
  rw [finds_iff]
  constructor
  · rintro ⟨stored, r, hstored, hr, hv⟩
    obtain ⟨_, space', key', rfl, _, hfiled, _⟩ := hshows _ stored hstored
    obtain ⟨rfl, rfl⟩ := docId_inj_of_user.1 hfiled.id_eq
    refine ⟨stored.doc, mem_found.2 ⟨_, stored, hstored, rfl, hfiled.user, ?_⟩,
      hfiled.keyOf_eq, hr.value.trans hv⟩
    exact (h _ stored hstored).2 ⟨⟨key, rfl⟩, r, hr⟩
  · rintro ⟨doc, hdoc, rfl, rfl⟩
    obtain ⟨stored, hstored, rfl, _, hspace⟩ := hplaced.mem_found_iff.1 hdoc
    obtain ⟨_, r, hr⟩ := (h _ stored hstored).1 hspace
    exact ⟨stored, r, hstored, hr, hr.value.symm⟩

theorem listingsAgree_of_shownAsKept (hlimit : (found s user space).length ≤ findLimit)
    (hkept : ∀ id stored, (docs s).get? id = some stored →
      Kept (placesOf user) ready id stored.doc)
    (h : ShownAsKept user space s) : ListingsAgree user space s := by
  have hplaced := placed_of_shownAsKept hkept h
  refine ⟨_, _, answerOf_listKeys hlimit, answerOf_getAll hlimit,
    sortedKeys_ascending hplaced.nodup_keys none, fun key => ?_, fun key v => ?_⟩
  · rw [(sortedKeys_none_perm _).mem_iff, List.mem_map]
    constructor
    · rintro ⟨doc, hdoc, hkey⟩
      exact ⟨_, (finds_iff_mem_found h hplaced hkept).2 ⟨doc, hdoc, hkey, rfl⟩⟩
    · rintro ⟨v, hv⟩
      obtain ⟨doc, hdoc, hkey, _⟩ := (finds_iff_mem_found h hplaced hkept).1 hv
      exact ⟨doc, hdoc, hkey⟩
  · rw [hplaced.get?_values, finds_iff_mem_found h hplaced hkept]

theorem id_eq_of_nodup (hnodup : ((found s user space).map keyOf).Nodup) {id id' : String}
    {stored stored' : StoredDocument} (h : (docs s).get? id = some stored)
    (h' : (docs s).get? id' = some stored')
    (hshown : stored.doc.get? Record.userField = some (.str user) ∧
      stored.doc.get? Record.spaceField = some (.str space))
    (hshown' : stored'.doc.get? Record.userField = some (.str user) ∧
      stored'.doc.get? Record.spaceField = some (.str space))
    (hkey : keyOf stored.doc = keyOf stored'.doc) : id = id' := by
  have hentries : (((docs s).entries.filter fun e =>
      (spaceSelector user space).accepts e.2.doc).map fun e => keyOf e.2.doc).Nodup := by
    rw [found, Memory.documents, SortedMap.values, List.map_map, List.filter_map,
      List.map_map] at hnodup
    exact hnodup
  have hmem : (id, stored) ∈ (docs s).entries.filter fun e =>
      (spaceSelector user space).accepts e.2.doc :=
    List.mem_filter.2 ⟨SortedMap.get?_eq_some_iff.1 h, spaceSelector_accepts.2 hshown⟩
  have hmem' : (id', stored') ∈ (docs s).entries.filter fun e =>
      (spaceSelector user space).accepts e.2.doc :=
    List.mem_filter.2 ⟨SortedMap.get?_eq_some_iff.1 h', spaceSelector_accepts.2 hshown'⟩
  exact congrArg Prod.fst (List.inj_on_of_nodup_map hentries hmem hmem' hkey)

theorem shownAsKept_of_listingsAgree (hlimit : (found s user space).length ≤ findLimit)
    (hkept : ∀ id stored, (docs s).get? id = some stored →
      Kept (placesOf user) ready id stored.doc)
    (h : ListingsAgree user space s) : ShownAsKept user space s := by
  obtain ⟨keys, values, hkeys, _, hsorted, hfinds, _⟩ := h
  rw [answerOf_listKeys hlimit] at hkeys
  obtain rfl : sortedKeys none ((found s user space).map keyOf) = keys := by
    simpa using hkeys
  have hnodup : ((found s user space).map keyOf).Nodup :=
    (sortedKeys_none_perm _).nodup_iff.1 (hsorted.imp String.ne_of_lt)
  have hlisted : ∀ key, (∃ doc ∈ found s user space, keyOf doc = key) ↔
      ∃ v, Finds user space s key v := fun key => by
    rw [← hfinds, (sortedKeys_none_perm _).mem_iff, List.mem_map]
  intro id stored hstored
  obtain ⟨_, space', key, rfl, _, hfiled, _⟩ := hkept id stored hstored
  have hdocument : ∀ v, Finds user space s key v →
      ∃ stored' r, (docs s).get? (docId user space key) = some stored' ∧
        Record.Filed user space key (docId user space key) stored'.doc ∧
        Record.Reads stored'.doc r := by
    intro v hv
    obtain ⟨stored', r, hstored', hr, _⟩ := finds_iff.1 hv
    obtain ⟨_, space'', key'', rfl, _, hfiled', _⟩ := hkept _ stored' hstored'
    obtain ⟨rfl, rfl⟩ := docId_inj_of_user.1 hfiled'.id_eq
    exact ⟨stored', r, hstored', hfiled', hr⟩
  constructor
  · intro hspace
    obtain ⟨v, hv⟩ := (hlisted key).1 ⟨stored.doc,
      mem_found.2 ⟨id, stored, hstored, rfl, hfiled.user, hspace⟩, hfiled.keyOf_eq⟩
    obtain ⟨stored', r, hstored', hfiled', hr⟩ := hdocument v hv
    have hid : id = docId user space key := by
      by_cases hempty : space = ""
      · rw [hempty, ← hfiled.eq_empty_of_space (hempty ▸ hspace)]
        exact hfiled.id_eq
      · exact id_eq_of_nodup hnodup hstored hstored' ⟨hfiled.user, hspace⟩
          ⟨hfiled'.user, hfiled'.space_of_ne hempty⟩ (hfiled.keyOf_eq.trans hfiled'.keyOf_eq.symm)
    rw [← hid, hstored] at hstored'
    cases hstored'
    exact ⟨⟨key, hid⟩, r, hr⟩
  · rintro ⟨⟨key', hid⟩, r, hr⟩
    obtain ⟨rfl, rfl⟩ := docId_inj_of_user.1 (hfiled.id_eq.symm.trans hid)
    by_cases hempty : space' = ""
    · obtain ⟨doc, hdoc, hkey⟩ := (hlisted key).2
        ⟨r.value, finds_iff.2 ⟨stored, r, hid ▸ hstored, hr, rfl⟩⟩
      obtain ⟨id', stored', hstored', rfl, _, hspace⟩ := mem_found.1 hdoc
      obtain ⟨_, space'', key'', rfl, _, hfiled', _⟩ := hkept id' stored' hstored'
      have hsame : id' = id := by
        rw [hfiled'.id_eq, hid, hfiled'.eq_empty_of_space (hempty ▸ hspace), hempty,
          ← hkey, hfiled'.keyOf_eq]
      rw [hsame, hstored] at hstored'
      cases hstored'
      exact hspace
    · exact hfiled.space_of_ne hempty

theorem shownAsKept_iff (hkept : ∀ id stored, (docs s).get? id = some stored →
      Kept (placesOf user) True id stored.doc) :
    ShownAsKept user space s ↔ (space = "" ∨ space = defaultSpace → NoneRenamed user s) := by
  have hread : ∀ id stored, (docs s).get? id = some stored → ∃ r, Record.Reads stored.doc r := by
    intro id stored hstored
    obtain ⟨_, _, _, _, _, _, hready⟩ := hkept id stored hstored
    obtain ⟨r, hr, _⟩ := hready trivial
    exact ⟨r, hr⟩
  constructor
  · rintro h hspace key stored hstored
    obtain ⟨_, space', key', rfl, _, hfiled, _⟩ := hkept _ stored hstored
    obtain ⟨rfl, rfl⟩ := docId_inj_of_user.1 hfiled.id_eq
    rcases hspace with rfl | rfl
    · exact (h _ stored hstored).2 ⟨⟨key, rfl⟩, hread _ stored hstored⟩
    · rcases hfiled.space with hshown | hshown
      · exact hshown
      · obtain ⟨⟨key', hid⟩, _⟩ := (h _ stored hstored).1 hshown
        exact absurd (docId_inj_of_user.1 hid).1 (by decide)
  · intro h id stored hstored
    obtain ⟨_, space', key, rfl, _, hfiled, _⟩ := hkept id stored hstored
    constructor
    · intro hshown
      refine ⟨⟨key, ?_⟩, hread id stored hstored⟩
      rw [hfiled.id_eq]
      rcases hfiled.space with hs | hs
      · rw [hshown] at hs
        obtain rfl : space = space' := by simpa using hs
        rfl
      · rw [hshown] at hs
        obtain rfl : space = Record.named space' := by simpa using hs
        by_cases hempty : space' = ""
        · subst hempty
          have hkeptEmpty := h (.inr rfl) key stored (hfiled.id_eq ▸ hstored)
          rw [hshown] at hkeptEmpty
          exact absurd hkeptEmpty (by decide)
        · rw [Record.named_of_ne hempty]
    · rintro ⟨⟨key', hid⟩, _⟩
      obtain ⟨rfl, rfl⟩ := docId_inj_of_user.1 (hfiled.id_eq.symm.trans hid)
      by_cases hempty : space' = ""
      · subst hempty
        exact h (.inl rfl) key stored (hid ▸ hstored)
      · exact hfiled.space_of_ne hempty

/-- Listings and look-ups of a namespace agree exactly where its documents are shown as they are
kept, and while the clock is in range, exactly where no record of the empty namespace has come to
show the default one. -/
theorem listings_agree_iff (user space : String) (requests : List Request)
    (huser : ∀ r ∈ requests, r.user = user)
    (hlimit : (found (after Engine.memory requests (start Memory.empty)) user space).length ≤
      findLimit) :
    (ListingsAgree user space (after Engine.memory requests (start Memory.empty)) ↔
        ShownAsKept user space (after Engine.memory requests (start Memory.empty))) ∧
      ((∀ r ∈ requests, r.now.InRange) →
        (ListingsAgree user space (after Engine.memory requests (start Memory.empty)) ↔
          (space = "" ∨ space = defaultSpace →
            NoneRenamed user (after Engine.memory requests (start Memory.empty))))) := by
  have hagree : ListingsAgree user space (after Engine.memory requests (start Memory.empty)) ↔
      ShownAsKept user space (after Engine.memory requests (start Memory.empty)) :=
    ⟨shownAsKept_of_listingsAgree hlimit fun _ _ => kept_after huser False.elim,
      listingsAgree_of_shownAsKept hlimit fun _ _ => kept_after huser False.elim⟩
  refine ⟨hagree, fun hnow => ?_⟩
  rw [hagree]
  exact shownAsKept_iff fun _ _ => kept_after huser fun _ => hnow

def setTwice (space : String) : List Request :=
  [⟨"u", Instant.epoch, .set space "k" (.bool false) none none⟩,
    ⟨"u", Instant.epoch, .set space "k" (.bool true) none none⟩]

theorem listings_agree_setTwice :
    ListingsAgree "u" "n" (after Engine.memory (setTwice "n") (start Memory.empty)) := by
  have huser : ∀ r ∈ setTwice "n", r.user = "u" := by simp [setTwice]
  have hlimit : (found (after Engine.memory (setTwice "n") (start Memory.empty)) "u" "n").length ≤
      findLimit := by decide +kernel
  have hnow : ∀ r ∈ setTwice "n", r.now.InRange := by
    intro r hr
    have : r.now = Instant.epoch := by
      simp only [setTwice, List.mem_cons, List.not_mem_nil, or_false] at hr
      rcases hr with rfl | rfl <;> rfl
    rw [this]
    decide
  refine ((listings_agree_iff "u" "n" (setTwice "n") huser hlimit).2 hnow).2 fun hspace => ?_
  exact absurd hspace (by decide)

theorem not_listings_agree_setTwice :
    ¬ ListingsAgree "u" "" (after Engine.memory (setTwice "") (start Memory.empty)) := by
  rintro ⟨keys, values, hkeys, _, _, hfinds, _⟩
  have hlisted : answerOf "u" (after Engine.memory (setTwice "") (start Memory.empty))
      (.listKeys "" none) = .ok (.keys []) := by
    have hnone : (found (after Engine.memory (setTwice "") (start Memory.empty)) "u" "").length =
        0 := by decide +kernel
    rw [answerOf_listKeys (by omega), List.eq_nil_of_length_eq_zero hnone]
    simp [sortedKeys]
  rw [hlisted] at hkeys
  obtain rfl : [] = keys := by simpa using hkeys
  have hreadable : ((docs (after Engine.memory (setTwice "") (start Memory.empty))).get?
      (docId "u" "" "k")).any (fun stored => (Record.ofDocument stored.doc).isOk) = true := by
    decide +kernel
  have hget : ∃ v, Finds "u" "" (after Engine.memory (setTwice "") (start Memory.empty)) "k" v := by
    obtain ⟨stored, hstored, hok⟩ := (Option.any_eq_true _ _).1 hreadable
    cases hread : Record.ofDocument stored.doc with
    | error e => simp [hread, Except.isOk, Except.toBool] at hok
    | ok r =>
      exact ⟨r.value, finds_iff.2 ⟨stored, r, hstored, Record.ofDocument_eq_ok_iff.1 hread, rfl⟩⟩
  simpa using (hfinds "k").2 hget

end Keyspace.Service
