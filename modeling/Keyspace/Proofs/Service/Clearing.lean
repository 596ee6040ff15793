import Keyspace.Proofs.Service.Agreement
import Keyspace.Proofs.Service.Kept
import Keyspace.Proofs.Service.Values
import Mathlib.Data.Set.Card

set_option autoImplicit false

namespace Keyspace.Service

def Operation.spaces : Operation → List String
  | .get space .. | .set space .. | .delete space _ | .listKeys space _ | .getAll space _
  | .getMany space .. | .clear space => [space]
  | .setMany items _ => items.map (·.space)
  | .listSpaces => []

def liveKeys (user space : String) (s : State Memory) : Set String :=
  {key | answerOf user s (.get space key none) ≠ .ok (.record none)}

/-- A clearing of a namespace counts all its records and leaves none of them, and it leaves the
documents of the user's other namespaces as they are. -/
def Clears (user space : String) (s : State Memory) : Prop :=
  ∀ n s', clear Engine.memory user space s = .ok n s' →
    n = (liveKeys user space s).ncard ∧
    (∀ key, answerOf user s' (.get space key none) = .ok (.record none)) ∧
    answerOf user s' (.listKeys space none) = .ok (.keys []) ∧
    ∀ other key, other ≠ space →
      (docs s').get? (docId user other key) = (docs s).get? (docId user other key)

abbrev namedPlacesOf (user other space _ : String) : Prop := user = other ∧ space ≠ ""

variable {user space : String} {s s' : State Memory}

theorem Operation.within_namedPlacesOf {operation : Operation} {other : String} (h : other = user)
    (hspaces : ∀ space ∈ operation.spaces, space ≠ "") :
    operation.Within (namedPlacesOf user other) := by
  cases operation <;>
    simp_all [Operation.Within, Operation.spaces, namedPlacesOf, Record.named_ne_empty]

theorem mem_liveKeys {key : String} :
    key ∈ liveKeys user space s ↔ ∃ stored, (docs s).get? (docId user space key) = some stored := by
  simp only [liveKeys, Set.mem_ofPred_eq, answerOf, outcome, perform, bind_apply]
  cases hdoc : (docs s).get? (docId user space key) with
  | none => simp [get_absent hdoc none]
  | some stored =>
    simp only [get_untagged hdoc, bind_apply, readRecord]
    cases Record.ofDocument stored.doc with
    | ok r => simp
    | error e => simp

/-- All documents are filed for a user in namespaces that have a name. -/
def AllNamed (user : String) (s : State Memory) : Prop :=
  ∀ id stored, (docs s).get? id = some stored → Kept (namedPlacesOf user) False id stored.doc

theorem allNamed_after {requests : List Request} (huser : ∀ r ∈ requests, r.user = user)
    (hspaces : ∀ r ∈ requests, ∀ space ∈ r.operation.spaces, space ≠ "") :
    AllNamed user (after Engine.memory requests (start Memory.empty)) := fun _ _ hstored =>
  kept_of_within (fun r hr => r.operation.within_namedPlacesOf (huser r hr) (hspaces r hr))
    False.elim hstored

namespace AllNamed

theorem placed (h : AllNamed user s) (space : String) : Placed s user space := by
  intro id stored hstored _ hspace
  obtain ⟨_, space', key, ⟨rfl, hne⟩, _, hfiled, _⟩ := h id stored hstored
  rw [hfiled.space_of_ne hne] at hspace
  obtain rfl : space' = space := by simpa using hspace
  rw [hfiled.keyOf_eq]
  exact hfiled.id_eq

theorem shown (h : AllNamed user s) {key : String} {stored : StoredDocument}
    (hstored : (docs s).get? (docId user space key) = some stored) :
    stored.doc.get? Record.userField = some (.str user) ∧
      stored.doc.get? Record.spaceField = some (.str space) ∧ keyOf stored.doc = key := by
  obtain ⟨_, space', key', ⟨rfl, hne⟩, _, hfiled, _⟩ := h _ stored hstored
  obtain ⟨rfl, rfl⟩ := docId_inj_of_user.1 hfiled.id_eq
  exact ⟨hfiled.user, hfiled.space_of_ne hne, hfiled.keyOf_eq⟩

theorem mem_map_keyOf_found (h : AllNamed user s) {key : String} :
    key ∈ (found s user space).map keyOf ↔ key ∈ liveKeys user space s := by
  rw [mem_liveKeys, List.mem_map]
  constructor
  · rintro ⟨doc, hdoc, rfl⟩
    obtain ⟨stored, hstored, _⟩ := (h.placed space).mem_found_iff.1 hdoc
    exact ⟨stored, hstored⟩
  · rintro ⟨stored, hstored⟩
    obtain ⟨huser, hspace, hkey⟩ := h.shown hstored
    exact ⟨stored.doc, mem_found.2 ⟨_, stored, hstored, rfl, huser, hspace⟩, hkey⟩

theorem finite_liveKeys (h : AllNamed user s) (space : String) :
    (liveKeys user space s).Finite :=
  (List.finite_toSet ((found s user space).map keyOf)).subset
    fun _ hkey => h.mem_map_keyOf_found.2 hkey

theorem ncard_liveKeys (h : AllNamed user s) (space : String) :
    (liveKeys user space s).ncard = (found s user space).length := by
  have hset : liveKeys user space s = ((found s user space).map keyOf).toFinset := by
    ext key
    rw [List.coe_toFinset, Set.mem_ofPred_eq, h.mem_map_keyOf_found]
  rw [hset, Set.ncard_coe_finset, List.toFinset_card_of_nodup (h.placed space).nodup_keys,
    List.length_map]

theorem mono (h : AllNamed user s)
    (hold : ∀ id stored, (docs s').get? id = some stored → (docs s).get? id = some stored) :
    AllNamed user s' := fun id stored hstored => h id stored (hold id stored hstored)

end AllNamed

theorem delete_all {keys : List String} (hnodup : keys.Nodup)
    (hlive : ∀ key ∈ keys, key ∈ liveKeys user space s) :
    ∃ s', (keys.foldlM (fun count key => do
        return if ← delete Engine.memory user space key then count + 1 else count) 0 :
          Run Memory Nat) s = .ok keys.length s' ∧
      ∀ id, (docs s').get? id =
        if id ∈ keys.map (docId user space) then none else (docs s).get? id := by
  suffices hloop : ∃ count s', (keys.foldlM (fun count key => do
        return if ← delete Engine.memory user space key then count + 1 else count) 0 :
          Run Memory Nat) s = .ok count s' ∧ count = keys.length ∧ ∀ id, (docs s').get? id =
            if id ∈ keys.map (docId user space) then none else (docs s).get? id by
    obtain ⟨count, s', hrun, rfl, hs'⟩ := hloop
    exact ⟨s', hrun, hs'⟩
  refine foldlM_run (fun done count s' => count = done.length ∧ ∀ id, (docs s').get? id =
      if id ∈ done.map (docId user space) then none else (docs s).get? id)
    (fun done key rest count s₁ hkeys hdone => ?_) ⟨rfl, fun id => by simp⟩
  obtain ⟨rfl, hdocs⟩ := hdone
  obtain ⟨stored, hstored⟩ := mem_liveKeys.1 (hlive key (by rw [hkeys]; simp))
  have hnew : docId user space key ∉ done.map (docId user space) := by
    rw [List.mem_map]
    rintro ⟨key', hkey', hid⟩
    obtain ⟨_, rfl⟩ := docId_inj_of_user.1 hid
    rw [hkeys] at hnodup
    exact (List.nodup_append.1 hnodup).2.2 key' hkey' key' List.mem_cons_self rfl
  have hpresent : (docs s₁).get? (docId user space key) = some stored := by
    rw [hdocs, if_neg hnew, hstored]
  refine ⟨_, _, by simp only [bind_apply, delete_present hpresent]; rfl, by simp,
    fun id => ?_⟩
  rw [docs_removed, SortedMap.get?_erase, hdocs]
  by_cases hid : id = docId user space key
  · simp [hid]
  · simp [hid]

def clearedKeys (user space : String) (s : State Memory) : List String :=
  sortedKeys none (((found s user space).take findLimit).map keyOf)

theorem clearedKeys_perm (user space : String) (s : State Memory) :
    (clearedKeys user space s).Perm (((found s user space).take findLimit).map keyOf) :=
  sortedKeys_none_perm _

theorem length_clearedKeys (user space : String) (s : State Memory) :
    (clearedKeys user space s).length = min findLimit (found s user space).length := by
  rw [(clearedKeys_perm user space s).length_eq, List.length_map, List.length_take]

namespace AllNamed

theorem nodup_clearedKeys (h : AllNamed user s) (space : String) :
    (clearedKeys user space s).Nodup := by
  rw [(clearedKeys_perm user space s).nodup_iff]
  exact (h.placed space).nodup_keys.sublist ((List.take_sublist ..).map keyOf)

theorem live_of_mem_clearedKeys (h : AllNamed user s) {key : String}
    (hkey : key ∈ clearedKeys user space s) : key ∈ liveKeys user space s := by
  rw [(clearedKeys_perm user space s).mem_iff] at hkey
  exact h.mem_map_keyOf_found.1 (List.map_subset keyOf (List.take_subset ..) hkey)

/-- A clearing always succeeds, and deletes what one listing shows. -/
theorem clear_run (h : AllNamed user s) (space : String) :
    ∃ s', clear Engine.memory user space s =
        .ok (min (liveKeys user space s).ncard findLimit) s' ∧
      ∀ id, (docs s').get? id =
        if id ∈ (clearedKeys user space s).map (docId user space) then none
        else (docs s).get? id := by
  obtain ⟨s', hrun, hdocs⟩ := delete_all (h.nodup_clearedKeys space)
    fun key hkey => h.live_of_mem_clearedKeys hkey
  refine ⟨s', ?_, hdocs⟩
  rw [h.ncard_liveKeys, min_comm, ← length_clearedKeys]
  simp only [clear, bind_apply, listKeys_take]
  exact hrun

theorem liveKeys_cleared
    (hdocs : ∀ id, (docs s').get? id =
      if id ∈ (clearedKeys user space s).map (docId user space) then none
      else (docs s).get? id) :
    liveKeys user space s' = liveKeys user space s \ {key | key ∈ clearedKeys user space s} := by
  ext key
  have hmem : docId user space key ∈ (clearedKeys user space s).map (docId user space) ↔
      key ∈ clearedKeys user space s := by
    rw [List.mem_map]
    constructor
    · rintro ⟨key', hkey', hid⟩
      exact (docId_inj_of_user.1 hid).2 ▸ hkey'
    · exact fun hkey => ⟨key, hkey, rfl⟩
  simp only [Set.mem_sdiff, Set.mem_ofPred_eq, mem_liveKeys, hdocs, hmem]
  by_cases hkey : key ∈ clearedKeys user space s <;> simp [hkey]

theorem ncard_liveKeys_cleared (h : AllNamed user s)
    (hdocs : ∀ id, (docs s').get? id =
      if id ∈ (clearedKeys user space s).map (docId user space) then none
      else (docs s).get? id) :
    (liveKeys user space s').ncard = (liveKeys user space s).ncard - findLimit := by
  have hset : {key | key ∈ clearedKeys user space s} =
      ((clearedKeys user space s).toFinset : Set String) := (List.coe_toFinset _).symm
  have hlive : ((clearedKeys user space s).toFinset : Set String) ⊆ liveKeys user space s :=
    fun key hkey => h.live_of_mem_clearedKeys (List.mem_toFinset.1 hkey)
  rw [liveKeys_cleared hdocs, hset, Set.ncard_sdiff hlive (Finset.finite_toSet _),
    Set.ncard_coe_finset, List.toFinset_card_of_nodup (h.nodup_clearedKeys space),
    length_clearedKeys, h.ncard_liveKeys]
  omega

theorem clears_iff_ncard_le (h : AllNamed user s) (space : String) :
    Clears user space s ↔ (liveKeys user space s).ncard ≤ findLimit := by
  obtain ⟨s', hrun, hdocs⟩ := h.clear_run space
  have hleft := h.ncard_liveKeys_cleared hdocs
  have hnamed : AllNamed user s' := h.mono fun id stored hstored => by
    rw [hdocs] at hstored
    split at hstored
    · cases hstored
    · exact hstored
  constructor
  · intro hclears
    obtain ⟨hcount, _⟩ := hclears _ _ hrun
    omega
  · intro hlimit n s'' hrun'
    rw [hrun] at hrun'
    cases hrun'
    have hnone : (liveKeys user space s').ncard = 0 := by omega
    refine ⟨by omega, fun key => ?_, ?_, fun other key hother => ?_⟩
    · have hempty := (Set.ncard_eq_zero (hnamed.finite_liveKeys space)).1 hnone
      have hkey : key ∉ liveKeys user space s' := by simp [hempty]
      exact not_not.1 hkey
    · rw [hnamed.ncard_liveKeys] at hnone
      rw [answerOf_listKeys (by omega), List.eq_nil_of_length_eq_zero hnone]
      simp [sortedKeys]
    · rw [hdocs, if_neg]
      rw [List.mem_map]
      rintro ⟨key', _, hid⟩
      exact hother (docId_inj_of_user.1 hid).1.symm

end AllNamed

/-- A user whose requests name namespaces by texts that are not empty clears a namespace exactly
when it has no more keys than a listing shows. Otherwise as many keys as a listing shows are
deleted, and what is left is left as it was. -/
theorem clears_iff (user space : String) (requests : List Request)
    (huser : ∀ r ∈ requests, r.user = user)
    (hspaces : ∀ r ∈ requests, ∀ space ∈ r.operation.spaces, space ≠ "") :
    (Clears user space (after Engine.memory requests (start Memory.empty)) ↔
        (liveKeys user space (after Engine.memory requests (start Memory.empty))).ncard ≤
          findLimit) ∧
      ∃ s', clear Engine.memory user space (after Engine.memory requests (start Memory.empty)) =
          .ok (min (liveKeys user space
            (after Engine.memory requests (start Memory.empty))).ncard findLimit) s' ∧
        (liveKeys user space s').ncard =
          (liveKeys user space (after Engine.memory requests (start Memory.empty))).ncard -
            findLimit ∧
        ∀ id, (∀ key, id = docId user space key → key ∈ liveKeys user space s') →
          (docs s').get? id =
            (docs (after Engine.memory requests (start Memory.empty))).get? id := by
  have hnamed := allNamed_after huser hspaces
  refine ⟨hnamed.clears_iff_ncard_le space, ?_⟩
  obtain ⟨s', hrun, hdocs⟩ := hnamed.clear_run space
  refine ⟨s', hrun, hnamed.ncard_liveKeys_cleared hdocs, fun id hid => ?_⟩
  rw [hdocs, if_neg]
  rw [List.mem_map]
  rintro ⟨key, hkey, rfl⟩
  have hleft := hid key rfl
  rw [AllNamed.liveKeys_cleared hdocs] at hleft
  exact hleft.2 hkey

theorem clears_setTwice :
    Clears "u" "n" (after Engine.memory (setTwice "n") (start Memory.empty)) := by
  have huser : ∀ r ∈ setTwice "n", r.user = "u" := by simp [setTwice]
  have hspaces : ∀ r ∈ setTwice "n", ∀ space ∈ r.operation.spaces, space ≠ "" := by
    simp [setTwice, Operation.spaces]
  refine (clears_iff "u" "n" (setTwice "n") huser hspaces).1.2 ?_
  rw [(allNamed_after huser hspaces).ncard_liveKeys]
  decide +kernel

def numbered (n : Nat) : List BatchItem :=
  (List.range n).map fun i => ⟨"n", toString i, .null, none⟩

def setNumbered (n : Nat) : Request := ⟨"u", Instant.epoch, .setMany (numbered n) none⟩

theorem toString_injective {i j : Nat} (h : toString i = toString j) : i = j := by
  have hdigits : Nat.toDigits 10 i = Nat.toDigits 10 j := by
    simpa [toString, Nat.repr, String.ofList_inj] using h
  have := congrArg (Nat.ofDigitChars 10 · 0) hdigits
  simpa using this

theorem exists_updateAll (values : String → String → Option Json) {items : List BatchItem}
    {item : BatchItem} (h : item ∈ items) :
    ∃ v, updateAll values items item.space item.key = some v := by
  induction items using List.reverseRecOn with
  | nil => cases h
  | append_singleton items last ih =>
    have hlast : updateAll values (items ++ [last]) =
        updateAt (updateAll values items) last.space last.key (some last.value) := by
      simp [updateAll]
    rw [hlast, updateAt]
    split
    · exact ⟨_, rfl⟩
    · rename_i hother
      rw [List.mem_append, List.mem_singleton] at h
      rcases h with hitem | rfl
      · exact ih hitem
      · exact absurd ⟨rfl, rfl⟩ hother

theorem ncard_liveKeys_numbered (n : Nat) :
    n ≤ (liveKeys "u" "n" (after Engine.memory [setNumbered n] (start Memory.empty))).ncard := by
  have hnamed : AllNamed "u" (after Engine.memory [setNumbered n] (start Memory.empty)) :=
    allNamed_after (by simp [setNumbered]) (by simp [setNumbered, Operation.spaces, numbered])
  have hstart : Matches "u" (fun _ _ => none) 0 (start Memory.empty) :=
    ⟨fun _ _ h => (by simp at h), fun _ _ _ h => (by cases h)⟩
  have hnow : Instant.epoch.InRange := by decide
  have hitems : ∀ item ∈ numbered n, item.space ≠ "" := by simp [numbered]
  obtain ⟨s', hrun, hs'⟩ := hstart.setMany hnow hitems none
  have hafter : after Engine.memory [setNumbered n] (start Memory.empty) = s' := by
    simp only [after, List.foldl_cons, List.foldl_nil, outcome, perform, setNumbered, bind_apply,
      hrun]
    rfl
  have hlive : ((Finset.range n).image toString : Set String) ⊆ liveKeys "u" "n" s' := by
    intro key hkey
    obtain ⟨i, hi, rfl⟩ := Finset.mem_image.1 hkey
    have hitem : ⟨"n", toString i, .null, none⟩ ∈ numbered n :=
      List.mem_map.2 ⟨i, List.mem_range.2 (Finset.mem_range.1 hi), rfl⟩
    obtain ⟨v, hv⟩ := exists_updateAll (fun _ _ => none) hitem
    exact mem_liveKeys.2 (hs'.complete _ _ v hv)
  rw [hafter] at hnamed ⊢
  have hcard := Set.ncard_le_ncard hlive (hnamed.finite_liveKeys "n")
  rwa [Set.ncard_coe_finset, Finset.card_image_of_injective _ fun _ _ => toString_injective,
    Finset.card_range] at hcard

theorem not_clears_of_many {n : Nat} (h : findLimit < n) :
    ¬ Clears "u" "n" (after Engine.memory [setNumbered n] (start Memory.empty)) := by
  have hnamed : AllNamed "u" (after Engine.memory [setNumbered n] (start Memory.empty)) :=
    allNamed_after (by simp [setNumbered]) (by simp [setNumbered, Operation.spaces, numbered])
  rw [hnamed.clears_iff_ncard_le]
  have := ncard_liveKeys_numbered n
  omega

/-- One key more than a listing shows. -/
theorem not_clears_numbered :
    ¬ Clears "u" "n"
      (after Engine.memory [setNumbered (findLimit + 1)] (start Memory.empty)) :=
  not_clears_of_many (Nat.lt_succ_self findLimit)

end Keyspace.Service
