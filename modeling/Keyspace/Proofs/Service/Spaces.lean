import Keyspace.Proofs.Service.Agreement

set_option autoImplicit false

namespace Keyspace.Service

/-- A namespace is among those of a user exactly when it has keys. -/
def ReportedAsListed (user space : String) (s : State Memory) : Prop :=
  ∃ spaces keys,
    listSpaces Engine.memory user s = .ok spaces s ∧
    listKeys Engine.memory user space none s = .ok keys s ∧
    (space ∈ spaces ↔ keys ≠ [])

/-- A document shows no namespace: the field is missing, empty, or not a text. -/
def Unnamed (doc : Document) : Prop :=
  ∀ name, doc.get? Record.spaceField = some (.str name) → name = ""

variable {user space : String} {s : State Memory} {doc : Document}

theorem spaceOf_of_shown (h : doc.get? Record.spaceField = some (.str space)) (hne : space ≠ "") :
    spaceOf doc = space := by
  rw [spaceOf, text?_eq_some_iff.2 h]
  exact if_neg (by simpa using hne)

theorem spaceOf_of_unnamed (h : Unnamed doc) : spaceOf doc = defaultSpace := by
  rw [spaceOf]
  split
  · rename_i name hname
    rw [h name (text?_eq_some_iff.1 hname)]
    rfl
  · rfl

theorem spaceOf_eq_iff :
    spaceOf doc = space ↔
      (doc.get? Record.spaceField = some (.str space) ∧ space ≠ "") ∨
        (Unnamed doc ∧ space = defaultSpace) := by
  by_cases hnamed : Unnamed doc
  · rw [spaceOf_of_unnamed hnamed, eq_comm]
    refine ⟨fun h => .inr ⟨hnamed, h⟩, ?_⟩
    rintro (⟨hshown, hne⟩ | ⟨_, h⟩)
    · exact absurd (hnamed _ hshown) hne
    · exact h
  · obtain ⟨name, hshown, hne⟩ : ∃ name,
        doc.get? Record.spaceField = some (.str name) ∧ name ≠ "" := by
      simpa [Unnamed] using hnamed
    rw [spaceOf_of_shown hshown hne]
    constructor
    · rintro rfl
      exact .inl ⟨hshown, hne⟩
    · rintro (⟨hshown', _⟩ | ⟨h, _⟩)
      · simpa [hshown] using hshown'
      · exact absurd h hnamed

theorem mem_found_iff_mem_foundAll :
    doc ∈ found s user space ↔
      doc ∈ foundAll s user ∧ doc.get? Record.spaceField = some (.str space) := by
  simp only [found, foundAll, List.mem_filter, spaceSelector_accepts, userSelector_accepts,
    and_assoc]

theorem mem_spaces_iff {docs : List Document} :
    space ∈ (SortedMap.ofList (docs.map fun doc => (spaceOf doc, ()))).keys ↔
      ∃ doc ∈ docs, spaceOf doc = space := by
  rw [SortedMap.mem_keys_iff, SortedMap.exists_get?_ofList_iff, List.map_map, List.mem_map]
  rfl

theorem sortedKeys_none_ne_nil_iff {docs : List Document} :
    sortedKeys none (docs.map keyOf) ≠ [] ↔ ∃ doc, doc ∈ docs := by
  rw [Ne, ← List.length_eq_zero_iff, (sortedKeys_none_perm _).length_eq, List.length_map,
    List.length_eq_zero_iff, List.eq_nil_iff_forall_not_mem]
  simp only [not_forall, not_not]

theorem reportedAsListed_iff_documents (h : (docs s).size ≤ findLimit) :
    ReportedAsListed user space s ↔
      ((∃ doc ∈ foundAll s user, spaceOf doc = space) ↔
        ∃ doc ∈ foundAll s user, doc.get? Record.spaceField = some (.str space)) := by
  have hspaces := listSpaces_memory (Nat.le_trans (length_foundAll_le s user) h)
  have hkeys := listKeys_memory (Nat.le_trans (length_found_le s user space) h) none
  have hlisted : sortedKeys none ((found s user space).map keyOf) ≠ [] ↔
      ∃ doc ∈ foundAll s user, doc.get? Record.spaceField = some (.str space) := by
    rw [sortedKeys_none_ne_nil_iff]
    exact exists_congr fun doc => mem_found_iff_mem_foundAll
  rw [← hlisted, ← mem_spaces_iff]
  constructor
  · rintro ⟨spaces, keys, hspaces', hkeys', hiff⟩
    obtain ⟨rfl, -⟩ := EStateM.Result.ok.inj (hspaces.symm.trans hspaces')
    obtain ⟨rfl, -⟩ := EStateM.Result.ok.inj (hkeys.symm.trans hkeys')
    exact hiff
  · intro hiff
    exact ⟨_, _, hspaces, hkeys, hiff⟩

theorem reached_as_listed (h : (docs s).size ≤ findLimit) (user space : String) (now : Instant) :
    ∃ keys values,
      listKeys Engine.memory user space none s = .ok keys s ∧
      getAll Engine.memory now user space none s = .ok values s ∧
      (∀ key, key ∈ values.keys ↔ key ∈ keys) ∧
      (keys = [] → clear Engine.memory user space s = .ok 0 s) := by
  have hfound := Nat.le_trans (length_found_le s user space) h
  have hkeys := listKeys_memory hfound none
  refine ⟨_, _, hkeys, getAll_untagged hfound now, fun key => ?_, fun hnone => ?_⟩
  · rw [SortedMap.mem_keys_iff, SortedMap.exists_get?_ofList_iff, List.map_map,
      (sortedKeys_none_perm _).mem_iff]
    rfl
  · rw [hnone] at hkeys
    simp only [clear, bind_apply, hkeys]
    rfl

/-- The namespaces told are those with keys, except that the empty namespace is never told, and that
the default one is told for documents that show no namespace, which its own listing does not
find. -/
theorem reportedAsListed_iff (s : State Memory) (user space : String)
    (hlimit : (docs s).size ≤ findLimit) :
    (ReportedAsListed user space s ↔
      (space = "" → ∀ doc ∈ foundAll s user, doc.get? Record.spaceField ≠ some (.str "")) ∧
      (space = defaultSpace → (∃ doc ∈ foundAll s user, Unnamed doc) →
        ∃ doc ∈ foundAll s user, doc.get? Record.spaceField = some (.str defaultSpace))) ∧
    ∀ now, ∃ keys values,
      listKeys Engine.memory user space none s = .ok keys s ∧
      getAll Engine.memory now user space none s = .ok values s ∧
      (∀ key, key ∈ values.keys ↔ key ∈ keys) ∧
      (keys = [] → clear Engine.memory user space s = .ok 0 s) := by
  refine ⟨?_, reached_as_listed hlimit user space⟩
  rw [reportedAsListed_iff_documents hlimit]
  simp only [spaceOf_eq_iff]
  constructor
  · intro hiff
    refine ⟨?_, ?_⟩
    · rintro rfl doc hdoc hshown
      obtain ⟨_, _, ⟨_, hne⟩ | ⟨_, hdefault⟩⟩ := hiff.2 ⟨doc, hdoc, hshown⟩
      · exact hne rfl
      · exact absurd hdefault (by decide)
    · rintro rfl ⟨doc, hdoc, hunnamed⟩
      exact hiff.1 ⟨doc, hdoc, .inr ⟨hunnamed, rfl⟩⟩
  · rintro ⟨hempty, hdefault⟩
    constructor
    · rintro ⟨doc, hdoc, ⟨hshown, _⟩ | ⟨hunnamed, rfl⟩⟩
      · exact ⟨doc, hdoc, hshown⟩
      · exact hdefault rfl ⟨doc, hdoc, hunnamed⟩
    · rintro ⟨doc, hdoc, hshown⟩
      refine ⟨doc, hdoc, .inl ⟨hshown, ?_⟩⟩
      rintro rfl
      exact hempty rfl doc hdoc hshown

def rawRecord (space : Option Json) : Document :=
  SortedMap.ofList (space.toList.map (fun space => (Record.spaceField, space)) ++
    [(Record.keyField, .str "k"), (Record.userField, .str "u")])

def rawMemory (records : List (String × Option Json)) : State Memory :=
  start (records.foldl
    (fun m r => m.insertRaw Instant.epoch database r.1 (rawRecord r.2)) Memory.empty)

def mixedMemory : State Memory :=
  rawMemory [("u:default:aw==", some (.str defaultSpace)), ("u:n:aw==", some (.str "n")),
    ("u:1", none), ("u:2", some .null), ("u:3", some (.bool true))]

theorem reportedAsListed_mixedMemory : ReportedAsListed "u" defaultSpace mixedMemory := by
  have hfound : rawRecord (some (.str defaultSpace)) ∈ foundAll mixedMemory "u" := by
    decide +kernel
  refine (reportedAsListed_iff mixedMemory "u" defaultSpace (by decide +kernel)).1.2
    ⟨fun h => absurd h (by decide), fun _ _ => ⟨_, hfound, by decide +kernel⟩⟩

/-- The default namespace is told for a record that shows none, and has no keys. -/
theorem not_reportedAsListed_unnamed :
    let s := rawMemory [("u:default:aw==", none)]
    (docs s).size ≤ findLimit ∧ ¬ ReportedAsListed "u" defaultSpace s := by
  intro s
  have hlimit : (docs s).size ≤ findLimit := by decide +kernel
  have hfound : foundAll s "u" = [rawRecord none] := by decide +kernel
  have hnone : (rawRecord none).get? Record.spaceField = none := by decide +kernel
  refine ⟨hlimit, fun hreported => ?_⟩
  rw [reportedAsListed_iff_documents hlimit, hfound] at hreported
  obtain ⟨doc, hdoc, hshown⟩ := hreported.1 ⟨_, List.mem_singleton_self _, by decide +kernel⟩
  rw [List.mem_singleton.1 hdoc, hnone] at hshown
  cases hshown

end Keyspace.Service
