import Keyspace.Proofs.Lockstep
import Keyspace.Proofs.Record.Alike
import Keyspace.Proofs.Record.Filed
import Keyspace.Proofs.Service.Request

/-!
Two engines that serve a user alike, and the data store over them.

`Engine.Alike` relates the states of two engines. From related states both give a user the same
documents, apart from write tokens, and take the same writes. Then the data store answers every
request of the user alike over both (`Service.lockstep_perform`). What the user's documents are like
is part of the relation: they are filed, and they can be read if the clock is in range. A `Contract`
says so, and may have a part that only some engines need (`Upkeep`).
-/

set_option autoImplicit false

namespace Keyspace

open Service

variable {σ τ α β : Type}

/-- What the data store keeps under an id: a document that is filed in a place that may be used,
and that can be read if `ready`. A place is a key of a user's namespace. -/
def Kept (allowed : String → String → String → Prop) (ready : Prop) (id : String)
    (doc : Document) : Prop :=
  ∃ user space key, allowed user space key ∧ allowed user (Record.named space) key ∧
    Record.Filed user space key id doc ∧ (ready → Record.Readable doc)

/-- What is kept up on documents besides that they are filed. It may depend on how often the data
store has read them on behalf of agents, since a read changes a document. -/
structure Upkeep where
  /-- What may be written as a value or as metadata. -/
  writes : Json → Prop
  /-- How many reads there may be. -/
  within : Nat → Prop
  /-- What documents are like after so many reads. -/
  holds : Nat → Document → Prop
  within_of_le : ∀ {m n}, m ≤ n → within n → within m
  holds_of_le : ∀ {m n doc}, m ≤ n → holds m doc → holds n doc
  insert_rev : ∀ {n doc} rev, holds n doc →
    holds n (SortedMap.insert doc Document.revField (.str rev))
  counted : ∀ {n doc doc' agent now}, within (n + 1) → holds n doc →
    Record.countRead doc agent now = some doc' → holds (n + 1) doc'
  fresh : ∀ n user space key {value} {metadata : Option Document} agent now, writes value →
    (∀ m ∈ metadata, writes m.toJson) →
    holds n (Record.fresh user space key value (metadata.getD SortedMap.empty) agent now).toDocument
  updated : ∀ {n doc r} id {value} agent {metadata : Option Document} now, holds n doc →
    Record.Reads doc r → writes value → (∀ m ∈ metadata, writes m.toJson) →
    holds n (Service.updated r id value agent metadata now).toDocument

def Upkeep.filing : Upkeep where
  writes _ := True
  within _ := True
  holds _ _ := True
  within_of_le _ _ := trivial
  holds_of_le _ _ := trivial
  insert_rev _ _ := trivial
  counted _ _ _ := trivial
  fresh _ _ _ _ _ _ _ _ _ _ := trivial
  updated _ _ _ _ _ _ _ _ _ := trivial

/-- What two engines serve alike: keys in places that may be used, to documents that can be read if
`ready`, apart from tokens that correspond. If `whole`, they list whole documents as well. -/
structure Contract where
  allowed : String → String → String → Prop
  ready : Prop
  whole : Prop
  tokens : Option String → Option String → Prop
  tokens_none : tokens none none
  upkeep : Upkeep

namespace Contract

def Addresses (k : Contract) (id : String) : Prop :=
  ∃ user space key, k.allowed user space key ∧ id = docId user space key

def Keeps (k : Contract) (n : Nat) (id : String) (doc : Document) : Prop :=
  Kept k.allowed k.ready id doc ∧ k.upkeep.holds n doc

def Pairs (k : Contract) (n : Nat) (id : String) (d d' : Document) : Prop :=
  Document.Alike k.tokens d d' ∧ k.Keeps n id d

end Contract

/-- Engines that give a user the same documents, apart from tokens. The states are related by
`R n` when the data store has made `n` reads on behalf of agents, or fewer. -/
structure Engine.Alike (user : String) (k : Contract) (R : Nat → σ → τ → Prop) (e : Engine σ)
    (f : Engine τ) : Prop where
  mono : ∀ {m n}, m ≤ n → ∀ s t, R m s t → R n s t
  get : ∀ n space key, k.allowed user space key →
    Lockstep (R n) (k.Pairs n (docId user space key)) (e.get database (docId user space key))
      (f.get database (docId user space key))
  save : ∀ n now id d d', k.Pairs n id d d' →
    Lockstep (R n) (fun r r' => k.tokens (some r.rev) (some r'.rev)) (e.save now database id d)
      (f.save now database id d')
  delete : ∀ n space key, k.allowed user space key →
    Lockstep (R n) (fun _ _ => True) (e.delete database (docId user space key))
      (f.delete database (docId user space key))
  findKeys : ∀ n space,
    Lockstep (R n)
      (fun ds ds' => ds.map keyOf = ds'.map keyOf ∧ ∀ key ∈ ds.map keyOf, k.allowed user space key)
      (e.find database (spaceSelector user space) (some [Record.keyField]) findLimit)
      (f.find database (spaceSelector user space) (some [Record.keyField]) findLimit)
  findSpaces : ∀ n,
    Lockstep (R n) (fun ds ds' => ds.map spaceOf = ds'.map spaceOf)
      (e.find database (userSelector user) (some [Record.spaceField]) findLimit)
      (f.find database (userSelector user) (some [Record.spaceField]) findLimit)
  findWhole : k.whole → ∀ n space,
    Lockstep (R n) (List.Forall₂ fun d d' => ∃ id, k.Pairs n id d d')
      (e.find database (spaceSelector user space) none findLimit)
      (f.find database (spaceSelector user space) none findLimit)
  /-- Ensuring an index on one side keeps the relation. -/
  ensureIndex_left : ∀ n index s t, R n s t → R n (finalState (e.ensureIndex database index s)) t
  ensureIndex_right : ∀ n index s t, R n s t → R n s (finalState (f.ensureIndex database index t))

namespace Kept

variable {user id : String} {allowed : String → String → String → Prop} {ready : Prop}
  {doc : Document}

theorem insert_rev (h : Kept allowed ready id doc) (rev : String) :
    Kept allowed ready id (SortedMap.insert doc Document.revField (.str rev)) := by
  obtain ⟨user, space, key, hplace, hnamed, hfiled, hready⟩ := h
  exact ⟨user, space, key, hplace, hnamed, hfiled.insert_rev _,
    fun hr => (hready hr).insert_rev rev⟩

theorem counted (h : Kept allowed ready id doc) {agent : String} {now : Instant}
    {doc' : Document} (hcount : Record.countRead doc agent now = some doc')
    (hnow : ready → now.InRange) : Kept allowed ready id doc' := by
  obtain ⟨user, space, key, hplace, hnamed, hfiled, hready⟩ := h
  exact ⟨user, space, key, hplace, hnamed, hfiled.counted hcount,
    fun hr => (hready hr).counted hcount (hnow hr)⟩

theorem fresh {space key : String} (hplace : allowed user space key)
    (hnamed : allowed user (Record.named space) key) (value : Json) (metadata : Document)
    (agent : Option String) {now : Instant} (hnow : ready → now.InRange) :
    Kept allowed ready (docId user space key)
      (Record.fresh user space key value metadata agent now).toDocument :=
  ⟨user, space, key, hplace, hnamed, Record.filed_fresh .., fun hr =>
    Record.readable_toDocument (fun _ _ => rfl) (Record.timely_fresh _ _ _ _ _ _ (hnow hr))⟩

theorem updated (h : Kept allowed ready id doc) {r : Record} (hr : Record.Reads doc r)
    (value : Json) (agent : Option String) (metadata : Option Document) {now : Instant}
    (hnow : ready → now.InRange) :
    Kept allowed ready id (Service.updated r id value agent metadata now).toDocument := by
  obtain ⟨user, space, key, hplace, hnamed, hfiled, hready⟩ := h
  refine ⟨user, space, key, hplace, hnamed, hfiled.updated hr value agent metadata now, fun h => ?_⟩
  obtain ⟨r', hr', ht⟩ := hready h
  have heq : r' = r := hr'.unique hr
  subst heq
  exact Record.readable_toDocument (Record.extraUnknown_updated hr id value agent metadata now)
    (Record.timely_updated ht id value agent metadata (hnow h))

theorem text?_id (h : Kept allowed ready id doc) :
    doc.text? Document.idField = some id := by
  obtain ⟨user, space, key, hplace, hnamed, hfiled, hready⟩ := h
  simp [Document.text?, hfiled.id, Json.text?]

theorem allowed_of_shown {space : String} (h : Kept allowed ready id doc)
    (huser : doc.get? Record.userField = some (.str user))
    (hspace : doc.get? Record.spaceField = some (.str space)) : allowed user space (keyOf doc) := by
  obtain ⟨user', space', key, hplace, hnamed, hfiled, _⟩ := h
  rw [hfiled.keyOf_eq]
  have hshown := hfiled.user
  rw [huser] at hshown
  obtain rfl : user = user' := by simpa using hshown
  rcases hfiled.space with hs | hs
  · rw [hspace] at hs
    obtain rfl : space = space' := by simpa using hs
    exact hplace
  · rw [hspace] at hs
    obtain rfl : space = Record.named space' := by simpa using hs
    exact hnamed

end Kept

namespace Contract

variable {k : Contract} {n : Nat} {id : String} {d d' : Document}

theorem Keeps.addresses {doc : Document} (h : k.Keeps n id doc) : k.Addresses id := by
  obtain ⟨⟨user, space, key, hplace, _, hfiled, _⟩, _⟩ := h
  exact ⟨user, space, key, hplace, hfiled.id_eq⟩

theorem Pairs.mono {m : Nat} (h : k.Pairs m id d d') (hle : m ≤ n) : k.Pairs n id d d' :=
  ⟨h.1, h.2.1, k.upkeep.holds_of_le hle h.2.2⟩

theorem Pairs.insert_rev (h : k.Pairs n id d d') {a b : String} (hab : k.tokens (some a) (some b)) :
    k.Pairs n id (SortedMap.insert d Document.revField (.str a))
      (SortedMap.insert d' Document.revField (.str b)) :=
  ⟨h.1.insert_rev hab, h.2.1.insert_rev a, k.upkeep.insert_rev a h.2.2⟩

theorem Pairs.counted (h : k.Pairs n id d d') (hwithin : k.upkeep.within (n + 1)) (agent : String)
    {now : Instant} (hnow : k.ready → now.InRange) :
    (Record.countRead d agent now = none ∧ Record.countRead d' agent now = none) ∨
      ∃ c c', Record.countRead d agent now = some c ∧ Record.countRead d' agent now = some c' ∧
        k.Pairs (n + 1) id c c' := by
  obtain ⟨halike, hkept, hholds⟩ := h
  rcases Record.countRead_alike halike agent now with hfull | ⟨c, c', hc, hc', hcounted⟩
  · exact .inl hfull
  · exact .inr ⟨c, c', hc, hc', hcounted, hkept.counted hc hnow,
      k.upkeep.counted hwithin hholds hc⟩

end Contract

namespace Service

/-- States of the data store over related states of the engines, with any indexed namespaces. -/
def Over (R : σ → τ → Prop) (s : State σ) (t : State τ) : Prop := R s.store t.store

variable {R : σ → τ → Prop} {Q : α → β → Prop}

theorem lockstep_onStore {x : Action σ α} {y : Action τ β} (h : Lockstep R Q x y) :
    Lockstep (Over R) Q (onStore x) (onStore y) := by
  intro s t hst
  have hstep := h s.store t.store hst
  unfold onStore
  generalize x s.store = r, y t.store = q at hstep
  cases hstep with
  | ok hq hst' => exact .ok hq hst'
  | error hst' => exact .error hst'

theorem lockstep_attempt {x : Action σ α} {y : Action τ β} (h : Lockstep R Q x y) :
    Lockstep (Over R) (Agree Q) (attempt x) (attempt y) := by
  intro s t hst
  have hstep := h s.store t.store hst
  unfold attempt
  generalize x s.store = r, y t.store = q at hstep
  cases hstep with
  | ok hq hst' => exact .ok (.ok hq) hst'
  | error hst' => exact .ok .error hst'

theorem ensureIndexes_keeps {engine : Engine σ} {I : σ → Prop}
    (h : ∀ index s, I s → I (finalState (engine.ensureIndex database index s)))
    {s : State σ} (hs : I s.store) :
    ∃ s', ensureIndexes engine s = .ok () s' ∧ I s'.store := by
  have hone : ∀ index (s : State σ), I s.store →
      ∃ r s', attempt (engine.ensureIndex database index) s = .ok r s' ∧ I s'.store := by
    intro index s hs
    have hnext := h index s.store hs
    unfold attempt
    cases hx : engine.ensureIndex database index s.store <;> rw [hx] at hnext
    · exact ⟨_, _, rfl, hnext⟩
    · exact ⟨_, _, rfl, hnext⟩
  obtain ⟨r, s', hrun, hs'⟩ :=
    hone ⟨[Record.userField, Record.spaceField], some "idx-user-namespace"⟩ s hs
  refine ⟨s', ?_, hs'⟩
  simp [ensureIndexes, standardIndexes, hrun]

theorem ensureIndexed_keeps {engine : Engine σ} {I : σ → Prop}
    (h : ∀ index s, I s → I (finalState (engine.ensureIndex database index s)))
    (user space : String) {s : State σ} (hs : I s.store) :
    ∃ s', ensureIndexed engine user space s = .ok () s' ∧ I s'.store := by
  simp only [ensureIndexed, bind_apply, get_apply, DoneSet.ensure_apply, modifyGet_apply]
  cases s.indexed.contains (user, space) with
  | true => exact ⟨s, rfl, hs⟩
  | false =>
    obtain ⟨s', hrun, hs'⟩ := ensureIndexes_keeps h hs
    refine ⟨{ s' with indexed := s.indexed.insert (user, space) }, ?_, hs'⟩
    simp [hrun]

theorem lockstep_ensureIndexed {e : Engine σ} {f : Engine τ}
    (hleft : ∀ index s t, R s t → R (finalState (e.ensureIndex database index s)) t)
    (hright : ∀ index s t, R s t → R s (finalState (f.ensureIndex database index t)))
    (user space : String) :
    Lockstep (Over R) Eq (ensureIndexed e user space) (ensureIndexed f user space) :=
  .of_keeps
    (fun _ t => ensureIndexed_keeps (fun index store => hleft index store t.store) user space)
    (fun s _ => ensureIndexed_keeps (fun index store => hright index s.store store) user space)

end Service

end Keyspace
