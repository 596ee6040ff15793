import Keyspace.Proofs.DocId
import Keyspace.Proofs.Engine.Observed
import Keyspace.Proofs.Service.Kept
import Keyspace.Proofs.Service.Observed
import Keyspace.Proofs.Service.View

set_option autoImplicit false

namespace Keyspace.Service

/-- An id that starts with a user and a colon. -/
def OfUser (user id : String) : Prop := (user ++ ":").toList <+: id.toList

instance (user id : String) : Decidable (OfUser user id) :=
  inferInstanceAs (Decidable ((user ++ ":").toList <+: id.toList))

/-- A call about the data store's database that names no ids but the user's, and asks for no
documents but those that show the user. -/
def Confined (user : String) : Call → Prop
  | .get db id | .save db id | .delete db id => db = database ∧ OfUser user id
  | .find db selector _ _ => db = database ∧ selector.get? Record.userField = some (.str user)
  | .ensureIndex db _ => db = database
  | .listAll _ => False

/-- The calls made since some others are all confined. -/
def ConfinedSince (user : String) (before calls : List Call) : Prop :=
  ∃ more, calls = before ++ more ∧ ∀ call ∈ more, Confined user call

theorem ConfinedSince.refl (user : String) (calls : List Call) : ConfinedSince user calls calls :=
  ⟨[], by simp, by simp⟩

theorem ConfinedSince.call {user : String} {before calls : List Call} {call : Call}
    (h : ConfinedSince user before calls) (hcall : Confined user call) :
    ConfinedSince user before (calls ++ [call]) := by
  obtain ⟨more, rfl, hmore⟩ := h
  refine ⟨more ++ [call], by simp, fun other hother => ?_⟩
  rcases List.mem_append.1 hother with hother | hother
  · exact hmore other hother
  · exact List.mem_singleton.1 hother ▸ hcall

def placesUnder (user : String) (other space key : String) : Prop :=
  OfUser user (docId other space key)

variable {user id : String} {doc : Document}

theorem ofUser_docId (user space key : String) : OfUser user (docId user space key) :=
  ⟨(space ++ ":" ++ Text.Base64.urlSafe.encode key).toList, by simp [docId, String.toList_append]⟩

/-- The id of a user's key begins with the user also when it is the id of another user's key, in
whatever namespace that document comes to show. -/
theorem placesUnder_of_docId {space key other space' key' : String}
    (h : docId user space key = docId other space' key') :
    placesUnder user other space' key' ∧ placesUnder user other (Record.named space') key' := by
  have hplace : placesUnder user other space' key' := by
    rw [placesUnder, ← h]
    exact ofUser_docId ..
  refine ⟨hplace, ?_⟩
  by_cases hempty : space' = ""
  · -- What stands before the key is the other user with a colon behind, so the user's colon is in
    -- it.
    have hparts := (docId_inj.1 h).2
    rw [hempty, String.append_empty] at hparts
    have hcolon : (user ++ ":").toList <+: (other ++ ":").toList :=
      ⟨space.toList, by rw [← hparts]; simp [String.toList_append]⟩
    exact hcolon.trans (ofUser_docId other (Record.named space') key')
  · rw [Record.named_of_ne hempty]
    exact hplace

abbrev anywhere (_ _ _ : String) : Prop := True

theorem kept_placesUnder {space key : String}
    (h : Kept anywhere False (docId user space key) doc) :
    Kept (placesUnder user) False (docId user space key) doc := by
  obtain ⟨other, space', key', -, -, hfiled, hready⟩ := h
  obtain ⟨hplace, hnamed⟩ := placesUnder_of_docId hfiled.id_eq
  exact ⟨other, space', key', hplace, hnamed, hfiled, hready⟩

theorem kept_placesUnder_of_shown (h : Kept anywhere False id doc)
    (hshown : doc.get? Record.userField = some (.str user)) :
    Kept (placesUnder user) False id doc := by
  obtain ⟨other, space, key, -, -, hfiled, hready⟩ := h
  rw [hfiled.user] at hshown
  obtain rfl : other = user := by simpa using hshown
  exact ⟨other, space, key, ofUser_docId .., ofUser_docId .., hfiled, hready⟩

theorem kept_anywhere {allowed : String → String → String → Prop}
    (h : Kept allowed False id doc) : Kept anywhere False id doc := by
  obtain ⟨other, space, key, -, -, hfiled, hready⟩ := h
  exact ⟨other, space, key, trivial, trivial, hfiled, hready⟩

theorem ofUser_of_kept (h : Kept (placesUnder user) False id doc) : OfUser user id := by
  obtain ⟨other, space, key, hplace, -, hfiled, -⟩ := h
  exact hfiled.id_eq ▸ hplace

abbrev Shelved (m : Memory) : Prop := SameKept anywhere False m m

/-- Memories with the same documents, all of them filed, with the same failures to come of all calls
but those about indexes, and nothing but confined calls behind them since some others. -/
structure SameConfined (user : String) (before : List Call) (o o' : Observed Memory) : Prop where
  kept : SameKept anywhere False o.inner o'.inner
  schedule : { o.schedule with ensureIndex := [] } = { o'.schedule with ensureIndex := [] }
  left : ConfinedSince user before o.calls
  right : ConfinedSince user before o'.calls

def confinement (user : String) : Contract :=
  { ofUser user False with allowed := placesUnder user }

variable {α β : Type} {before : List Call} {Q : α → β → Prop}

theorem sameConfined_iff {o o' : Observed Memory} :
    SameConfined user before o o' ↔ Observed.Beside (SameKept anywhere False)
      (fun cs cs' => ConfinedSince user before cs ∧ ConfinedSince user before cs') o o' :=
  ⟨fun h => ⟨h.kept, h.schedule, h.left, h.right⟩,
    fun h => ⟨h.inner, h.schedule, h.calls.1, h.calls.2⟩⟩

theorem lockstep_observe (call : Call) {x : Action Memory α} {y : Action Memory β}
    (hcall : Confined user call) (hother : ∀ db index, call ≠ .ensureIndex db index)
    (h : Lockstep (SameKept anywhere False) Q x y) :
    Lockstep (SameConfined user before) Q (Observed.observe call x) (Observed.observe call y) :=
  (Observed.lockstep_observe call hother
    (fun _ _ hcs => ⟨hcs.1.call hcall, hcs.2.call hcall⟩) h).mono
      (fun _ _ => sameConfined_iff.1) (fun _ _ => sameConfined_iff.2)

theorem observe_ensureIndex_left {o o' : Observed Memory} (h : SameConfined user before o o')
    (index : Index) :
    SameConfined user before (finalState (watched.ensureIndex database index o)) o' :=
  sameConfined_iff.2 <| (sameConfined_iff.1 h).index_left
    ((SameKept.engineAlike user anywhere False).ensureIndex_left 0 index)
    (fun _ _ hcs => ⟨hcs.1.call rfl, hcs.2⟩)

theorem SameConfined.symm {o o' : Observed Memory} (h : SameConfined user before o o') :
    SameConfined user before o' o where
  kept := ⟨h.kept.same.symm, h.kept.same ▸ h.kept.kept, h.kept.same ▸ h.kept.tokens⟩
  schedule := h.schedule.symm
  left := h.right
  right := h.left

theorem get?_user_spaceSelector (user space : String) :
    (spaceSelector user space).get? Record.userField = some (.str user) := by
  rw [spaceSelector, SortedMap.get?_ofList]
  rfl

theorem engineAlike_confined (user : String) (before : List Call) :
    Engine.Alike user (confinement user) (fun _ => SameConfined user before) watched watched := by
  have hmemory := SameKept.engineAlike user anywhere False
  refine
    { mono := fun _ _ _ h => h
      get := fun n space key _ => ?_
      save := fun n now id d d' hpair => ?_
      delete := fun n space key _ => ?_
      findKeys := fun n space => ?_
      findSpaces := fun n => ?_
      findWhole := fun _ n space => ?_
      ensureIndex_left := fun _ index o o' h => observe_ensureIndex_left h index
      ensureIndex_right := fun _ index o o' h => (observe_ensureIndex_left h.symm index).symm }
  · refine lockstep_observe (.get ..) ⟨rfl, ofUser_docId ..⟩ (by simp) ?_
    refine (hmemory.get n space key trivial).imp fun d d' hpair => ?_
    exact ⟨hpair.1, kept_placesUnder hpair.2.1, trivial⟩
  · exact lockstep_observe (.save ..) ⟨rfl, ofUser_of_kept hpair.2.1⟩ (by simp)
      (hmemory.save n now id d d' ⟨hpair.1, kept_anywhere hpair.2.1, trivial⟩)
  · exact lockstep_observe (.delete ..) ⟨rfl, ofUser_docId ..⟩ (by simp)
      (hmemory.delete n space key trivial)
  · refine lockstep_observe (.find ..) ⟨rfl, get?_user_spaceSelector user space⟩ (by simp) ?_
    exact (hmemory.findKeys n space).imp fun ds ds' h => ⟨h.1, fun _ _ => ofUser_docId ..⟩
  · exact lockstep_observe (.find ..) ⟨rfl, rfl⟩ (by simp) (hmemory.findSpaces n)
  · refine lockstep_observe (.find ..) ⟨rfl, get?_user_spaceSelector user space⟩ (by simp) ?_
    intro m m' h
    -- What is found shows the user, which the listing of whole documents does not say by itself.
    rw [Memory.find_run m database (validate_spaceSelector user space),
      Memory.find_run m' database (validate_spaceSelector user space), h.documents_eq]
    refine .ok (List.forall₂_same.2 fun doc hdoc => ?_) h
    obtain ⟨hmem, haccepts⟩ := List.mem_filter.1 (List.mem_of_mem_take hdoc)
    obtain ⟨id, stored, hstored, rfl⟩ := Memory.mem_documents_iff.1 hmem
    exact ⟨id, h.alike_refl hstored,
      kept_placesUnder_of_shown (h.kept id stored hstored) (spaceSelector_accepts.1 haccepts).1,
      trivial⟩

theorem Operation.within_placesUnder (operation : Operation) (user : String) :
    operation.Within (placesUnder user user) := by
  cases operation <;> simp [Operation.Within, placesUnder, ofUser_docId]

/-- A request of a user makes confined calls only, and leaves what is filed filed. -/
theorem outcome_confined {s : WatchedState} (h : Shelved s.store.inner) (r : Request) :
    ConfinedSince r.user s.store.calls (outcome watched r s).2.store.calls ∧
      Shelved (outcome watched r s).2.store.inner := by
  have hstart : SameConfined r.user s.store.calls s.store s.store :=
    ⟨h, rfl, .refl .., .refl ..⟩
  have hafter := (outcome_alike (n := 0) (engineAlike_confined r.user s.store.calls) nofun
    (fun _ => trivial) (r.operation.within_placesUnder r.user) r.operation.writes_filing trivial
    hstart).2
  exact ⟨hafter.left, hafter.kept⟩

theorem shelved_ensureIndexes {s : WatchedState} (h : Shelved s.store.inner) :
    Shelved (finalState (ensureIndexes watched s)).store.inner := by
  have hone : ∀ index (o : Observed Memory), Shelved o.inner →
      Shelved (finalState (watched.ensureIndex database index o)).inner := by
    intro index o ho
    have hsame : SameConfined "" o.calls o o := ⟨ho, rfl, .refl .., .refl ..⟩
    obtain ⟨-, hkept, htokens⟩ := (observe_ensureIndex_left hsame index).kept
    exact ⟨rfl, hkept, htokens⟩
  obtain ⟨s', hrun, hs'⟩ := ensureIndexes_keeps hone h
  rw [hrun]
  exact hs'

/-- The states that requests of any users lead to from an empty memory, while any calls are made to
fail and the indexes are ensured at any time. -/
inductive Reached : WatchedState → Prop where
  | start (schedule : Schedule) : Reached (start (Observed.start Memory.empty schedule))
  | request {s : WatchedState} (h : Reached s) (r : Request) : Reached (outcome watched r s).2
  | indexes {s : WatchedState} (h : Reached s) : Reached (finalState (ensureIndexes watched s))
  | faults {s : WatchedState} (h : Reached s) (schedule : Schedule) :
    Reached { s with store := { s.store with schedule := schedule } }

theorem Reached.shelved {s : WatchedState} (h : Reached s) : Shelved s.store.inner := by
  induction h with
  | start schedule =>
    refine ⟨rfl, fun id stored h => ?_, fun id stored h => ?_⟩ <;>
      simp [Service.start, Observed.start, Memory.empty, Memory.database] at h
  | request _ r ih => exact (outcome_confined ih r).2
  | indexes _ ih => exact shelved_ensureIndexes ih
  | faults _ schedule ih => exact ih

end Keyspace.Service
