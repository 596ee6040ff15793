import Keyspace.Proofs.InTurn
import Keyspace.Proofs.Service.Faults

set_option autoImplicit false

namespace Keyspace.Service

variable {now : Instant} {user space : String} {agent : Option String} {items : List BatchItem}
  {o o₁ o₂ : Observed Memory} {s s' : WatchedState}

def setItem (now : Instant) (user : String) (agent : Option String) (item : BatchItem) :
    Run (Observed Memory) Record :=
  set watched now user item.space item.key item.value agent item.metadata

theorem setMany_eq (now : Instant) (user : String) (items : List BatchItem)
    (agent : Option String) :
    setMany watched now user items agent = items.foldlM
      (fun count item => setItem now user agent item >>= fun _ => pure (count + 1)) 0 := rfl

/-- What comes of a batch of sets, with the state that it leaves. -/
inductive SetsInTurn (now : Instant) (user : String) (agent : Option String)
    (items : List BatchItem) (s : WatchedState) :
    EStateM.Result Failure WatchedState Nat → Prop where
  | all {records : List Record} {s' : WatchedState}
    (sets : InTurn (setItem now user agent) items records s s') :
    SetsInTurn now user agent items s (.ok items.length s')
  /-- The first set that fails is the last that makes a call, and changes no document. -/
  | fails {done rest : List BatchItem} {item : BatchItem} {records : List Record} {f : Failure}
    {s₁ s₂ : WatchedState} (items_eq : items = done ++ item :: rest)
    (sets : InTurn (setItem now user agent) done records s s₁)
    (failure : setItem now user agent item s₁ = .error f s₂)
    (same : SameDocuments s₁.store s₂.store) :
    SetsInTurn now user agent items s (.error f s₂)

theorem setsInTurn (now : Instant) (user : String) (items : List BatchItem)
    (agent : Option String) (s : WatchedState) :
    SetsInTurn now user agent items s (setMany watched now user items agent s) := by
  rcases InTurn.or_fails (setItem now user agent) items s with
    ⟨records, s', hsets⟩ | ⟨done, item, rest, records, s₁, f, s₂, rfl, hsets, hfail⟩
  · rw [setMany_eq, hsets.foldlM fun _ _ => rfl, List.foldl_add_const, hsets.length_eq,
      Nat.zero_add, Nat.one_mul]
    exact .all hsets
  · rw [setMany_eq, hsets.foldlM_stops (fun _ _ => rfl) hfail]
    exact .fails rfl hsets hfail (set_failed hfail)

structure Without (ids : List String) (o o' : Observed Memory) : Prop where
  present : ∀ id ∈ ids, (o.inner.find? database id).isSome = true
  left : ∀ db id, o'.inner.find? db id =
    if db = database ∧ id ∈ ids then none else o.inner.find? db id

theorem SameDocuments.without (h : SameDocuments o o₁) : Without [] o o₁ :=
  ⟨nofun, fun db id => by simpa using (Memory.SameDocuments.find?_eq h db id).symm⟩

theorem Without.append {ids ids' : List String} (h : Without ids o o₁) (h' : Without ids' o₁ o₂) :
    Without (ids ++ ids') o o₂ where
  present id hid := by
    rcases List.mem_append.1 hid with hid | hid
    · exact h.present id hid
    · have hpresent := h'.present id hid
      rw [h.left] at hpresent
      split at hpresent
      · cases hpresent
      · exact hpresent
  left db id := by
    rw [h'.left, h.left]
    by_cases hdb : db = database <;> by_cases hid : id ∈ ids <;> by_cases hid' : id ∈ ids' <;>
      simp [hdb, hid, hid']

def deletedIds (user space : String) (keys : List String) (found : List Bool) : List String :=
  ((keys.zip found).filter (·.2)).map fun d => docId user space d.1

theorem deletedIds_cons (user space key : String) (keys : List String) (b : Bool)
    (found : List Bool) :
    deletedIds user space (key :: keys) (b :: found) =
      deletedIds user space [key] [b] ++ deletedIds user space keys found := by
  cases b <;> simp [deletedIds]

theorem without_delete {key : String} {found : Bool}
    (h : delete watched user space key s = .ok found s') :
    Without (deletedIds user space [key] [found]) s.store s'.store := by
  rcases delete_ok h with ⟨rfl, hdelete⟩ | ⟨rfl, e, hdelete, -⟩
  · obtain ⟨hpresent, hleft⟩ := remove_ok hdelete
    exact ⟨by simpa [deletedIds] using hpresent, by simpa [deletedIds] using hleft⟩
  · exact SameDocuments.without (remove_failed hdelete)

theorem without_deletes {keys : List String} {found : List Bool}
    (h : InTurn (delete watched user space) keys found s s') :
    Without (deletedIds user space keys found) s.store s'.store := by
  induction h with
  | nil s => exact SameDocuments.without (refl s.store)
  | cons hfirst _ ih =>
    rw [deletedIds_cons]
    exact (without_delete hfirst).append ih

theorem foldl_found (found : List Bool) (count : Nat) :
    found.foldl (fun count found => if found then count + 1 else count) count =
      count + found.count true := by
  induction found generalizing count with
  | nil => rfl
  | cons b found ih => cases b <;> simp [ih, Nat.add_right_comm, Nat.add_assoc]

/-- What comes of a clearing, with the state that it leaves. -/
inductive ClearsInTurn (user space : String) (s : WatchedState) :
    EStateM.Result Failure WatchedState Nat → Prop where
  | unlisted {f : Failure} {s' : WatchedState}
    (listing : listKeys watched user space none s = .error f s')
    (same : SameDocuments s.store s'.store) :
    ClearsInTurn user space s (.error f s')
  | all {keys : List String} {found : List Bool} {s₀ s' : WatchedState}
    (listing : listKeys watched user space none s = .ok keys s₀)
    (deletions : InTurn (delete watched user space) keys found s₀ s')
    (without : Without (deletedIds user space keys found) s.store s'.store) :
    ClearsInTurn user space s (.ok (found.count true) s')
  | fails {keys done rest : List String} {key : String} {found : List Bool} {e : StoreError}
    {s₀ s₁ : WatchedState} {store : Observed Memory}
    (listing : listKeys watched user space none s = .ok keys s₀)
    (keys_eq : keys = done ++ key :: rest)
    (deletions : InTurn (delete watched user space) done found s₀ s₁)
    (failure : watched.delete database (docId user space key) s₁.store = .error e store)
    (other : e.isNotFound = false)
    (without : Without (deletedIds user space done found) s.store store) :
    ClearsInTurn user space s (.error (.store e) { s₁ with store := store })

theorem clearsInTurn (user space : String) (s : WatchedState) :
    ClearsInTurn user space s (clear watched user space s) := by
  have hlisted := (runs_listKeys_watched user space none s).1.1
  cases hlisting : listKeys watched user space none s with
  | error f s₀ =>
    rw [hlisting] at hlisted
    rw [clear, bind_eq_error_iff.2 (.inl hlisting)]
    exact .unlisted hlisting hlisted
  | ok keys s₀ =>
    -- A listing changes nothing, so what is deleted was there before it.
    rw [hlisting] at hlisted
    replace hlisted : Without [] s.store s₀.store := SameDocuments.without hlisted
    rcases InTurn.or_fails (delete watched user space) keys s₀ with
      ⟨found, s', hdeletions⟩ | ⟨done, key, rest, found, s₁, f, s₂, rfl, hdeletions, hfail⟩
    · rw [clear, bind_eq_ok_iff.2 ⟨_, _, hlisting, hdeletions.foldlM (fun _ _ => rfl) 0⟩,
        foldl_found, Nat.zero_add]
      exact .all hlisting hdeletions (hlisted.append (without_deletes hdeletions))
    · obtain ⟨e, store, hdelete, hother, rfl, rfl⟩ := delete_error hfail
      rw [clear, bind_eq_error_iff.2
        (.inr ⟨_, _, hlisting, hdeletions.foldlM_stops (fun _ _ => rfl) hfail rest 0⟩)]
      refine .fails hlisting rfl hdeletions hdelete hother ?_
      have hleft := (hlisted.append (without_deletes hdeletions)).append
        (SameDocuments.without (remove_failed hdelete))
      simpa using hleft

/-- Batches of sets and clearings apply a prefix of their steps, whatever is made to fail. -/
theorem batches_in_turn (now : Instant) (user space : String) (items : List BatchItem)
    (agent : Option String) (s : WatchedState) :
    SetsInTurn now user agent items s (setMany watched now user items agent s) ∧
      ClearsInTurn user space s (clear watched user space s) :=
  ⟨setsInTurn now user items agent s, clearsInTurn user space s⟩

/-- Of three sets the second fails to save its value, and the third makes no call. -/
example :
    let outcome := setMany watched Instant.epoch "u"
      [⟨"n", "a", .null, none⟩, ⟨"n", "b", .null, none⟩, ⟨"n", "c", .null, none⟩] none
      (start (Observed.start Memory.empty { save := [none, some (.backend 503 "busy")] }))
    error? outcome = some (.store (.backend 503 "busy")) ∧
      (finalState outcome).store.calls.drop 1 =
        [.get database "u:n:YQ==", .save database "u:n:YQ==",
          .get database "u:n:Yg==", .save database "u:n:Yg=="] := by
  decide +kernel

end Keyspace.Service
