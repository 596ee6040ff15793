import Keyspace.Proofs.Engine.Command
import Keyspace.Engine.Firestore
import Keyspace.Proofs.Http.Shared

set_option autoImplicit false

namespace Keyspace.Firestore

open Engine (Command)
open Http (Exchange Method Network Response Shared Url)

variable {ν α : Type} {n : Network ν} {others : List (Exchange ν) → ν → ν}
  {f : Firestore (Shared ν)} {db id : String} {s s' : Shared ν} {e : StoreError}

def shared (f : Firestore ν) (others : List (Exchange ν) → ν → ν) : Firestore (Shared ν) :=
  { f with client := f.client.shared others }

theorem network_shared (f : Firestore ν) (others : List (Exchange ν) → ν → ν) :
    (f.shared others).client.network = f.client.network.shared others := rfl

def Extends (n : Network ν) (s s' : Shared ν) : Prop :=
  ∃ es, s'.exchanges = s.exchanges ++ es ∧ ∀ x ∈ es, x.Of n

instance : IsPreorder (Shared ν) (Extends n) where
  refl s := ⟨[], by simp, by simp⟩
  trans := by
    rintro s s' s'' ⟨es, hlog, hof⟩ ⟨es', hlog', hof'⟩
    refine ⟨es ++ es', by rw [hlog', hlog, List.append_assoc], fun x hx => ?_⟩
    exact (List.mem_append.1 hx).elim (hof x) (hof' x)

/-- An action that never reports something missing. -/
abbrev Plainly (n : Network ν) (x : Action (Shared ν) α) : Prop :=
  Runs (Extends n) StoreError.Plain x

/-- The service answers a request for a document that it is missing. -/
inductive Denies (f : Firestore (Shared ν)) (db id : String) (x : Exchange ν) : Prop where
  | get {r : Response} (answers : x.Answers f.client .get (f.documentUrl db id) none r)
    (missing : r.isNotFound = true)
  | delete {r : Response}
    (answers : x.Answers f.client .delete
      ((f.documentUrl db id).withField "currentDocument.exists" "true") none r)
    (missing : r.isNotFound = true)

theorem Denies.reportsMissing {x : Exchange ν} (h : Denies f db id x) : x.ReportsMissing := by
  cases h with
  | get answers missing => exact ⟨_, answers.reply, missing⟩
  | delete answers missing => exact ⟨_, answers.reply, missing⟩

theorem plainly_send (hc : f.client.network = n.shared others) {method : Method} {url : Url}
    {body : Option Json} : Plainly n (f.send method url body) := by
  intro s
  have hsent := Shared.sent hc method url body s
  rw [send]
  generalize f.client.send method url body s = outcome at hsent
  cases hsent with
  | refused plain => exact ⟨refl s, fun _ _ h => by cases h; exact plain⟩
  | dropped of request reply plain =>
    exact ⟨⟨[_], rfl, by simpa using of⟩, fun _ _ h => by cases h; exact plain⟩
  | answered of answers => exact ⟨⟨[_], rfl, by simpa using of⟩, nofun⟩

theorem send_made (hc : f.client.network = n.shared others) {method : Method} {url : Url}
    {body : Option Json} {r : Response} (h : f.send method url body s = .ok r s') :
    ∃ x r', s' = s.record x ∧ x.Answers f.client method url body r' ∧ r = r'.arriving method := by
  have hsent := Shared.sent hc method url body s
  rw [send] at h
  rw [h] at hsent
  cases hsent with
  | answered of answers => exact ⟨_, _, rfl, answers, rfl⟩

theorem answered_of_isNotFound (hc : f.client.network = n.shared others) {method : Method}
    {url : Url} {body : Option Json} {handle : Response → Action (Shared ν) α}
    (h : (f.send method url body >>= handle) s = .error e s') (he : e.isNotFound = true) :
    ∃ x r, x.Answers f.client method url body r ∧
      handle (r.arriving method) (s.record x) = .error e s' := by
  rcases bind_eq_error_iff.1 h with hfailed | ⟨_, _, hsend, hhandle⟩
  · exact absurd ((plainly_send hc s).2 e s' hfailed) (StoreError.not_plain he)
  · obtain ⟨x, r, rfl, hanswers, rfl⟩ := send_made hc hsend
    exact ⟨x, r, hanswers, hhandle⟩

theorem plainly_toError (r : Response) : Plainly n (throw r.toError : Action (Shared ν) α) :=
  .throw ⟨rfl, rfl⟩

theorem plainly_read {r : Response} {read? : Json → Option α} : Plainly n (r.read read?) := by
  unfold Response.read
  split
  · exact .pure
  · exact .throw ⟨rfl, rfl⟩

theorem plainly_orThrow {result : Except StoreError α} (h : ∀ e, result = .error e → e.Plain) :
    Plainly n (Engine.orThrow result) := by
  cases result with
  | ok a => exact .pure
  | error e => exact .throw (h e rfl)

theorem Resource.plain_of_toDocument {r : Resource} (h : r.toDocument = .error e) : e.Plain := by
  unfold Resource.toDocument at h
  split at h
  · cases h
  · cases h
    exact ⟨rfl, rfl⟩

theorem Resource.plain_of_mapM {rs : List Resource} (h : rs.mapM Resource.toDocument = .error e) :
    e.Plain := by
  induction rs with
  | nil => cases h
  | cons r rs ih =>
    rw [List.mapM_cons] at h
    cases hdoc : r.toDocument with
    | error e' =>
      rw [hdoc] at h
      cases h
      exact plain_of_toDocument hdoc
    | ok d =>
      rw [hdoc] at h
      cases hdocs : rs.mapM Resource.toDocument with
      | error e' =>
        rw [hdocs] at h
        cases h
        exact ih hdocs
      | ok ds =>
        rw [hdocs] at h
        cases h

theorem plain_of_validate {selector : Selector} (h : selector.validate = .error e) : e.Plain := by
  unfold Selector.validate at h
  split at h
  · cases h
    exact ⟨rfl, rfl⟩
  · cases h

section Operations

variable (hc : f.client.network = n.shared others)

include hc

theorem plainly_save (db id : String) (doc : Document) : Plainly n (f.save db id doc) := by
  refine (plainly_send hc).bind fun r => ?_
  split
  · exact plainly_read.bind fun _ => .pure
  · exact plainly_toError r

theorem plainly_pagesFrom (db : String) (pages : Nat) (token : Option String) :
    Plainly n (f.pagesFrom db pages token) := by
  induction pages generalizing token with
  | zero => exact .throw ⟨rfl, rfl⟩
  | succ pages ih =>
    refine (plainly_send hc).bind fun r => ?_
    split
    · exact plainly_toError r
    · refine plainly_read.bind fun page => ?_
      refine (plainly_orThrow fun _ => Resource.plain_of_mapM).bind fun docs => ?_
      split
      · exact .pure
      · exact (ih _).bind fun _ => .pure

theorem plainly_listAll (db : String) : Plainly n (f.listAll db) := fun s =>
  plainly_pagesFrom hc db (f.client.network.horizon s) none s

theorem plainly_query (db : String) (selector : Selector) (fields : Option (List String))
    (limit : Nat) : Plainly n (f.query db selector fields limit) := by
  refine (plainly_send hc).bind fun r => ?_
  split
  · exact plainly_toError r
  · refine plainly_read.bind fun items => ?_
    refine (plainly_orThrow fun _ => Resource.plain_of_mapM).bind fun docs => ?_
    split <;> exact .pure

theorem plainly_find (db : String) (selector : Selector) (fields : Option (List String))
    (limit : Nat) : Plainly n (f.find db selector fields limit) := by
  refine (plainly_orThrow fun _ => plain_of_validate).bind fun _ => ?_
  exact (plainly_query hc db selector fields limit).fallback
    ((plainly_listAll hc db).bind fun _ => .pure)

theorem get_missing (h : f.get db id s = .error e s') (he : e.isNotFound = true) :
    ∃ x, s' = s.record x ∧ Denies f db id x := by
  have hplain := StoreError.not_plain he
  obtain ⟨x, r, hanswers, h⟩ := answered_of_isNotFound hc h he
  rw [Response.isNotFound_arriving] at h
  split at h
  · rename_i hmissing
    cases h
    exact ⟨x, rfl, .get hanswers hmissing⟩
  · split at h
    · have hread : Plainly n (do
          Engine.orThrow (← (r.arriving .get).read Resource.ofJson?).toDocument) :=
        plainly_read.bind fun _ => plainly_orThrow fun _ => Resource.plain_of_toDocument
      exact absurd ((hread _).2 e s' h) hplain
    · exact absurd ((plainly_toError (n := n) _ _).2 e s' h) hplain

theorem delete_missing (h : f.delete db id s = .error e s') (he : e.isNotFound = true) :
    ∃ x, s' = s.record x ∧ Denies f db id x := by
  have hplain := StoreError.not_plain he
  obtain ⟨x, r, hanswers, h⟩ := answered_of_isNotFound hc h he
  rw [Response.isNotFound_arriving] at h
  split at h
  · rename_i hmissing
    cases h
    exact ⟨x, rfl, .delete hanswers hmissing⟩
  · split at h
    · cases h
    · exact absurd ((plainly_toError (n := n) _ _).2 e s' h) hplain

/-- What has happened when a command reports something missing. -/
theorem missing_of_command {command : Command}
    (h : command.perform (Engine.firestore f) s = .error e s') (he : e.isNotFound = true) :
    ∃ db id x, s' = s.record x ∧ Denies f db id x := by
  have hplain := StoreError.not_plain he
  cases command with
  | get db id =>
    have hget : f.get db id s = .error e s' := Command.error_of_map h
    exact ⟨db, id, get_missing hc hget he⟩
  | save now db id doc =>
    exact absurd ((plainly_save hc db id doc s).2 e s' (Command.error_of_map h)) hplain
  | delete db id =>
    have hdelete : f.delete db id s = .error e s' := Command.error_of_map h
    exact ⟨db, id, delete_missing hc hdelete he⟩
  | listAll db =>
    exact absurd ((plainly_listAll hc db s).2 e s' (Command.error_of_map h)) hplain
  | find db selector fields limit =>
    exact absurd ((plainly_find hc db selector fields limit s).2 e s' (Command.error_of_map h))
      hplain
  | ensureIndex db index => cases h

end Operations

end Keyspace.Firestore
