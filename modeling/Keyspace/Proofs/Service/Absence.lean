import Keyspace.Proofs.Engine.CouchDb.Absence
import Keyspace.Proofs.Engine.CouchDb.Caches
import Keyspace.Proofs.Engine.Firestore.Absence
import Keyspace.Proofs.Service.Calls

set_option autoImplicit false

namespace Keyspace

open Http (Exchange Script Shared)

variable {σ ν : Type}

def Told (log : σ → List (Exchange ν)) (s s' : σ) : Prop :=
  ∃ es, log s' = log s ++ es ∧ ∃ x ∈ es, x.ReportsMissing

/-- If a command reports something missing, one of the answers to its requests has said so. -/
def Engine.Warranted (engine : Engine σ) (log : σ → List (Exchange ν)) (command : Engine.Command)
    (s : σ) : Prop :=
  ∀ e s', command.perform engine s = .error e s' → e.isNotFound = true → Told log s s'

namespace Service

/-- If the data store answers that a key has no record, or none to delete, then the document of the
key was denied between the states of the engine. -/
structure AbsenceTold (engine : Engine σ) (denied : String → σ → σ → Prop) (user space key : String)
    (s : State σ) : Prop where
  get : ∀ now agent s', get engine now user space key agent s = .ok none s' →
    denied (docId user space key) s.store s'.store
  delete : ∀ s', delete engine user space key s = .ok false s' →
    denied (docId user space key) s.store s'.store

def DeniedByFirestore (f : Firestore (Shared ν)) (id : String) (s s' : Shared ν) : Prop :=
  ∃ x, s' = s.record x ∧ Firestore.Denies f database id x

def DeniedByCouchDb (c : CouchDb (Shared ν)) (id : String) (t t' : CouchDb.State (Shared ν)) :
    Prop :=
  ∃ es x, t'.network.exchanges = t.network.exchanges ++ (es ++ [x]) ∧
    CouchDb.Denies c database id x

theorem warranted_firestore (f : Firestore ν) (others : List (Exchange ν) → ν → ν)
    (command : Engine.Command) (s : Shared ν) :
    (Engine.firestore (f.shared others)).Warranted Shared.exchanges command s := by
  intro e s' h he
  obtain ⟨db, id, x, rfl, hdenies⟩ :=
    Firestore.missing_of_command (Firestore.network_shared f others) h he
  exact ⟨[x], rfl, x, List.mem_singleton_self x, hdenies.reportsMissing⟩

theorem warranted_couchDb_iff (c : CouchDb ν) (others : List (Exchange ν) → ν → ν)
    (command : Engine.Command) (t : CouchDb.State (Shared ν)) :
    (Engine.couchDb (c.shared others)).Warranted (·.network.exchanges) command t ↔
      ¬ ∃ db id es, command = .delete db id ∧
        CouchDb.FindsUnversioned (c.shared others) db id t es ∧ ∀ y ∈ es, ¬ y.ReportsMissing := by
  constructor
  · rintro hwarranted ⟨db, id, es, rfl, ⟨x, t', hlook, hlog, hfinds⟩, hsilent⟩
    have hdelete : Engine.Command.perform (Engine.couchDb (c.shared others)) (.delete db id) t =
        .error (.notFound db id) t' := by
      have hrun := CouchDb.delete_of_lookUpRevision hlook
      simp only [Engine.Command.perform, Engine.couchDb, bind_apply, hrun]
    obtain ⟨es', hlog', y, hy, hmissing⟩ := hwarranted _ _ hdelete rfl
    rw [← List.append_cancel_left (hlog.symm.trans hlog')] at hy
    rcases List.mem_append.1 hy with hy | hy
    · exact hsilent y hy hmissing
    · rw [List.mem_singleton.1 hy] at hmissing
      exact hfinds.not_reportsMissing hmissing
  · intro hversioned e t' h he
    obtain ⟨db, id, es, x, hmade, hdenies | ⟨rfl, hlook, hfinds⟩⟩ :=
      CouchDb.missing_of_command (CouchDb.network_shared c others) h he
    · exact ⟨_, hmade.log, x, by simp, hdenies.reportsMissing⟩
    · by_cases hsaid : ∃ y ∈ es, y.ReportsMissing
      · obtain ⟨y, hy, hmissing⟩ := hsaid
        exact ⟨_, hmade.log, y, by simp [hy], hmissing⟩
      · refine absurd ⟨db, id, es, rfl, ⟨x, t', hlook, hmade.log, hfinds⟩, fun y hy hmissing => ?_⟩
          hversioned
        exact hsaid ⟨y, hy, hmissing⟩

theorem absenceTold_firestore (f : Firestore ν) (others : List (Exchange ν) → ν → ν)
    (user space key : String) (s : State (Shared ν)) :
    AbsenceTold (Engine.firestore (f.shared others)) (DeniedByFirestore (f.shared others)) user
      space key s where
  get now agent s' h := by
    obtain ⟨_, hfound, -⟩ | ⟨-, e, hget, hmissing⟩ := lookup_ok (lookup_of_get h)
    · cases hfound
    · exact Firestore.get_missing (Firestore.network_shared f others) hget hmissing
  delete s' h := by
    obtain ⟨hfound, -⟩ | ⟨-, e, hdelete, hmissing⟩ := delete_ok h
    · cases hfound
    · exact Firestore.delete_missing (Firestore.network_shared f others) hdelete hmissing

theorem absenceTold_couchDb_iff (c : CouchDb ν) (others : List (Exchange ν) → ν → ν)
    (user space key : String) (s : State (CouchDb.State (Shared ν))) :
    AbsenceTold (Engine.couchDb (c.shared others)) (DeniedByCouchDb (c.shared others)) user space
        key s ↔
      ¬ ∃ es, CouchDb.FindsUnversioned (c.shared others) database (docId user space key) s.store
        es := by
  have hc := CouchDb.network_shared c others
  constructor
  · rintro htold ⟨es, x, t', hlook, hlog, hfinds⟩
    have hdelete : delete (Engine.couchDb (c.shared others)) user space key s =
        .ok false { s with store := t' } := by
      have hrun := CouchDb.delete_of_lookUpRevision hlook
      simp only [delete, attempt, Engine.couchDb, bind_apply, hrun]
      rfl
    obtain ⟨es', y, hlog', hdenies⟩ := htold.delete _ hdelete
    have hlast := List.append_cancel_left (hlog.symm.trans hlog')
    obtain rfl : x = y := by simpa using congrArg List.getLast? hlast
    exact hfinds.not_reportsMissing hdenies.reportsMissing
  · intro hversioned
    refine ⟨fun now agent s' h => ?_, fun s' h => ?_⟩
    · obtain ⟨_, hfound, -⟩ | ⟨-, e, hget, hmissing⟩ := lookup_ok (lookup_of_get h)
      · cases hfound
      · obtain ⟨es, x, r, hmade, hanswers, hgone, -⟩ := CouchDb.get_missing hc hget hmissing
        exact ⟨es, x, hmade.log, .get hanswers hgone⟩
    · obtain ⟨hfound, -⟩ | ⟨-, e, hdelete, hmissing⟩ := delete_ok h
      · cases hfound
      · obtain ⟨es, x, hmade, hdenies | ⟨hlook, hfinds⟩⟩ :=
          CouchDb.delete_missing hc hdelete hmissing
        · exact ⟨es, x, hmade.log, hdenies⟩
        · exact absurd ⟨es, x, _, hlook, hmade.log, hfinds⟩ hversioned

/-- Something is reported missing only where a server has said so, except that CouchDB's document is
reported missing when it is to be deleted and its revision is not named. -/
theorem absence_told (f : Firestore ν) (c : CouchDb ν) (others : List (Exchange ν) → ν → ν) :
    (∀ command s, (Engine.firestore (f.shared others)).Warranted Shared.exchanges command s) ∧
    (∀ command t,
      (Engine.couchDb (c.shared others)).Warranted (·.network.exchanges) command t ↔
        ¬ ∃ db id es, command = .delete db id ∧
          CouchDb.FindsUnversioned (c.shared others) db id t es ∧
          ∀ y ∈ es, ¬ y.ReportsMissing) ∧
    (∀ user space key s,
      AbsenceTold (Engine.firestore (f.shared others)) (DeniedByFirestore (f.shared others)) user
        space key s) ∧
    ∀ user space key s,
      AbsenceTold (Engine.couchDb (c.shared others)) (DeniedByCouchDb (c.shared others)) user space
          key s ↔
        ¬ ∃ es, CouchDb.FindsUnversioned (c.shared others) database (docId user space key) s.store
          es :=
  ⟨warranted_firestore f others, warranted_couchDb_iff c others, absenceTold_firestore f others,
    absenceTold_couchDb_iff c others⟩

def unversioned : Script where
  reachable := true
  replies := [.answered ⟨200, none, .json .null⟩, .answered ⟨200, none, .json .null⟩]
  requests := []

/-- The document is reported missing, and no answer has the status 404. -/
theorem not_warranted_unversioned :
    ¬ (Engine.couchDb (CouchDb.scripted.shared fun _ s => s)).Warranted (·.network.exchanges)
      (.delete "d" "k") (CouchDb.start ⟨unversioned, []⟩) := by
  intro hwarranted
  have hfails : error? (Engine.Command.perform
      (Engine.couchDb (CouchDb.scripted.shared fun _ s => s)) (.delete "d" "k")
      (CouchDb.start ⟨unversioned, []⟩)) = some (.notFound "d" "k") := by decide +kernel
  have hreplies : (finalState (Engine.Command.perform
      (Engine.couchDb (CouchDb.scripted.shared fun _ s => s)) (.delete "d" "k")
      (CouchDb.start ⟨unversioned, []⟩))).network.exchanges.map (·.reply) =
        unversioned.replies := by decide +kernel
  obtain ⟨es, hlog, x, hx, r, hreply, hmissing⟩ :=
    hwarranted _ _ (eq_error_of_error? hfails) rfl
  have hmem : x.reply ∈ unversioned.replies := by
    dsimp only at hlog
    rw [← hreplies, hlog]
    exact List.mem_map_of_mem (List.mem_append_right _ hx)
  rw [hreply] at hmem
  obtain rfl : r = ⟨200, none, .json .null⟩ := by simpa [unversioned] using hmem
  cases hmissing

end Service

end Keyspace
