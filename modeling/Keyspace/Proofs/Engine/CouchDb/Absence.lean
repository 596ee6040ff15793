import Keyspace.Proofs.Engine.Command
import Keyspace.Proofs.Engine.CouchDb.Exchanges

set_option autoImplicit false

namespace Keyspace.CouchDb

open Engine (Command)
open Http (Exchange Network Response Shared)

variable {ν : Type} {n : Network ν} {others : List (Exchange ν) → ν → ν} {c : CouchDb (Shared ν)}
  {db id : String} {doc : Document} {t t' : State (Shared ν)} {e : StoreError}

/-- The engine's side of a connection to a server that others use as well. -/
def shared (c : CouchDb ν) (others : List (Exchange ν) → ν → ν) : CouchDb (Shared ν) :=
  { c with client := c.client.shared others }

theorem network_shared (c : CouchDb ν) (others : List (Exchange ν) → ν → ν) :
    (c.shared others).client.network = c.client.network.shared others := rfl

/-- The server answers a request for a document that it is missing. -/
inductive Denies (c : CouchDb (Shared ν)) (db id : String) (x : Exchange ν) : Prop where
  | get {r : Response} (answers : x.Answers c.client .get (c.documentUrl db id) none r)
    (missing : r.isNotFound = true)
  | head {r : Response} (answers : x.Answers c.client .head (c.documentUrl db id) none r)
    (missing : r.isNotFound = true)
  | delete {r : Response} (rev : String)
    (answers : x.Answers c.client .delete ((c.documentUrl db id).withField "rev" rev) none r)
    (missing : r.isNotFound = true)

def Unversioned (c : CouchDb (Shared ν)) (db id : String) (x : Exchange ν) : Prop :=
  ∃ r, x.Answers c.client .head (c.documentUrl db id) none r ∧ r.isSuccess = true ∧
    r.revision? = none

/-- A look-up of a document's revision ends, after these exchanges, with the answer that the
document is there, and no revision. -/
def FindsUnversioned (c : CouchDb (Shared ν)) (db id : String) (t : State (Shared ν))
    (es : List (Exchange ν)) : Prop :=
  ∃ x t', c.lookUpRevision db id t = .ok none t' ∧
    t'.network.exchanges = t.network.exchanges ++ (es ++ [x]) ∧ Unversioned c db id x

theorem Denies.reportsMissing {x : Exchange ν} (h : Denies c db id x) : x.ReportsMissing := by
  cases h with
  | get answers missing => exact ⟨_, answers.reply, missing⟩
  | head answers missing => exact ⟨_, answers.reply, missing⟩
  | delete _ answers missing => exact ⟨_, answers.reply, missing⟩

theorem Unversioned.not_reportsMissing {x : Exchange ν} (h : Unversioned c db id x) :
    ¬ x.ReportsMissing := by
  obtain ⟨r, hanswers, hsuccess, -⟩ := h
  rintro ⟨r', hreply, hmissing⟩
  obtain rfl : r = r' := Http.Reply.answered.inj (hanswers.reply.symm.trans hreply)
  rw [Response.isSuccess_of_isNotFound hmissing] at hsuccess
  cases hsuccess

theorem save_error (hc : c.client.network = n.shared others)
    (h : c.save db id doc t = .error e t') : e.isNotFound = false := by
  rcases bind_eq_error_iff.1 h with hfailed | ⟨r, t₁, -, hsettle⟩
  · have hattempted := attempted_submit hc db id doc t
    rw [hfailed] at hattempted
    cases hattempted with
    | failed _ _ plain => exact plain.1
  · exact ((runs_settle db id r t₁).2 e t' hsettle).1

theorem delete_missing (hc : c.client.network = n.shared others)
    (h : c.delete db id t = .error e t') (he : e.isNotFound = true) :
    ∃ es x, Made n t (es ++ [x]) t' ∧
      (Denies c db id x ∨ c.lookUpRevision db id t = .ok none t' ∧ Unversioned c db id x) := by
  have hkept := kept_withoutWrite hc
  have hplain := StoreError.not_plain he
  rcases bind_eq_error_iff.1 h with h | ⟨rev, t₁, hlook, h⟩
  · exact absurd ((hkept.lookUpRevision t).2 e t' h) hplain
  obtain ⟨es, head, found, hmade, -, -, hasked, hrev, hstatus⟩ := lookUpRevision_made hc hlook
  cases rev with
  | none =>
    cases h
    refine ⟨es, head, hmade, ?_⟩
    by_cases hmissing : found.isNotFound = true
    · exact .inl (.head hasked hmissing)
    · rw [reported, if_neg hmissing] at hrev
      exact .inr ⟨hlook, found, hasked, hstatus.resolve_left hmissing, hrev.symm⟩
  | some rev =>
    rcases bind_eq_error_iff.1 h with h | ⟨r, t₂, hsend, h⟩
    · exact absurd ((hkept.send (by decide) t₁).2 e t' h) hplain
    obtain ⟨x, r', hmade', hanswers, rfl, -⟩ := send_made hc hsend
    rw [Response.isNotFound_arriving] at h
    split at h
    · rename_i hmissing
      cases h
      exact ⟨es ++ [head], x, hmade.trans hmade', .inl (.delete rev hanswers hmissing)⟩
    · split at h
      · cases h
        cases he
      · split at h
        · cases h
        · exact absurd ((hkept.toError _ t₂).2 e t' h) hplain

/-- A document without a revision is taken for a missing one. -/
theorem delete_of_lookUpRevision (h : c.lookUpRevision db id t = .ok none t') :
    c.delete db id t = .error (.notFound db id) t' := by
  simp [delete, h, withdraw]

/-- What has happened when a command reports something missing. -/
theorem missing_of_command (hc : c.client.network = n.shared others) {command : Command}
    (h : command.perform (Engine.couchDb c) t = .error e t') (he : e.isNotFound = true) :
    ∃ db id es x, Made n t (es ++ [x]) t' ∧
      (Denies c db id x ∨ command = .delete db id ∧ c.lookUpRevision db id t = .ok none t' ∧
        Unversioned c db id x) := by
  have hkept := kept_withoutWrite hc
  have hplain := StoreError.not_plain he
  cases command with
  | get db id =>
    have hget : c.get db id t = .error e t' := Command.error_of_map h
    obtain ⟨es, x, r, hmade, hanswers, hmissing, -⟩ := get_missing hc hget he
    exact ⟨db, id, es, x, hmade, .inl (.get hanswers hmissing)⟩
  | save now db id doc =>
    have hsave : c.save db id doc t = .error e t' := Command.error_of_map h
    rw [save_error hc hsave] at he
    cases he
  | delete db id =>
    have hdelete : c.delete db id t = .error e t' := Command.error_of_map h
    obtain ⟨es, x, hmade, hdenies | hfinds⟩ := delete_missing hc hdelete he
    · exact ⟨db, id, es, x, hmade, .inl hdenies⟩
    · exact ⟨db, id, es, x, hmade, .inr ⟨rfl, hfinds⟩⟩
  | listAll db =>
    exact absurd ((hkept.listAll t).2 e t' (Command.error_of_map h)) hplain
  | find db selector fields limit =>
    exact absurd ((hkept.find t).2 e t' (Command.error_of_map h)) hplain
  | ensureIndex db index =>
    exact absurd ((runs_ensureIndex hc db index t).2 e t' (Command.error_of_map h)) hplain

end Keyspace.CouchDb
