import Keyspace.Proofs.Record.Revised
import Keyspace.Proofs.Service.Calls
import Keyspace.Proofs.Service.SetThenGet

set_option autoImplicit false

namespace Keyspace.Service

variable {user space key : String} {value : Json} {agent : Option String}
  {metadata : Option Document} {now : Instant} {s s' : State Memory} {r : Record} {doc : Document}

theorem set_elsewhere
    (h : set Engine.memory now user space key value agent metadata s = .ok r s') {db id : String}
    (hother : db = database → id ≠ docId user space key) :
    s'.store.find? db id = s.store.find? db id := by
  rw [set_eq] at h
  obtain ⟨record, s₁, hdraft, hcommit⟩ := bind_eq_ok_iff.1 h
  have hkept : Runs (fun s s' : State Memory => s.store.SameDocuments s'.store) (fun _ => True)
      (draft Engine.memory now user space key value agent metadata) :=
    runs_draft (Memory.runs_ensureIndex database) (Memory.runs_get database) now user space key
      value agent metadata
  have hsame := (hkept s).1
  rw [hdraft] at hsame
  obtain ⟨receipt, hsave⟩ := commit_ok hcommit
  have hstore := (EStateM.Result.ok.inj
    (hsave.symm.trans (Memory.save_run s₁.store now database _ _))).2
  rw [hstore, Memory.find?_put, if_neg fun hsame => hother hsame.1 hsame.2]
  exact (hsame.find?_eq db id).symm

/-- Whatever the memory holds, a set over a document whose record can be read succeeds. It leaves
the document revised, with the token that the answer shows, and all other documents as they are. -/
theorem set_revises (hfound : found? s user space key = some doc)
    (hread : (Record.ofDocument doc).isOk = true) (now : Instant) (value : Json)
    (agent : Option String) (metadata : Option Document) :
    ∃ r rev s', set Engine.memory now user space key value agent metadata s = .ok r s' ∧
      r.rev = some rev ∧
      found? s' user space key =
        some (Record.revise doc (docId user space key) rev value agent metadata now) ∧
      ∀ db id, (db = database → id ≠ docId user space key) →
        s'.store.find? db id = s.store.find? db id := by
  cases hrecord : Record.ofDocument doc with
  | error e =>
    rw [hrecord] at hread
    cases hread
  | ok existing =>
    have hdraft : Drafted user space key value agent metadata now (found? s user space key)
        (updated existing (docId user space key) value agent metadata now) := by
      rw [hfound]
      exact .update hrecord
    obtain ⟨rev, s', hrun, hholds⟩ := set_drafted hdraft
    refine ⟨_, rev, s', hrun, rfl, ?_, fun db id hother => set_elsewhere hrun hother⟩
    rw [← Record.toDocument_updated (Record.ofDocument_eq_ok_iff.1 hrecord)]
    exact hholds

theorem set_revises_legacy :
    found? (holding legacyDocument) "u" "n" "k" = some legacyDocument ∧
      (Record.ofDocument legacyDocument).isOk = true ∧
      ∃ r rev s', set Engine.memory Instant.epoch "u" "n" "k" .null (some "a") none
          (holding legacyDocument) = .ok r s' ∧
        r.rev = some rev ∧
        found? s' "u" "n" "k" = some (Record.revise legacyDocument (docId "u" "n" "k") rev .null
          (some "a") none Instant.epoch) ∧
        ∀ db id, (db = database → id ≠ docId "u" "n" "k") →
          s'.store.find? db id = (holding legacyDocument).store.find? db id := by
  have hread : (Record.ofDocument legacyDocument).isOk = true := by decide +kernel
  exact ⟨found?_holding _, hread, set_revises (found?_holding _) hread ..⟩

/-- The namespace is put in, the field that records do not know stays, and so does the instant at
which the record was made. -/
example :
    let doc := Record.revise legacyDocument "i" "1-mem" .null none none Instant.epoch
    (doc.get? Record.spaceField, doc.get? "sizeBytes", doc.get? Record.createdAtField) =
      (some (.str "default"), some (.num (.natural 12)),
        some (.str "2024-05-01T12:30:00.123456Z")) := by
  decide +kernel

end Keyspace.Service
