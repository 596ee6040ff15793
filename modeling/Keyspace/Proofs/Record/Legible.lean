import Keyspace.Proofs.Record.SameData

set_option autoImplicit false

namespace Keyspace.Record

variable {doc doc' : Document} {r : Record} {agent rev : String} {now : Instant}

def Legible (doc : Document) : Prop := ∃ r, ofDocument doc = .ok r

/-- What a document shows besides its bookkeeping. -/
def unbooked (doc : Document) : Document := doc.filter fun name _ => !bookkeeping.contains name

namespace CountedAs

/-- The time of a read that is counted can be read only in four-digit years. -/
theorem inRange_of_reads (h : CountedAs doc agent now doc') (hr : Reads doc' r) : now.InRange := by
  by_contra hlate
  have huntimely : untimely (some now) = some now := by simp [untimely, hlate]
  have herror := readInstant_eq (some now)
  rw [huntimely] at herror
  have hread := hr.lastAccessedAt
  rw [h.readInstant_time] at hread
  cases hread.symm.trans herror

theorem reads (h : CountedAs doc agent now doc') (hnow : now.InRange) (hr : Reads doc r) :
    ∃ rev, Reads doc' { r.counted agent now with rev := rev } := by
  have hrev : ∃ rev, readField doc' Document.revField none
      (fun v => v.readOption Json.readText) = .ok rev := by
    rcases h.token with hsame | ⟨rev, hrev⟩
    · exact ⟨r.rev, (readField_congr hsame _ _).trans hr.rev⟩
    · exact ⟨some rev, by rw [readField, hrev]; rfl⟩
  obtain ⟨rev, hrev⟩ := hrev
  have hreads := h.reads_of_reads hnow hr h.other hrev
  rw [readsOf_of_reads hr] at hreads
  exact ⟨rev, hreads⟩

/-- With a new token, what was illegible in the bookkeeping before plays no part. -/
theorem legible_iff (h : CountedAs doc agent now doc')
    (htoken : doc'.get? Document.revField = some (.str rev)) :
    Legible doc' ↔ now.InRange ∧ Legible (unbooked doc) := by
  have hother : ∀ name ∉ bookkeeping, (unbooked doc).get? name = doc'.get? name := by
    intro name hname
    rw [h.other name hname, unbooked, SortedMap.get?_filter]
    cases doc.get? name <;> simp [hname]
  have hnone : ∀ name ∈ bookkeeping, (unbooked doc).get? name = none := by
    intro name hname
    rw [unbooked, SortedMap.get?_filter]
    cases doc.get? name <;> simp [hname]
  simp only [Legible, ofDocument_eq_ok_iff]
  constructor
  · rintro ⟨r, hr⟩
    have hmissing : ∀ {α : Type} (name : String) (missing : α) (read : Json → Except ReadError α),
        name ∈ bookkeeping → readField (unbooked doc) name missing read = .ok missing :=
      fun name _ _ hname => readField_eq_ok_iff.2 (.inl ⟨hnone name hname, rfl⟩)
    exact ⟨h.inRange_of_reads hr, _, hr.rebooked hother (hmissing _ _ _ (by decide))
      (hmissing _ _ _ (by decide)) (hmissing _ _ _ (by decide)) (hmissing _ _ _ (by decide))⟩
  · rintro ⟨hnow, r, hr⟩
    have hrev : readField doc' Document.revField none (fun v => v.readOption Json.readText) =
        .ok (some rev) := by
      rw [readField, htoken]
      rfl
    exact ⟨_, h.reads_of_reads hnow hr (fun name hname => (hother name hname).symm) hrev⟩

end CountedAs

end Keyspace.Record
