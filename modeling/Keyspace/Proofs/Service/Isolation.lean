import Keyspace.Proofs.Service.View

set_option autoImplicit false

namespace Keyspace.Service

theorem eq_of_agree {x y : Except Failure Answer} (h : Agree (Answer.AlikeBy Eq) x y) : x = y := by
  cases h with
  | ok h =>
    cases h with
    | record hr => rw [hr.eq]
    | written hr => rw [hr.eq]
    | same => rfl
  | error => rfl

/-- Leaving out the requests of `b` changes nothing that `a` sees. -/
def Isolated (a b : String) : Prop :=
  ∀ requests : List Request, (∀ r ∈ requests, r.user = a ∨ r.user = b) →
    (transcript Engine.memory requests (start Memory.empty)).filter (fun e => e.1.user = a) =
      transcript Engine.memory (requests.filter fun r => r.user = a) (start Memory.empty)

variable {a b : String}

/-- A request of `a` leaves the documents of `b` as they are, and owned by `b`. -/
theorem Owned.of_rest {m m' : Memory} (hab : Apart a b) (hb : Owned b False m)
    (ha : Owned a False m')
    (hrest : (m'.database database).filter (fun id stored => !shows a id stored) =
      (m.database database).filter (fun id stored => !shows a id stored)) : Owned b False m' := by
  have hold : ∀ id stored, (m'.database database).get? id = some stored →
      shows a id stored = false → (m.database database).get? id = some stored := by
    intro id stored hstored hshows
    have hfiltered := congrArg (fun docs => SortedMap.get? docs id) hrest
    simp only [SortedMap.get?_filter, hstored, Option.filter, hshows, Bool.not_false,
      if_true] at hfiltered
    cases hm : (m.database database).get? id with
    | none => simp [hm] at hfiltered
    | some other =>
      simp only [hm] at hfiltered
      split at hfiltered
      · exact hfiltered.symm
      · cases hfiltered
  refine ⟨fun id stored hstored hshows => ?_, fun space key stored hstored => ?_, ha.tokens⟩
  · cases hother : shows a id stored with
    | false => exact hb.kept id stored (hold id stored hstored hother) hshows
    | true =>
      have hne := shows_of_kept (ha.kept id stored hstored hother) b
      rw [hshows, eq_comm, decide_eq_true_iff] at hne
      exact absurd hne hab.ne
  · cases hother : shows a (docId b space key) stored with
    | false => exact hb.shown space key stored (hold _ stored hstored hother)
    | true =>
      obtain ⟨space', key', hid⟩ := eq_docId_of_kept (ha.kept _ stored hstored hother)
      exact absurd hid.symm (hab space' key' space key)

theorem filter_shows_of_rest {m m' : Memory} (hne : a ≠ b)
    (hrest : (m'.database database).filter (fun id stored => !shows b id stored) =
      (m.database database).filter (fun id stored => !shows b id stored)) :
    (m'.database database).filter (shows a) = (m.database database).filter (shows a) := by
  have hwithin : ∀ docs : SortedMap StoredDocument, docs.filter (shows a) =
      (docs.filter fun id stored => !shows b id stored).filter (shows a) := by
    intro docs
    refine SortedMap.ext_get? fun id => ?_
    rw [SortedMap.get?_filter, SortedMap.get?_filter, SortedMap.get?_filter]
    cases docs.get? id with
    | none => rfl
    | some stored =>
      by_cases hb : stored.doc.get? Record.userField = some (.str b)
      · simp [Option.filter, shows, hb, hne.symm]
      · simp [Option.filter, shows, hb]
  rw [hwithin, hwithin (m.database database), hrest]

theorem filter_transcript_of_viewed (hab : Apart a b) {requests : List Request}
    (husers : ∀ r ∈ requests, r.user = a ∨ r.user = b) {hidden : SortedMap StoredDocument}
    {s t : State Memory} (ha : Viewed a False hidden s.store t.store)
    (hb : Owned b False s.store) :
    (transcript Engine.memory requests s).filter (fun e => e.1.user = a) =
      transcript Engine.memory (requests.filter fun r => r.user = a) t := by
  induction requests generalizing hidden s t with
  | nil => rfl
  | cons r rest ih =>
    have hrest := fun q hq => husers q (List.mem_cons_of_mem r hq)
    rcases husers r List.mem_cons_self with hr | hr
    · obtain ⟨hanswer, hview⟩ := outcome_alike (n := 0) (Viewed.engineAlike_of_eq hr False hidden)
        False.elim (fun _ => trivial) (r.operation.within_placesOf hr) r.operation.writes_filing
        trivial ha
      have hb' := hb.of_rest hab hview.owned (hview.rest.trans ha.rest.symm)
      simp only [transcript, List.filter_cons, hr, decide_true, if_true]
      rw [eq_of_agree hanswer, ih hrest hview hb']
    · have hne : r.user ≠ a := hr ▸ hab.ne.symm
      obtain ⟨m, hother⟩ := hb.exists_viewed
      obtain ⟨_, hview⟩ := outcome_alike (n := 0) (t := start m)
        (Viewed.engineAlike_of_eq hr False _) False.elim (fun _ => trivial)
        (r.operation.within_placesOf hr) r.operation.writes_filing trivial hother
      have ha' : Viewed a False _ (outcome Engine.memory r s).2.store t.store :=
        ⟨ha.owned.of_rest hab.symm hview.owned hview.rest,
          ha.part.trans (filter_shows_of_rest hab.ne hview.rest).symm, rfl⟩
      simp only [transcript, List.filter_cons, hne, decide_false, Bool.false_eq_true, if_false]
      exact ih hrest ha' hview.owned

theorem isolated_of_apart (hab : Apart a b) : Isolated a b := fun _ husers =>
  filter_transcript_of_viewed hab husers ⟨Owned.empty a False, rfl, rfl⟩ (Owned.empty b False)

theorem isolated_self (a : String) : Isolated a a := by
  intro requests husers
  have hall : ∀ r ∈ requests, r.user = a := fun r hr => (husers r hr).elim id id
  have hrequests : requests.filter (fun r => r.user = a) = requests :=
    List.filter_eq_self.2 fun r hr => by simpa using hall r hr
  rw [hrequests]
  refine List.filter_eq_self.2 fun e he => ?_
  have hin := List.mem_map_of_mem (f := (·.1)) he
  rw [map_fst_transcript] at hin
  simpa using hall e.1 hin

theorem not_isolated_of_docId_eq {a b space space' key : String} (hne : a ≠ b)
    (h : docId a space key = docId b space' key) : ¬ Isolated a b := by
  intro hisolated
  have hrun := hisolated
    [⟨b, Instant.epoch, .set space' key .null none none⟩, ⟨a, Instant.epoch, .get space key none⟩]
    (by simp)
  have habsent : (docs (start Memory.empty)).get? (docId b space' key) = none := rfl
  obtain ⟨s, hset, hdocs⟩ := set_absent habsent Instant.epoch .null none none
  have hother : (outcome Engine.memory ⟨b, Instant.epoch, .set space' key .null none none⟩
      (start Memory.empty)).2 = s := by
    simp only [outcome, perform, bind_apply, hset]
    rfl
  have halone : (outcome Engine.memory ⟨a, Instant.epoch, .get space key none⟩
      (start Memory.empty)).1 = .ok (.record none) := by
    simp only [outcome, perform, bind_apply, get_absent (s := start Memory.empty) rfl]
    rfl
  have hread : (outcome Engine.memory ⟨a, Instant.epoch, .get space key none⟩ s).1 ≠
      .ok (.record none) := by
    obtain ⟨stored, hstored⟩ : ∃ stored, (docs s).get? (docId a space key) = some stored := by
      rw [hdocs, docs_written, h, SortedMap.get?_insert_self]
      exact ⟨_, rfl⟩
    simp only [outcome, perform, bind_apply, get_untagged hstored, readRecord]
    cases Record.ofDocument stored.doc with
    | ok r => simp
    | error e => simp
  simp only [transcript, List.filter_cons, hne.symm, decide_false, decide_true,
    Bool.false_eq_true, if_false, if_true, List.filter_nil, hother, halone] at hrun
  exact hread (Prod.mk.inj (List.cons.inj hrun).1).2

/-- Users see each other's data exactly when one of them, with a colon behind, begins the other. -/
theorem isolated_iff (a b : String) :
    Isolated a b ↔ ¬ (a ++ ":").toList <+: b.toList ∧ ¬ (b ++ ":").toList <+: a.toList := by
  by_cases hne : a = b
  · subst hne
    have hlong : ¬ (a ++ ":").toList <+: a.toList := fun h => by
      have hlength := h.length_le
      have hcolon : 0 < ":".toList.length := by decide
      rw [String.toList_append, List.length_append] at hlength
      omega
    exact ⟨fun _ => ⟨hlong, hlong⟩, fun _ => isolated_self a⟩
  · rw [← apart_iff hne]
    constructor
    · intro hisolated space key space' key' h
      obtain ⟨rfl, _⟩ := docId_inj.1 h
      exact not_isolated_of_docId_eq hne h hisolated
    · exact isolated_of_apart

/-- The user `a` reads in the namespace `b:c` what `a:b` has written in the namespace `c`. -/
theorem not_isolated_of_colon : ¬ Isolated "a" "a:b" :=
  not_isolated_of_docId_eq (by decide)
    (docId_inj.2 ⟨rfl, by decide⟩ : docId "a" "b:c" "k" = docId "a:b" "c" "k")

end Keyspace.Service
