import Keyspace.Proofs.Service.Alike
import Keyspace.Proofs.TypedValue.Reread

set_option autoImplicit false

namespace Keyspace

/-- What a field may hold, and what the members of an object in a field may. Counts of reads are
kept to as long as they are within bounds. -/
structure Upkeep.Rule where
  field : Json → Prop
  member : Json → Prop
  within : Nat → Prop
  within_of_le : ∀ {m n}, m ≤ n → within n → within m
  within_zero : within 0
  null : field .null
  str : ∀ s, field (.str s)
  count : ∀ n : UInt64, within n.toNat → field (.num (.natural n))
  members : ∀ {ms}, field (.obj ms) → ∀ e ∈ ms, member e.2
  toJson : ∀ {m : Document}, m.All member → field m.toJson

namespace Upkeep.Rule

variable {rule : Upkeep.Rule} {doc : Document} {r : Record}

/-- What a record keeps to, for its document to keep to the rule. -/
structure Fits (rule : Upkeep.Rule) (r : Record) : Prop where
  value : rule.field r.value
  metadata : r.metadata.All rule.member
  accessCount : rule.field (.num (.natural r.accessCount))
  extra : r.extra.All rule.field

theorem Fits.toDocument (h : rule.Fits r) : r.toDocument.All rule.field := by
  have htext : ∀ text : Option String, rule.field (Json.ofText? text) := by
    rintro (_ | text)
    · exact rule.null
    · exact rule.str text
  have hinstant : ∀ t : Option Instant, rule.field (Record.instantJson t) := by
    rintro (_ | t)
    · exact rule.null
    · exact rule.str _
  have hentries : ∀ e ∈ r.entries, rule.field e.2 := by
    simp only [Record.entries, List.forall_mem_cons, List.not_mem_nil, false_implies, implies_true,
      and_true]
    exact ⟨rule.str _, rule.str _, rule.str _, rule.str _, h.value, rule.toJson h.metadata, htext _,
      htext _, h.accessCount, hinstant _, hinstant _, hinstant _⟩
  have hknown : SortedMap.All rule.field (SortedMap.ofList r.entries) := .ofList hentries
  refine SortedMap.All.extend ?_ (SortedMap.All.iff_entries.1 h.extra)
  unfold Record.knownDocument
  cases r.rev with
  | none => exact hknown
  | some rev => exact hknown.insert _ (rule.str rev)

theorem field_readsOf (h : doc.All rule.field) :
    rule.field (.num (.natural (Record.readsOf doc))) := by
  have hzero : rule.field (.num (.natural 0)) := rule.count 0 rule.within_zero
  unfold Record.readsOf
  cases hv : doc.get? Record.accessCountField with
  | none => exact hzero
  | some v =>
    have hfield := h _ v hv
    cases v with
    | num n =>
      cases n with
      | natural n => exact hfield
      | negative n => exact hzero
      | float x => exact hzero
    | null | bool | str | arr | obj => exact hzero

theorem fits_of_reads (hr : Record.Reads doc r) (h : doc.All rule.field) : rule.Fits r where
  value := by
    rw [← hr.value, Document.field]
    cases hv : doc.get? Record.valueField with
    | none => exact rule.null
    | some v => exact h _ v hv
  metadata := by
    have hread := hr.metadata
    unfold Record.readField at hread
    cases hv : doc.get? Record.metadataField with
    | none =>
      rw [hv] at hread
      exact Except.ok.inj hread ▸ .empty
    | some v =>
      have hfield := h _ v hv
      rw [hv] at hread
      cases v with
      | null => exact Except.ok.inj hread ▸ .empty
      | obj members =>
        exact Except.ok.inj hread ▸ .ofList (rule.members hfield)
      | bool | num | str | arr => cases hread
  accessCount := by
    rw [← Record.readsOf_of_reads hr]
    exact field_readsOf h
  extra := by
    rw [← hr.extra]
    exact h.filter _

theorem Fits.updated (h : rule.Fits r) (id : String) {value : Json} (agent : Option String)
    {metadata : Option Document} (now : Instant) (hvalue : rule.field value)
    (hmetadata : ∀ m ∈ metadata, rule.field m.toJson) :
    rule.Fits (Service.updated r id value agent metadata now) where
  value := hvalue
  metadata := by
    refine h.metadata.extend ?_
    cases metadata with
    | none => simp [SortedMap.empty]
    | some m => exact rule.members (hmetadata m rfl)
  accessCount := h.accessCount
  extra := h.extra

theorem fits_fresh (user space key : String) {value : Json} {metadata : Option Document}
    (agent : Option String) (now : Instant) (hvalue : rule.field value)
    (hmetadata : ∀ m ∈ metadata, rule.field m.toJson) :
    rule.Fits (Record.fresh user space key value (metadata.getD SortedMap.empty) agent now) where
  value := hvalue
  metadata := by
    cases metadata with
    | none => exact .empty
    | some m => exact SortedMap.All.iff_entries.2 (rule.members (hmetadata m rfl))
  accessCount := rule.count 0 rule.within_zero
  extra := .empty

theorem all_countRead {doc' : Document} {agent : String} {now : Instant}
    (h : Record.countRead doc agent now = some doc') (hdoc : doc.All rule.field)
    (hreads : rule.within ((Record.readsOf doc).toNat + 1)) : doc'.All rule.field := by
  intro name v hv
  rw [Record.get?_countRead h] at hv
  split at hv
  · cases hv
    exact rule.count _ (by rwa [Record.toNat_readsOf_succ h])
  · split at hv
    · cases hv
      exact rule.str _
    · split at hv
      · cases hv
        exact rule.str _
      · exact hdoc name v hv

theorem all_of_alike {U : Option String → Option String → Prop} {d d' : Document}
    (h : Document.Alike U d d') (hd : d.All rule.field) : d'.All rule.field := by
  intro name v hv
  by_cases hname : name = Document.revField
  · obtain ⟨_, rev, -, hrev, -⟩ := h.tokens
    rw [hname, hrev] at hv
    obtain ⟨rev, -, rfl⟩ := Option.map_eq_some_iff.1 hv
    exact rule.str rev
  · exact hd name v ((h.fields name hname).trans hv)

end Upkeep.Rule

/-- Documents keep to a rule. -/
def Upkeep.ofRule (rule : Upkeep.Rule) : Upkeep where
  writes := rule.field
  within := rule.within
  holds n doc := SortedMap.All rule.field doc ∧ (Record.readsOf doc).toNat ≤ n
  within_of_le := rule.within_of_le
  holds_of_le hle h := ⟨h.1, Nat.le_trans h.2 hle⟩
  insert_rev {n doc} rev h :=
    ⟨h.1.insert _ (rule.str rev), by rw [Record.readsOf_insert_rev]; exact h.2⟩
  counted {n doc doc' agent now} hwithin h hcount :=
    ⟨Rule.all_countRead hcount h.1 (rule.within_of_le (Nat.succ_le_succ h.2) hwithin),
      by rw [Record.readsOf_countRead hcount]; exact Nat.succ_le_succ h.2⟩
  fresh n user space key value metadata agent now hvalue hmetadata := by
    refine ⟨(Rule.fits_fresh user space key agent now hvalue hmetadata).toDocument, ?_⟩
    rw [Record.readsOf_toDocument fun _ _ => rfl]
    exact Nat.zero_le n
  updated {n doc r} id {value} agent {metadata} now h hr hvalue hmetadata := by
    have hrecord := (Rule.fits_of_reads hr h.1).updated id agent now hvalue hmetadata
    refine ⟨hrecord.toDocument, ?_⟩
    rw [Record.readsOf_toDocument (Record.extraUnknown_updated hr id value agent metadata now)]
    exact (Record.readsOf_of_reads hr) ▸ h.2

end Keyspace
