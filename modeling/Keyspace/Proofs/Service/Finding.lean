import Keyspace.Proofs.Service.Selector
import Mathlib.Data.List.Forall2

set_option autoImplicit false

namespace Keyspace.Service

variable {selector : Selector} {texts : List (String × String)} {fields : Option (List String)}

def firstFound (selector : Selector) (docs : List Document) : List Document :=
  (docs.filter selector.accepts).take findLimit

/-- Documents with the same values in the fields that were asked for, all of them where none are
named. A missing field is as one that is null, and the id does not matter. -/
def LooksLike (fields : Option (List String)) (d d' : Document) : Prop :=
  ∀ name, name ≠ Document.idField → (∀ names ∈ fields, name ∈ names) → d.field name = d'.field name

theorem looksLike_refl (fields : Option (List String)) (docs : List Document) :
    List.Forall₂ (LooksLike fields) docs docs :=
  List.forall₂_same.2 fun _ _ _ _ _ => rfl

theorem text?_eq_text?_field (doc : Document) (name : String) :
    doc.text? name = (doc.field name).text? := by
  rw [Document.text?, Document.field]
  cases doc.get? name <;> rfl

theorem LooksLike.keyOf_eq {d d' : Document} (h : LooksLike fields d d')
    (hfields : ∀ names ∈ fields, Record.keyField ∈ names) : keyOf d = keyOf d' := by
  rw [keyOf, keyOf, text?_eq_text?_field, text?_eq_text?_field, h _ (by decide) hfields]

theorem LooksLike.spaceOf_eq {d d' : Document} (h : LooksLike fields d d')
    (hfields : ∀ names ∈ fields, Record.spaceField ∈ names) : spaceOf d = spaceOf d' := by
  rw [spaceOf, spaceOf, text?_eq_text?_field, text?_eq_text?_field, h _ (by decide) hfields]

theorem field_project (doc : Document) {names : List String} {name : String} (h : name ∈ names) :
    (doc.project names).field name = doc.field name := by
  have hfold : ∀ base : Document, (names.foldl
      (fun (p : Document) name => p.insert name (doc.field name)) base).get? name =
        some (doc.field name) := by
    induction names with
    | nil => cases h
    | cons other rest ih =>
      intro base
      rw [List.foldl_cons]
      by_cases hrest : name ∈ rest
      · exact ih hrest _
      · obtain rfl : name = other := by simpa [hrest] using h
        clear ih h
        have hkept : ∀ p : Document, p.get? name = some (doc.field name) → (rest.foldl
            (fun (p : Document) name => p.insert name (doc.field name)) p).get? name =
              some (doc.field name) := by
          induction rest with
          | nil => exact fun _ hp => hp
          | cons next rest ih =>
            intro p hp
            simp only [List.mem_cons, not_or] at hrest
            refine ih hrest.2 _ ?_
            rw [SortedMap.get?_insert, if_neg hrest.1, hp]
        exact hkept _ (SortedMap.get?_insert_self ..)
  rw [Document.project, Document.field, hfold, Option.getD_some]

theorem looksLike_project (doc : Document) (names : List String) :
    LooksLike (some names) (doc.project names) doc :=
  fun _ _ hname => field_project doc (hname names rfl)

theorem looksLike_filter (doc : Document) {names kept : List String}
    (h : ∀ name ∈ names, name ≠ Document.idField → name ∈ kept) :
    LooksLike (some names) (doc.filter fun name _ => kept.contains name) doc := by
  intro name hid hname
  rw [Document.field, Document.field, SortedMap.get?_filter]
  cases doc.get? name <;> simp [Option.filter, h name (hname names rfl) hid]

theorem LooksLike.accepts_eq {d d' : Document} (hd : LooksLike none d d')
    (h : AsksFor selector texts) : selector.accepts d = selector.accepts d' := by
  rw [Bool.eq_iff_iff, h.accepts, h.accepts]
  refine forall₂_congr fun e he => ?_
  rw [← Document.field_eq_str_iff, ← Document.field_eq_str_iff, hd e.1 (h.ne_id e he) (by simp)]

theorem looksLike_select {ds docs : List Document} (hds : List.Forall₂ (LooksLike none) ds docs)
    (h : AsksFor selector texts) (fields : Option (List String)) :
    List.Forall₂ (LooksLike fields) (selector.select fields findLimit ds)
      (firstFound selector docs) := by
  have hfound : List.Forall₂ (LooksLike none) ((ds.filter selector.accepts).take findLimit)
      (firstFound selector docs) :=
    List.forall₂_take _ (List.rel_filter
      (fun d d' hd => by simp only [hd.accepts_eq h]) hds)
  have hwhole : ∀ {d d' : Document}, LooksLike none d d' → LooksLike fields d d' :=
    fun hd name hname _ => hd name hname (by simp)
  rcases fields with _ | _ | ⟨first, rest⟩
  · exact hfound
  · exact hfound.imp fun _ _ hd => hwhole hd
  · refine List.forall₂_map_left_iff.2 (hfound.imp fun d d' hd name hname hnames => ?_)
    rw [looksLike_project d _ name hname hnames, hd name hname (by simp)]

theorem map_eq_of_forall₂ {α β : Type} {R : α → α → Prop} {f : α → β} {l l' : List α}
    (h : List.Forall₂ R l l') (hf : ∀ a b, R a b → f a = f b) : l.map f = l'.map f := by
  rw [← List.forall₂_eq_eq_eq, List.forall₂_map_left_iff, List.forall₂_map_right_iff]
  exact h.imp hf

end Keyspace.Service
