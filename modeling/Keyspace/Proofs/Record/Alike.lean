import Keyspace.Proofs.Record.Reading

set_option autoImplicit false

namespace Keyspace

variable {T : String → String → Prop} {U : Option String → Option String → Prop}

/-- Documents with the same fields and corresponding tokens. A token is a text. -/
structure Document.Alike (U : Option String → Option String → Prop) (doc doc' : Document) :
    Prop where
  fields : ∀ name, name ≠ Document.revField → doc.get? name = doc'.get? name
  tokens : ∃ rev rev', doc.get? Document.revField = rev.map .str ∧
    doc'.get? Document.revField = rev'.map .str ∧ U rev rev'

structure Record.AlikeBy (U : Option String → Option String → Prop) (r r' : Record) : Prop where
  parts : r' = { r with rev := r'.rev }
  tokens : U r.rev r'.rev

structure Record.Alike (T : String → String → Prop) (r r' : Record) : Prop where
  parts : r' = { r with rev := r'.rev }
  tokens : Option.Rel T r.rev r'.rev

namespace Document.Alike

variable {doc doc' : Document}

theorem insert (h : Alike U doc doc') {name : String} (hname : name ≠ revField) (v : Json) :
    Alike U (SortedMap.insert doc name v) (SortedMap.insert doc' name v) where
  fields other hother := by
    rw [SortedMap.get?_insert, SortedMap.get?_insert, h.fields other hother]
  tokens := by
    rw [SortedMap.get?_insert, SortedMap.get?_insert, if_neg hname.symm, if_neg hname.symm]
    exact h.tokens

theorem insert_rev (h : Alike U doc doc') {a b : String} (hab : U (some a) (some b)) :
    Alike U (SortedMap.insert doc revField (.str a)) (SortedMap.insert doc' revField (.str b)) where
  fields other hother := by
    rw [SortedMap.get?_insert, SortedMap.get?_insert, if_neg hother, if_neg hother,
      h.fields other hother]
  tokens :=
    ⟨some a, some b, SortedMap.get?_insert_self .., SortedMap.get?_insert_self .., hab⟩

theorem text?_eq (h : Alike U doc doc') {name : String} (hname : name ≠ revField) :
    doc.text? name = doc'.text? name := by
  rw [Document.text?, Document.text?, h.fields name hname]

theorem field_eq (h : Alike U doc doc') {name : String} (hname : name ≠ revField) :
    doc.field name = doc'.field name := by
  rw [Document.field, Document.field, h.fields name hname]

theorem erase_rev_eq (h : Alike U doc doc') :
    SortedMap.erase doc revField = SortedMap.erase doc' revField := by
  refine SortedMap.ext_get? fun name => ?_
  rw [SortedMap.get?_erase, SortedMap.get?_erase]
  by_cases hname : name = revField
  · rw [if_pos hname, if_pos hname]
  · rw [if_neg hname, if_neg hname, h.fields name hname]

theorem refl_of_rev {rev : String} (h : doc.get? revField = some (.str rev)) : Alike Eq doc doc :=
  ⟨fun _ _ => rfl, some rev, some rev, h, h, rfl⟩

theorem eq (h : Alike Eq doc doc') : doc = doc' := by
  refine SortedMap.ext_get? fun name => ?_
  by_cases hname : name = revField
  · obtain ⟨rev, _, hrev, hrev', rfl⟩ := h.tokens
    rw [hname, hrev, hrev']
  · exact h.fields name hname

end Document.Alike

namespace Record

theorem AlikeBy.alike {r r' : Record} (h : AlikeBy (Option.Rel T) r r') : Alike T r r' :=
  ⟨h.parts, h.tokens⟩

theorem AlikeBy.eq {r r' : Record} (h : AlikeBy Eq r r') : r = r' := by
  rw [h.parts, ← h.tokens]

theorem readField_rev_of_token {doc : Document} {rev : Option String}
    (h : doc.get? Document.revField = rev.map .str) :
    readField doc Document.revField none (fun v => v.readOption Json.readText) = .ok rev := by
  rw [readField, h]
  cases rev <;> rfl

/-- Documents that differ in their tokens are both unreadable, and for the same reason, or read as
records that differ in their tokens. -/
theorem ofDocument_alike {doc doc' : Document} (h : Document.Alike U doc doc') :
    (∃ e, ofDocument doc = .error e ∧ ofDocument doc' = .error e) ∨
      ∃ r r', ofDocument doc = .ok r ∧ ofDocument doc' = .ok r' ∧ AlikeBy U r r' := by
  obtain ⟨rev, rev', hrev, hrev', hrel⟩ := h.tokens
  rw [ofDocument_erase_rev (readField_rev_of_token hrev),
    ofDocument_erase_rev (readField_rev_of_token hrev'), h.erase_rev_eq]
  cases ofDocument (doc'.erase Document.revField) with
  | error e => exact .inl ⟨e, rfl, rfl⟩
  | ok r => exact .inr ⟨_, _, rfl, rfl, rfl, hrel⟩

theorem countRead_alike {doc doc' : Document} (h : Document.Alike U doc doc') (agent : String)
    (now : Instant) :
    (countRead doc agent now = none ∧ countRead doc' agent now = none) ∨
      ∃ c c', countRead doc agent now = some c ∧ countRead doc' agent now = some c' ∧
        Document.Alike U c c' := by
  have hreads : readsOf doc = readsOf doc' := by
    rw [readsOf, readsOf, h.fields accessCountField (by decide)]
  cases hc : countRead doc agent now with
  | none =>
    refine .inl ⟨rfl, ?_⟩
    rw [countRead] at hc ⊢
    rw [← hreads]
    split at hc
    · cases hc
    · rename_i hfull
      rw [if_neg hfull]
  | some c =>
    obtain ⟨c', hc'⟩ := countRead_eq_some_iff.2 (hreads ▸ countRead_eq_some_iff.1 ⟨c, hc⟩)
    refine .inr ⟨c, c', rfl, hc', ⟨fun name hname => ?_, ?_⟩⟩
    · rw [get?_countRead hc, get?_countRead hc', hreads, h.fields name hname]
    · rw [get?_countRead_of_ne hc (by decide), get?_countRead_of_ne hc' (by decide)]
      exact h.tokens

theorem get?_toDocument_of_ne_rev (r : Record) (rev : Option String) {name : String}
    (hname : name ≠ Document.revField) :
    ({ r with rev := rev } : Record).toDocument.get? name = r.toDocument.get? name := by
  have hknown : ∀ r : Record, r.knownDocument.get? name =
      ({ r with rev := none } : Record).knownDocument.get? name := fun r => by
    unfold knownDocument
    cases r.rev with
    | none => rfl
    | some rev => simp only [SortedMap.get?_insert, if_neg hname]
  rw [toDocument, toDocument, SortedMap.get?_extend, SortedMap.get?_extend, hknown, hknown r]

theorem AlikeBy.toDocument {r r' : Record} (h : AlikeBy U r r') (hextra : r.ExtraUnknown) :
    Document.Alike U r.toDocument r'.toDocument where
  fields name hname := by rw [h.parts, get?_toDocument_of_ne_rev r r'.rev hname]
  tokens := by
    have hextra' : r'.ExtraUnknown := by
      rw [h.parts]
      exact hextra
    exact ⟨r.rev, r'.rev, get?_toDocument_rev hextra, get?_toDocument_rev hextra', h.tokens⟩

end Record

end Keyspace
