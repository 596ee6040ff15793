import Keyspace.Proofs.SortedMap
import Keyspace.Service

set_option autoImplicit false

namespace Keyspace

theorem Json.sameValue_str {v : Json} {s : String} : (v == .str s) = true ↔ v = .str s := by
  change v.sameValue (.str s) = true ↔ _
  cases v <;> simp [Json.sameValue]

theorem Document.field_eq_str_iff {doc : Document} {name s : String} :
    doc.field name = .str s ↔ doc.get? name = some (.str s) := by
  rw [Document.field]
  cases doc.get? name <;> simp

theorem Selector.accepts_iff {selector : Selector} {doc : Document} :
    selector.accepts doc = true ↔
      ∀ name v, selector.get? name = some v → (doc.field name == v) = true := by
  rw [Selector.accepts, List.all_eq_true]
  constructor
  · intro h name v hv
    exact h (name, v) (SortedMap.get?_eq_some_iff.1 hv)
  · intro h e he
    exact h e.1 e.2 (SortedMap.get?_eq_some_iff.2 he)

theorem Selector.validate_eq_ok {selector : Selector}
    (h : ∀ name v, selector.get? name = some v → Text.allBlank name = false) :
    selector.validate = .ok () := by
  have hkeys : selector.keys.any Text.allBlank = false := by
    rw [List.any_eq_false]
    intro name hname
    obtain ⟨v, hv⟩ := SortedMap.mem_keys_iff.1 hname
    simp [h name v hv]
  simp [Selector.validate, hkeys]

namespace Service

theorem get?_userSelector {user name : String} {v : Json} :
    (userSelector user).get? name = some v ↔ name = Record.userField ∧ v = .str user := by
  rw [userSelector, SortedMap.get?_ofList, List.reverse_singleton, SortedMap.lookup]
  split <;> simp_all [SortedMap.lookup, eq_comm]

theorem get?_spaceSelector {user space name : String} {v : Json} :
    (spaceSelector user space).get? name = some v ↔
      (name = Record.spaceField ∧ v = .str space) ∨ (name = Record.userField ∧ v = .str user) := by
  have hne : Record.spaceField ≠ Record.userField := by decide
  rw [spaceSelector, SortedMap.get?_ofList, List.reverse_cons, List.reverse_singleton,
    List.singleton_append, SortedMap.lookup, SortedMap.lookup, SortedMap.lookup]
  split
  · simp_all [eq_comm]
  · split <;> simp_all [eq_comm]

theorem validate_userSelector (user : String) : (userSelector user).validate = .ok () := by
  refine Selector.validate_eq_ok fun name v h => ?_
  rw [(get?_userSelector.1 h).1]
  decide

theorem validate_spaceSelector (user space : String) :
    (spaceSelector user space).validate = .ok () := by
  refine Selector.validate_eq_ok fun name v h => ?_
  rcases get?_spaceSelector.1 h with ⟨rfl, _⟩ | ⟨rfl, _⟩
  · decide
  · decide

theorem userSelector_accepts {user : String} {doc : Document} :
    (userSelector user).accepts doc = true ↔ doc.get? Record.userField = some (.str user) := by
  rw [Selector.accepts_iff, ← Document.field_eq_str_iff, ← Json.sameValue_str]
  constructor
  · intro h
    exact h _ _ (get?_userSelector.2 ⟨rfl, rfl⟩)
  · intro h name v hv
    obtain ⟨rfl, rfl⟩ := get?_userSelector.1 hv
    exact h

theorem spaceSelector_accepts {user space : String} {doc : Document} :
    (spaceSelector user space).accepts doc = true ↔
      doc.get? Record.userField = some (.str user) ∧
        doc.get? Record.spaceField = some (.str space) := by
  rw [Selector.accepts_iff, ← Document.field_eq_str_iff, ← Document.field_eq_str_iff,
    ← Json.sameValue_str, ← Json.sameValue_str]
  constructor
  · intro h
    exact ⟨h _ _ (get?_spaceSelector.2 (.inr ⟨rfl, rfl⟩)),
      h _ _ (get?_spaceSelector.2 (.inl ⟨rfl, rfl⟩))⟩
  · rintro ⟨huser, hspace⟩ name v hv
    rcases get?_spaceSelector.1 hv with ⟨rfl, rfl⟩ | ⟨rfl, rfl⟩
    · exact hspace
    · exact huser

theorem text?_eq_some_iff {doc : Document} {name s : String} :
    doc.text? name = some s ↔ doc.get? name = some (.str s) := by
  rw [Document.text?]
  cases doc.get? name with
  | none => simp
  | some v => cases v <;> simp [Json.text?]

structure AsksFor (selector : Selector) (texts : List (String × String)) : Prop where
  entries : selector.entries = texts.map fun e => (e.1, .str e.2)
  valid : selector.validate = .ok ()
  fields : ∀ e ∈ texts, e.1 = Record.spaceField ∨ e.1 = Record.userField
  accepts : ∀ doc, selector.accepts doc = true ↔ ∀ e ∈ texts, doc.get? e.1 = some (.str e.2)

theorem AsksFor.ne_rev {selector : Selector} {texts : List (String × String)}
    (h : AsksFor selector texts) : ∀ e ∈ texts, e.1 ≠ Document.revField := fun e he =>
  (h.fields e he).elim (fun heq => heq ▸ by decide) fun heq => heq ▸ by decide

theorem AsksFor.ne_id {selector : Selector} {texts : List (String × String)}
    (h : AsksFor selector texts) : ∀ e ∈ texts, e.1 ≠ Document.idField := fun e he =>
  (h.fields e he).elim (fun heq => heq ▸ by decide) fun heq => heq ▸ by decide

theorem asksFor_space (user space : String) :
    AsksFor (spaceSelector user space)
      [(Record.spaceField, space), (Record.userField, user)] where
  entries := by
    have hlt : Record.spaceField < Record.userField := by decide
    simp [spaceSelector, SortedMap.ofList, SortedMap.extend, SortedMap.insert,
      SortedMap.insertEntry, SortedMap.empty, hlt]
  valid := validate_spaceSelector user space
  fields := by simp
  accepts doc := by
    rw [spaceSelector_accepts, and_comm]
    simp

theorem asksFor_user (user : String) :
    AsksFor (userSelector user) [(Record.userField, user)] where
  entries := rfl
  valid := validate_userSelector user
  fields := by simp
  accepts doc := by
    rw [userSelector_accepts]
    simp

end Service

end Keyspace
