import Keyspace.Proofs.Runs

set_option autoImplicit false

namespace Keyspace

variable {ε σ α β γ : Type}

/-- The steps for a list of items, one after another, all succeed. -/
inductive InTurn (step : α → EStateM ε σ β) : List α → List β → σ → σ → Prop where
  | nil (s : σ) : InTurn step [] [] s s
  | cons {a : α} {b : β} {items : List α} {answers : List β} {s s₁ s' : σ}
    (first : step a s = .ok b s₁) (rest : InTurn step items answers s₁ s') :
    InTurn step (a :: items) (b :: answers) s s'

namespace InTurn

variable {step : α → EStateM ε σ β} {items done rest : List α} {answers : List β} {a : α} {b : β}
  {e : ε} {s s₁ s₂ s' : σ}

theorem length_eq (h : InTurn step items answers s s') : answers.length = items.length := by
  induction h with
  | nil => rfl
  | cons _ _ ih => rw [List.length_cons, List.length_cons, ih]

/-- Either all steps succeed, or there is a first one that fails. -/
theorem or_fails (step : α → EStateM ε σ β) (items : List α) (s : σ) :
    (∃ answers s', InTurn step items answers s s') ∨
      ∃ done a rest answers s₁ e s₂, items = done ++ a :: rest ∧
        InTurn step done answers s s₁ ∧ step a s₁ = .error e s₂ := by
  induction items generalizing s with
  | nil => exact .inl ⟨[], s, .nil s⟩
  | cons a items ih =>
    cases hfirst : step a s with
    | error e s₂ => exact .inr ⟨[], a, items, [], s, e, s₂, rfl, .nil s, hfirst⟩
    | ok b s₁ =>
      rcases ih s₁ with ⟨answers, s', h⟩ | ⟨done, a', rest, answers, s₂, e, s₃, rfl, h, hfail⟩
      · exact .inl ⟨b :: answers, s', .cons hfirst h⟩
      · exact .inr ⟨a :: done, a', rest, b :: answers, s₂, e, s₃, rfl, .cons hfirst h, hfail⟩

section Loops

variable {f : γ → α → EStateM ε σ γ} {g : γ → β → γ}

theorem round_ok (hf : ∀ c a, f c a = step a >>= fun b => pure (g c b))
    (h : step a s = .ok b s₁) (c : γ) : f c a s = .ok (g c b) s₁ := by
  rw [hf]
  exact bind_eq_ok_iff.2 ⟨b, s₁, h, rfl⟩

theorem foldlM (hf : ∀ c a, f c a = step a >>= fun b => pure (g c b))
    (h : InTurn step items answers s s') (c : γ) :
    items.foldlM f c s = .ok (answers.foldl g c) s' := by
  induction h generalizing c with
  | nil => rfl
  | cons first _ ih =>
    rw [List.foldlM_cons]
    exact bind_eq_ok_iff.2 ⟨_, _, round_ok hf first c, ih _⟩

/-- The first failure of a step ends the loop, and the rest of the items plays no part. -/
theorem foldlM_stops (hf : ∀ c a, f c a = step a >>= fun b => pure (g c b))
    (h : InTurn step done answers s s₁) (hfail : step a s₁ = .error e s₂) (rest : List α) (c : γ) :
    (done ++ a :: rest).foldlM f c s = .error e s₂ := by
  induction h generalizing c with
  | nil =>
    rw [List.nil_append, List.foldlM_cons, hf]
    exact bind_eq_error_iff.2 (.inl (bind_eq_error_iff.2 (.inl hfail)))
  | cons first _ ih =>
    rw [List.cons_append, List.foldlM_cons]
    exact bind_eq_error_iff.2 (.inr ⟨_, _, round_ok hf first c, ih hfail _⟩)

end Loops

end InTurn

end Keyspace
