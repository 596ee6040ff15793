import Keyspace.DoneSet
import Mathlib.Data.List.Forall2

/-!
Two actions side by side.

`LockstepTo R R' Q x y` says that from states related by `R` the actions `x` and `y` both answer,
with answers related by `Q`, or both fail with one error, and that the states after them are related
by `R'`. `Lockstep R Q x y` is the case in which they are related by `R` again. The rules take such
pairs apart along their steps. Where the relation has a number that grows with what has been done,
the steps of a loop add up (`LockstepTo.foldlM`). A loop that never fails is run by an invariant
over the items done (`foldlM_run`). What single actions do to a state stands in front.
-/

set_option autoImplicit false

namespace Keyspace

variable {ε σ τ α β γ δ : Type}

/-- The state that an action leaves. -/
def finalState : EStateM.Result ε σ α → σ
  | .ok _ s => s
  | .error _ s => s

@[simp] theorem bind_apply (x : EStateM ε σ α) (f : α → EStateM ε σ β) (s : σ) :
    (x >>= f) s = match x s with
      | .ok a s' => f a s'
      | .error e s' => .error e s' := rfl

@[simp] theorem pure_apply (a : α) (s : σ) : (pure a : EStateM ε σ α) s = .ok a s := rfl

@[simp] theorem map_apply (f : α → β) (x : EStateM ε σ α) (s : σ) :
    (f <$> x) s = match x s with
      | .ok a s' => .ok (f a) s'
      | .error e s' => .error e s' := rfl

@[simp] theorem get_apply (s : σ) : (EStateM.get : EStateM ε σ σ) s = .ok s s := rfl

@[simp] theorem modifyGet_apply (f : σ → α × σ) (s : σ) :
    (EStateM.modifyGet f : EStateM ε σ α) s = .ok (f s).1 (f s).2 := rfl

@[simp] theorem set_apply (s s' : σ) : (EStateM.set s' : EStateM ε σ Unit) s = .ok () s' := rfl

@[simp] theorem throw_apply (e : ε) (s : σ) : (throw e : EStateM ε σ α) s = .error e s := rfl

theorem DoneSet.ensure_apply {κ : Type} [DecidableEq κ] (set : DoneSet κ) (key : κ)
    (work : EStateM ε σ Unit) (s : σ) :
    set.ensure key work s = if set.contains key then .ok set s else
      match work s with
      | .ok _ s' => .ok (set.insert key) s'
      | .error e s' => .error e s' := by
  unfold ensure
  split
  · rfl
  · cases hwork : work s <;> simp [hwork]

theorem finalState_map (x : EStateM ε σ α) (f : α → β) (s : σ) :
    finalState ((x >>= fun a => pure (f a)) s) = finalState (x s) := by
  simp only [bind_apply]
  cases x s <;> rfl

/-- Outcomes of two actions: both answered, or both failed with one error. -/
inductive Matching (R : σ → τ → Prop) (Q : α → β → Prop) :
    EStateM.Result ε σ α → EStateM.Result ε τ β → Prop where
  | ok {a : α} {b : β} {s : σ} {t : τ} (answers : Q a b) (states : R s t) :
    Matching R Q (.ok a s) (.ok b t)
  | error {e : ε} {s : σ} {t : τ} (states : R s t) : Matching R Q (.error e s) (.error e t)

/-- Two actions whose outcomes match from states related by `R` on, and leave states related by
`R'`. -/
def LockstepTo (R R' : σ → τ → Prop) (Q : α → β → Prop) (x : EStateM ε σ α) (y : EStateM ε τ β) :
    Prop :=
  ∀ s t, R s t → Matching R' Q (x s) (y t)

abbrev Lockstep (R : σ → τ → Prop) (Q : α → β → Prop) (x : EStateM ε σ α) (y : EStateM ε τ β) :
    Prop :=
  LockstepTo R R Q x y

/-- Results of two computations: both there, or both failed with one error. -/
inductive Agree (Q : α → β → Prop) : Except ε α → Except ε β → Prop where
  | ok {a : α} {b : β} (answers : Q a b) : Agree Q (.ok a) (.ok b)
  | error {e : ε} : Agree Q (.error e) (.error e)

theorem Agree.imp {Q Q' : α → β → Prop} {x : Except ε α} {y : Except ε β} (h : Agree Q x y)
    (himp : ∀ a b, Q a b → Q' a b) : Agree Q' x y := by
  cases h with
  | ok hab => exact .ok (himp _ _ hab)
  | error => exact .error

theorem Agree.eq {x y : Except ε α} (h : Agree Eq x y) : x = y := by
  cases h with
  | ok hab => rw [hab]
  | error => rfl

theorem exists_of_isOk {x : Except ε α} (h : x.isOk) : ∃ a, x = .ok a := by
  cases x with
  | ok a => exact ⟨a, rfl⟩
  | error => cases h

theorem Agree.isOk {Q : α → β → Prop} {x : Except ε α} {y : Except ε β} (h : Agree Q x y)
    (hx : x.isOk) : y.isOk := by
  cases h with
  | ok => rfl
  | error => exact hx

namespace LockstepTo

variable {R R' R'' : σ → τ → Prop} {Q : α → β → Prop} {P : γ → δ → Prop}

theorem imp {Q' : α → β → Prop} {x : EStateM ε σ α} {y : EStateM ε τ β}
    (h : LockstepTo R R' Q x y) (himp : ∀ a b, Q a b → Q' a b) : LockstepTo R R' Q' x y := by
  intro s t hst
  have hstep := h s t hst
  generalize x s = r, y t = q at hstep
  cases hstep with
  | ok hq hst' => exact .ok (himp _ _ hq) hst'
  | error hst' => exact .error hst'

theorem mono {S S' : σ → τ → Prop} {x : EStateM ε σ α} {y : EStateM ε τ β}
    (h : LockstepTo R R' Q x y) (hbefore : ∀ s t, S s t → R s t) (hafter : ∀ s t, R' s t → S' s t) :
    LockstepTo S S' Q x y := by
  intro s t hst
  have hstep := h s t (hbefore s t hst)
  generalize x s = r, y t = q at hstep
  cases hstep with
  | ok hq hst' => exact .ok hq (hafter _ _ hst')
  | error hst' => exact .error (hafter _ _ hst')

theorem pure {a : α} {b : β} (h : Q a b) :
    LockstepTo R R Q (pure a : EStateM ε σ α) (pure b) :=
  fun _ _ hst => .ok h hst

theorem throw (e : ε) : LockstepTo R R Q (throw e : EStateM ε σ α) (throw e) :=
  fun _ _ hst => .error hst

/-- A failure of the first steps is one of the whole. So what is known between the steps has to be
enough in the end. -/
theorem bind {x : EStateM ε σ α} {y : EStateM ε τ β} {f : α → EStateM ε σ γ}
    {g : β → EStateM ε τ δ} (h : LockstepTo R R' Q x y) (hend : ∀ s t, R' s t → R'' s t)
    (hnext : ∀ a b, Q a b → LockstepTo R' R'' P (f a) (g b)) :
    LockstepTo R R'' P (x >>= f) (y >>= g) := by
  intro s t hst
  have hfirst := h s t hst
  simp only [bind_apply]
  generalize x s = r, y t = q at hfirst
  cases hfirst with
  | ok hq hst' => exact hnext _ _ hq _ _ hst'
  | error hst' => exact .error (hend _ _ hst')

theorem map {x : EStateM ε σ α} {y : EStateM ε τ β} {f : α → γ} {g : β → δ}
    (h : LockstepTo R R' Q x y) (hnext : ∀ a b, Q a b → P (f a) (g b)) :
    LockstepTo R R' P (x >>= fun a => Pure.pure (f a)) (y >>= fun b => Pure.pure (g b)) :=
  h.bind (fun _ _ hst => hst) fun a b hab => .pure (hnext a b hab)

theorem foldlM {R : Nat → σ → τ → Prop} (hmono : ∀ {m n}, m ≤ n → ∀ s t, R m s t → R n s t)
    {cost : Nat} {f : γ → α → EStateM ε σ γ} {g : δ → α → EStateM ε τ δ} {l : List α} {n : Nat}
    {c : γ} {d : δ} (h : P c d)
    (hstep : ∀ k, k + cost ≤ n + l.length * cost → ∀ a ∈ l, ∀ c d, P c d →
      LockstepTo (R k) (R (k + cost)) P (f c a) (g d a)) :
    LockstepTo (R n) (R (n + l.length * cost)) P (l.foldlM f c) (l.foldlM g d) := by
  induction l generalizing n c d with
  | nil => exact mono (.pure h) (fun _ _ hst => hst) (hmono (Nat.le_add_right ..))
  | cons a l ih =>
    have htotal : n + cost + l.length * cost = n + (a :: l).length * cost := by
      rw [List.length_cons, Nat.add_mul, Nat.one_mul]
      omega
    rw [List.foldlM_cons, List.foldlM_cons]
    refine (hstep n (by rw [← htotal]; omega) a List.mem_cons_self c d h).bind
      (hmono (by rw [← htotal]; omega)) fun c d h => ?_
    rw [← htotal]
    exact ih h fun k hk b hb => hstep k (htotal ▸ hk) b (List.mem_cons_of_mem a hb)

end LockstepTo

namespace Lockstep

variable {R : σ → τ → Prop} {Q : α → β → Prop} {P : γ → δ → Prop}

theorem bind {x : EStateM ε σ α} {y : EStateM ε τ β} {f : α → EStateM ε σ γ}
    {g : β → EStateM ε τ δ} (h : Lockstep R Q x y)
    (hnext : ∀ a b, Q a b → Lockstep R P (f a) (g b)) : Lockstep R P (x >>= f) (y >>= g) :=
  LockstepTo.bind h (fun _ _ hst => hst) hnext

/-- Where the answers so far are the same, what follows need only match for one of them. -/
theorem bind_eq {x : EStateM ε σ α} {y : EStateM ε τ α} {f : α → EStateM ε σ γ}
    {g : α → EStateM ε τ δ} (h : Lockstep R Eq x y) (hnext : ∀ a, Lockstep R P (f a) (g a)) :
    Lockstep R P (x >>= f) (y >>= g) :=
  h.bind fun a _ hab => hab ▸ hnext a

/-- Two actions that never fail, and of which each keeps the relation on its own side. -/
theorem of_keeps {x : EStateM ε σ Unit} {y : EStateM ε τ Unit}
    (hx : ∀ s t, R s t → ∃ s', x s = .ok () s' ∧ R s' t)
    (hy : ∀ s t, R s t → ∃ t', y t = .ok () t' ∧ R s t') : Lockstep R Eq x y := by
  intro s t hst
  obtain ⟨s', hs, hst'⟩ := hx s t hst
  obtain ⟨t', ht, hst''⟩ := hy s' t hst'
  rw [hs, ht]
  exact .ok rfl hst''

theorem forM {f : α → EStateM ε σ Unit} {g : β → EStateM ε τ Unit} {l : List α} {l' : List β}
    (hlists : List.Forall₂ Q l l')
    (hstep : ∀ a b, Q a b → Lockstep R (fun _ _ => True) (f a) (g b)) :
    Lockstep R (fun _ _ => True) (l.forM f) (l'.forM g) := by
  induction hlists with
  | nil => exact .pure trivial
  | cons hab _ ih => exact (hstep _ _ hab).bind fun _ _ _ => ih

theorem foldlM {f : γ → α → EStateM ε σ γ} {g : δ → α → EStateM ε τ δ} {l : List α} {c : γ} {d : δ}
    (h : P c d) (hstep : ∀ a ∈ l, ∀ c d, P c d → Lockstep R P (f c a) (g d a)) :
    Lockstep R P (l.foldlM f c) (l.foldlM g d) := by
  induction l generalizing c d with
  | nil => exact .pure h
  | cons a l ih =>
    rw [List.foldlM_cons, List.foldlM_cons]
    refine (hstep a List.mem_cons_self c d h).bind fun c d h => ?_
    exact ih h fun b hb => hstep b (List.mem_cons_of_mem a hb)

end Lockstep

/-- A loop whose every step succeeds and keeps an invariant over the items done so far. -/
theorem foldlM_run {f : γ → α → EStateM ε σ γ} {l : List α} (I : List α → γ → σ → Prop)
    (hstep : ∀ done a rest c s, l = done ++ a :: rest → I done c s →
      ∃ c' s', f c a s = .ok c' s' ∧ I (done ++ [a]) c' s')
    {c : γ} {s : σ} (h : I [] c s) : ∃ c' s', l.foldlM f c s = .ok c' s' ∧ I l c' s' := by
  suffices hrest : ∀ rest done c s, l = done ++ rest → I done c s →
      ∃ c' s', rest.foldlM f c s = .ok c' s' ∧ I l c' s' from hrest l [] c s rfl h
  intro rest
  induction rest with
  | nil =>
    intro done c s hl h
    rw [List.append_nil] at hl
    exact ⟨c, s, rfl, hl ▸ h⟩
  | cons a rest ih =>
    intro done c s hl h
    obtain ⟨c₁, s₁, hrun, h₁⟩ := hstep done a rest c s hl h
    obtain ⟨c', s', hruns, h'⟩ := ih (done ++ [a]) c₁ s₁ (by simp [hl]) h₁
    refine ⟨c', s', ?_, h'⟩
    rw [List.foldlM_cons]
    simp only [bind_apply, hrun]
    exact hruns

end Keyspace
