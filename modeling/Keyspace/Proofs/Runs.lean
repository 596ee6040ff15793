import Keyspace.Engine.Basic
import Keyspace.Http.Exchange
import Keyspace.Proofs.Lockstep
import Mathlib.Order.Defs.Unbundled

set_option autoImplicit false

namespace Keyspace

variable {ε σ α β : Type}

theorem bind_eq_ok_iff {x : EStateM ε σ α} {f : α → EStateM ε σ β} {b : β} {s s' : σ} :
    (x >>= f) s = .ok b s' ↔ ∃ a s'', x s = .ok a s'' ∧ f a s'' = .ok b s' := by
  simp only [bind_apply]
  cases x s <;> simp

theorem bind_eq_error_iff {x : EStateM ε σ α} {f : α → EStateM ε σ β} {e : ε} {s s' : σ} :
    (x >>= f) s = .error e s' ↔
      x s = .error e s' ∨ ∃ a s'', x s = .ok a s'' ∧ f a s'' = .error e s' := by
  simp only [bind_apply]
  cases x s <;> simp

/-- An error that says neither that something is missing nor that it has changed. -/
def StoreError.Plain (e : StoreError) : Prop := e.isNotFound = false ∧ e.isConflict = false

theorem StoreError.not_plain {e : StoreError} (h : e.isNotFound = true) : ¬ e.Plain :=
  fun hplain => by simp [hplain.1] at h

def answer? : EStateM.Result ε σ α → Option α
  | .ok a _ => some a
  | .error _ _ => none

def error? : EStateM.Result ε σ α → Option ε
  | .ok _ _ => none
  | .error e _ => some e

theorem eq_ok_of_answer? {r : EStateM.Result ε σ α} {a : α} (h : answer? r = some a) :
    r = .ok a (finalState r) := by
  cases r with
  | ok b s =>
    cases h
    rfl
  | error e s => cases h

theorem eq_error_of_error? {r : EStateM.Result ε σ α} {e : ε} (h : error? r = some e) :
    r = .error e (finalState r) := by
  cases r with
  | ok b s => cases h
  | error e s =>
    cases h
    rfl

/-- Whatever comes of an action, `R` relates the state that it leaves to the one before, and an
error is in `E`. -/
def Runs (R : σ → σ → Prop) (E : ε → Prop) (x : EStateM ε σ α) : Prop :=
  ∀ s, R s (finalState (x s)) ∧ ∀ e s', x s = .error e s' → E e

namespace Runs

variable {R : σ → σ → Prop} {E : ε → Prop}

theorem mono {E' : ε → Prop} {x : EStateM ε σ α} (h : Runs R E x) (hE : ∀ e, E e → E' e) :
    Runs R E' x :=
  fun s => ⟨(h s).1, fun e s' hrun => hE e ((h s).2 e s' hrun)⟩

theorem ensure {κ : Type} [DecidableEq κ] {work : EStateM ε σ Unit} {set : σ → DoneSet κ} {key : κ}
    {mark : DoneSet κ → σ → σ} (hwork : Runs R E work)
    (hkept : ∀ s, R s (mark (set s) s))
    (hmark : ∀ s s', R s s' → R s (mark ((set s).insert key) s')) :
    Runs R E (do
      let done ← (set (← EStateM.get)).ensure key work
      EStateM.modifyGet fun s => ((), mark done s)) := by
  intro s
  obtain ⟨hfirst, hfails⟩ := hwork s
  simp only [bind_apply, get_apply, DoneSet.ensure_apply, modifyGet_apply]
  by_cases hdone : (set s).contains key = true
  · simp only [hdone, if_true]
    exact ⟨hkept s, fun _ _ h => by cases h⟩
  · simp only [hdone]
    cases hrun : work s with
    | ok a s' =>
      rw [hrun] at hfirst
      exact ⟨hmark s s' hfirst, fun _ _ h => by cases h⟩
    | error e s' =>
      rw [hrun] at hfirst
      exact ⟨hfirst, fun e' s'' heq => by cases heq; exact hfails e s' hrun⟩

variable [IsPreorder σ R]

theorem pure {a : α} : Runs R E (pure a : EStateM ε σ α) :=
  fun s => ⟨refl s, fun _ _ h => by cases h⟩

theorem throw {e : ε} (h : E e) : Runs R E (throw e : EStateM ε σ α) :=
  fun s => ⟨refl s, fun _ _ heq => by cases heq; exact h⟩

theorem finalState_bind {x : EStateM ε σ α} {f : α → EStateM ε σ β} {s : σ}
    (hx : R s (finalState (x s))) (hf : ∀ a s', x s = .ok a s' → R s' (finalState (f a s'))) :
    R s (finalState ((x >>= f) s)) := by
  simp only [bind_apply]
  cases hrun : x s with
  | ok a s' =>
    rw [hrun] at hx
    exact trans_of R hx (hf a s' hrun)
  | error e s' =>
    rw [hrun] at hx
    exact hx

theorem bind {x : EStateM ε σ α} {f : α → EStateM ε σ β} (hx : Runs R E x)
    (hf : ∀ a, Runs R E (f a)) : Runs R E (x >>= f) := by
  intro s
  refine ⟨finalState_bind (hx s).1 fun a s' _ => (hf a s').1, fun e s' hfails => ?_⟩
  rcases bind_eq_error_iff.1 hfails with hfails | ⟨a, s'', -, hfails⟩
  · exact (hx s).2 e s' hfails
  · exact (hf a s'').2 e s' hfails

theorem forM {l : List α} {f : α → EStateM ε σ PUnit} (h : ∀ a ∈ l, Runs R E (f a)) :
    Runs R E (l.forM f) := by
  induction l with
  | nil => exact pure
  | cons a l ih =>
    exact (h a List.mem_cons_self).bind fun _ => ih fun b hb => h b (List.mem_cons_of_mem a hb)

theorem foldlM {f : β → α → EStateM ε σ β} {l : List α} {b : β}
    (h : ∀ b, ∀ a ∈ l, Runs R E (f b a)) : Runs R E (l.foldlM f b) := by
  induction l generalizing b with
  | nil => exact pure
  | cons a l ih =>
    rw [List.foldlM_cons]
    exact (h b a List.mem_cons_self).bind fun b =>
      ih fun b c hc => h b c (List.mem_cons_of_mem a hc)

theorem fallback {R : σ → σ → Prop} [IsPreorder σ R] {E : StoreError → Prop} {x y : Action σ α}
    (hx : Runs R E x) (hy : Runs R E y) : Runs R E (Engine.fallback x y) := by
  intro s
  obtain ⟨hfirst, -⟩ := hx s
  simp only [Engine.fallback]
  cases hrun : x s with
  | ok a s' =>
    rw [hrun] at hfirst
    exact ⟨hfirst, fun _ _ h => by cases h⟩
  | error e s' =>
    rw [hrun] at hfirst
    exact ⟨trans_of R hfirst (hy s').1, (hy s').2⟩

theorem read {R : σ → σ → Prop} [IsPreorder σ R] {E : StoreError → Prop}
    (hE : ∀ e, e.Plain → E e) {r : Http.Response} {read? : Json → Option α} :
    Runs R E (r.read read?) := by
  unfold Http.Response.read
  split
  · exact .pure
  · exact .throw (hE _ ⟨rfl, rfl⟩)

theorem toError {R : σ → σ → Prop} [IsPreorder σ R] {E : StoreError → Prop}
    (hE : ∀ e, e.Plain → E e) (r : Http.Response) :
    Runs R E (MonadExcept.throw r.toError : EStateM StoreError σ α) :=
  .throw (hE _ ⟨rfl, rfl⟩)

end Runs

end Keyspace
