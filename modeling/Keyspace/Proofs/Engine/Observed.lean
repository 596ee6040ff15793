import Keyspace.Engine.Observed
import Keyspace.Proofs.Runs

set_option autoImplicit false

namespace Keyspace.Observed

variable {σ τ α β : Type} {R : σ → τ → Prop} {B : List Call → List Call → Prop} {Q : α → β → Prop}

section Observe

variable {call : Call} {action : Action σ α} {o o' : Observed σ}

theorem observe_eq_ok_iff {a : α} :
    observe call action o = .ok a o' ↔ (o.schedule.next call).1 = none ∧
      action o.inner = .ok a o'.inner ∧ o'.calls = o.calls ++ [call] ∧
      o'.schedule = (o.schedule.next call).2 := by
  obtain ⟨inner, calls, schedule⟩ := o'
  simp only [observe]
  cases (o.schedule.next call).1 with
  | some e => simp
  | none => cases action o.inner <;> simp [eq_comm, and_assoc]

theorem observe_eq_error_iff {e : StoreError} :
    observe call action o = .error e o' ↔
      ((o.schedule.next call).1 = some e ∧ o'.inner = o.inner ∨
        (o.schedule.next call).1 = none ∧ action o.inner = .error e o'.inner) ∧
      o'.calls = o.calls ++ [call] ∧ o'.schedule = (o.schedule.next call).2 := by
  obtain ⟨inner, calls, schedule⟩ := o'
  simp only [observe]
  cases (o.schedule.next call).1 with
  | some e => simp [eq_comm, and_assoc]
  | none => cases action o.inner <;> simp [eq_comm, and_assoc]

end Observe

theorem runs_observe {S : σ → σ → Prop} [IsPreorder σ S] {E : StoreError → Prop}
    {action : Action σ α} (h : Runs S E action) (call : Call) :
    Runs (fun o o' : Observed σ => S o.inner o'.inner) (fun _ => True) (observe call action) := by
  intro o
  refine ⟨?_, fun _ _ _ => trivial⟩
  have hinner := (h o.inner).1
  cases hrun : observe call action o with
  | ok a o' =>
    rw [(observe_eq_ok_iff.1 hrun).2.1] at hinner
    exact hinner
  | error e o' =>
    rcases (observe_eq_error_iff.1 hrun).1 with ⟨-, hsame⟩ | ⟨-, herror⟩
    · change S o.inner o'.inner
      rw [hsame]
      exact refl o.inner
    · rw [herror] at hinner
      exact hinner

/-- Related engines with related calls behind them, and the same failures to come of all calls but
those about indexes. -/
structure Beside (R : σ → τ → Prop) (B : List Call → List Call → Prop) (o : Observed σ)
    (o' : Observed τ) : Prop where
  inner : R o.inner o'.inner
  schedule : { o.schedule with ensureIndex := [] } = { o'.schedule with ensureIndex := [] }
  calls : B o.calls o'.calls

theorem Beside.swap {o : Observed σ} {o' : Observed τ} (h : Beside R B o o') :
    Beside (fun t s => R s t) (fun cs' cs => B cs cs') o' o :=
  ⟨h.inner, h.schedule.symm, h.calls⟩

theorem next_eq {a b : Schedule}
    (h : { a with ensureIndex := [] } = { b with ensureIndex := [] }) {call : Call}
    (hcall : ∀ db index, call ≠ .ensureIndex db index) :
    (a.next call).1 = (b.next call).1 ∧
      { (a.next call).2 with ensureIndex := [] } = { (b.next call).2 with ensureIndex := [] } := by
  simp only [Schedule.mk.injEq] at h
  obtain ⟨hget, hsave, hdelete, hlist, hfind, -⟩ := h
  cases call with
  | ensureIndex db index => exact absurd rfl (hcall db index)
  | get | save | delete | listAll | find =>
    simp [Schedule.next, hget, hsave, hdelete, hlist, hfind]

theorem lockstep_observe (call : Call) (hother : ∀ db index, call ≠ .ensureIndex db index)
    (hcall : ∀ cs cs', B cs cs' → B (cs ++ [call]) (cs' ++ [call])) {x : Action σ α}
    {y : Action τ β} (h : Lockstep R Q x y) :
    Lockstep (Beside R B) Q (observe call x) (observe call y) := by
  intro o o' ho
  obtain ⟨hfate, hrest⟩ := next_eq ho.schedule hother
  have hcalls := hcall o.calls o'.calls ho.calls
  have hstep := h o.inner o'.inner ho.inner
  simp only [observe, hfate]
  cases (o'.schedule.next call).1 with
  | some e => exact .error ⟨ho.inner, hrest, hcalls⟩
  | none =>
    dsimp only
    generalize x o.inner = r, y o'.inner = q at hstep
    cases hstep with
    | ok hq hinner => exact .ok hq ⟨hinner, hrest, hcalls⟩
    | error hinner => exact .error ⟨hinner, hrest, hcalls⟩

/-- A call about an index on one side changes the index failures to come there, and nothing else
that is compared if it changes nothing that is related. -/
theorem Beside.index_left {o : Observed σ} {o' : Observed τ} (h : Beside R B o o') {db : String}
    {index : Index} {x : Action σ Unit} (hx : ∀ s t, R s t → R (finalState (x s)) t)
    (hcall : ∀ cs cs', B cs cs' → B (cs ++ [.ensureIndex db index]) cs') :
    Beside R B (finalState (observe (.ensureIndex db index) x o)) o' := by
  have hcalls := hcall o.calls o'.calls h.calls
  simp only [observe, Schedule.next]
  cases o.schedule.ensureIndex.head?.join with
  | some e => exact ⟨h.inner, h.schedule, hcalls⟩
  | none =>
    have hinner := hx o.inner o'.inner h.inner
    dsimp only
    cases hrun : x o.inner <;> rw [hrun] at hinner <;> exact ⟨hinner, h.schedule, hcalls⟩

end Keyspace.Observed
