import Keyspace.Proofs.Service.Confined
import Keyspace.Proofs.Tool.Operations

set_option autoImplicit false

namespace Keyspace.Tool.DataStore

open Service (Run State Request Operation Answer perform outcome watched WatchedState Reached
  Confined ConfinedSince outcome_confined start)

variable {σ : Type}

/-- The first letters of a refusal are those of no failure of an engine. -/
theorem not_refuses_ofStoreError (e : StoreError) : ¬ Refuses (.ok (Result.ofStoreError e)) := by
  have hstart : ∀ text : String, "ERR:" ++ e.code ++ ": " ++ e.message = text →
      text.toList.take 6 ≠ "ERR:In".toList ∧ text.toList.take 6 ≠ "ERR:Un".toList := by
    rintro text rfl
    cases e <;> simp [StoreError.code, String.toList_append]
  rintro (⟨command, h⟩ | h)
  · exact (hstart _ (Option.some.inj h)).1 (by simp [String.toList_append])
  · exact (hstart _ (Option.some.inj h)).2 (by decide)

theorem not_refuses_resultOf (agent : Agent) (parameters : Json) (command : Command)
    (answer : Answer) : ¬ Refuses (.ok (inSpace agent (command.resultOf parameters answer))) := by
  have herror : (command.resultOf parameters answer).error = none ∨
      (command.resultOf parameters answer).error = some "ERR:NOT_FOUND" := by
    unfold Command.resultOf
    split
    · split
      · exact .inl rfl
      · exact .inr rfl
    · split
      · exact .inl rfl
      · exact .inr rfl
    all_goals exact .inl rfl
  have hplain : ∀ command : String, "ERR:NOT_FOUND" ≠ "ERR:Invalid " ++ command ++ " Syntax" := by
    intro command h
    have htake := congrArg (fun text => text.toList.take 6) h
    simp [String.toList_append] at htake
  rintro (⟨name, h⟩ | h)
  · rcases herror with hnone | hmissing
    · exact absurd (hnone.symm.trans h) (by simp)
    · exact hplain name (Option.some.inj (hmissing.symm.trans h))
  · rcases herror with hnone | hmissing
    · exact absurd (hnone.symm.trans h) (by simp)
    · exact absurd (Option.some.inj (hmissing.symm.trans h)) (by decide)

variable {s : WatchedState} {agent : Agent} {now : Instant} {tool : String} {parameters : Json}

theorem not_refuses_report {engine : Engine σ} {request : Request} {command : Command}
    {s s' : State σ} {answer : Except Error Result}
    (h : report agent parameters command (perform engine request s) = .ok answer s') :
    ¬ Refuses answer := by
  cases hperform : perform engine request s with
  | ok a s'' =>
    rw [hperform] at h
    cases h
    exact not_refuses_resultOf _ _ _ _
  | error failure s'' =>
    rw [hperform] at h
    cases failure with
    | store e =>
      cases h
      exact not_refuses_ofStoreError e
    | counterOverflow => cases h

theorem execute_eq_error_iff (s : State σ) (engine : Engine σ) (agent : Agent) (now : Instant)
    (tool : String) (parameters : Json) :
    (∃ e s', execute agent engine now tool parameters s = .ok (.error e) s') ↔
      tool ≠ toolName ∨ textArgument parameters "command" = none := by
  cases hasked : asked? agent tool parameters with
  | none =>
    obtain ⟨answer, hrun, -, herror⟩ := execute_of_unasked hasked engine now
    rw [← herror, hrun]
    constructor
    · rintro ⟨e, s', h⟩
      cases h
      exact ⟨e, rfl⟩
    · rintro ⟨e, rfl⟩
      exact ⟨e, s, rfl⟩
  | some operation =>
    obtain ⟨⟨htool, hcommand⟩, command, hrun⟩ := execute_of_asked hasked engine now
    constructor
    · rintro ⟨e, s', h⟩
      rw [hrun] at h
      exact absurd trivial (not_refuses_report h)
    · rintro (hne | hnone)
      · exact absurd htool hne
      · exact absurd hnone hcommand

/-- The calls that are refused are those that ask nothing of the data store, and they change
nothing. -/
theorem refuses_iff {engine : Engine σ} {s s' : State σ} {answer : Except Error Result}
    (h : execute agent engine now tool parameters s = .ok answer s') :
    (Refuses answer ↔ asked? agent tool parameters = none) ∧ (Refuses answer → s' = s) := by
  cases hasked : asked? agent tool parameters with
  | none =>
    obtain ⟨answer', hrun, hrefuses, -⟩ := execute_of_unasked hasked engine now
    rw [hrun] at h
    cases h
    exact ⟨by simp [hrefuses], fun _ => rfl⟩
  | some operation =>
    obtain ⟨-, command, hrun⟩ := execute_of_asked hasked engine now
    rw [hrun] at h
    have hcarried := not_refuses_report h
    exact ⟨by simp [hcarried], fun hrefuses => absurd hrefuses hcarried⟩

theorem finalState_execute {operation : Operation}
    (h : asked? agent tool parameters = some operation) (engine : Engine σ) (now : Instant)
    (s : State σ) :
    finalState (execute agent engine now tool parameters s) =
      (outcome engine ⟨agent.user, now, operation⟩ s).2 := by
  obtain ⟨-, command, hrun⟩ := execute_of_asked h engine now
  rw [hrun, outcome]
  cases perform engine ⟨agent.user, now, operation⟩ s with
  | ok a s' => rfl
  | error failure s' => cases failure <;> rfl

theorem execute_of_store_error {operation : Operation}
    (h : asked? agent tool parameters = some operation) {engine : Engine σ} {s s' : State σ}
    {e : StoreError} (hperform : perform engine ⟨agent.user, now, operation⟩ s =
      .error (.store e) s') :
    execute agent engine now tool parameters s = .ok (.ok (Result.ofStoreError e)) s' := by
  obtain ⟨-, command, hrun⟩ := execute_of_asked h engine now
  rw [hrun, hperform]
  rfl

theorem confinedSince_execute (h : Reached s) (agent : Agent) (now : Instant) (tool : String)
    (parameters : Json) :
    ConfinedSince agent.user s.store.calls
      (finalState (execute agent watched now tool parameters s)).store.calls := by
  cases hasked : asked? agent tool parameters with
  | none =>
    obtain ⟨answer, hrun, -⟩ := execute_of_unasked hasked watched now
    rw [hrun]
    exact .refl ..
  | some operation =>
    rw [finalState_execute hasked]
    exact (outcome_confined h.shelved _).1

/-- In every state that requests lead to, and whatever calls are made to fail: a call of the tool
has no result exactly when it names another tool or no command; it is refused exactly when it asks
nothing of the data store, and then it has called nothing; all that it does call is confined to the
handle's user; and an error of the engine that its operation ends in becomes an unsuccessful result
with the code and the text of the error. -/
theorem execute_confined (h : Reached s) (agent : Agent) (now : Instant) (tool : String)
    (parameters : Json) :
    ((∃ e s', execute agent watched now tool parameters s = .ok (.error e) s') ↔
        tool ≠ toolName ∨ textArgument parameters "command" = none) ∧
      (∀ answer s', execute agent watched now tool parameters s = .ok answer s' →
        (Refuses answer ↔ asked? agent tool parameters = none) ∧
        (Refuses answer → s'.store.calls = s.store.calls)) ∧
      ConfinedSince agent.user s.store.calls
        (finalState (execute agent watched now tool parameters s)).store.calls ∧
      ∀ operation e s', asked? agent tool parameters = some operation →
        perform watched ⟨agent.user, now, operation⟩ s = .error (.store e) s' →
        ∃ result, execute agent watched now tool parameters s = .ok (.ok result) s' ∧
          result.success = false ∧
          result.error = some ("ERR:" ++ e.code ++ ": " ++ e.message) := by
  refine ⟨execute_eq_error_iff s watched agent now tool parameters, fun answer s' hrun => ?_,
    confinedSince_execute h agent now tool parameters, fun operation e s' hasked hperform => ?_⟩
  · obtain ⟨hasked, hunchanged⟩ := refuses_iff hrun
    exact ⟨hasked, fun hrefuses => by rw [hunchanged hrefuses]⟩
  · exact ⟨_, execute_of_store_error hasked hperform, rfl, rfl⟩

def cutOff : WatchedState :=
  let request : Request := ⟨"u", Instant.epoch, .set "n" "k" (.bool true) none none⟩
  let s := (outcome watched request (start (Observed.start Memory.empty {}))).2
  { s with store := { s.store with schedule := { find := [some (.transport "down")] } } }

theorem reached_cutOff : Reached cutOff := .faults (.request (.start {}) _) _

def listing : Json := .obj [("command", .str " GET_ALL"), ("namespace", .str "n")]

theorem execute_confined_cutOff :
    Reached cutOff ∧ asked? (Agent.new "u" "a") "data_store" listing =
        some (.getAll "n" (some "a")) ∧
      ∃ result s', execute (Agent.new "u" "a") watched Instant.epoch "data_store" listing cutOff =
          .ok (.ok result) s' ∧
        result.success = false ∧
        result.error = some "ERR:TRANSPORT: Backend unreachable: down" := by
  have hasked : asked? (Agent.new "u" "a") "data_store" listing =
      some (.getAll "n" (some "a")) := by rfl
  obtain ⟨-, -, -, hfailed⟩ :=
    execute_confined reached_cutOff (Agent.new "u" "a") Instant.epoch "data_store" listing
  obtain ⟨result, hresult⟩ := hfailed (.getAll "n" (some "a")) (.transport "down") _ hasked rfl
  exact ⟨reached_cutOff, hasked, result, _, hresult⟩

end Keyspace.Tool.DataStore
