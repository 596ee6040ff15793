import Keyspace.Proofs.Service.Request
import Keyspace.Tool.DataStore

set_option autoImplicit false

namespace Keyspace.Tool.DataStore

open Service (Run State Operation Answer perform)

variable {σ : Type} {agent : Agent} {tool : String} {parameters : Json}

def Command.operation? (agent : Agent) (parameters : Json) : Command → Option Operation
  | .get =>
    (textArgument parameters "key").map fun key => .get agent.space key (some agent.name)
  | .set => do
    let key ← textArgument parameters "key"
    let value ← parameters.member? "value"
    return .set agent.space key value (some agent.name) (mapArgument parameters "metadata")
  | .delete => (textArgument parameters "key").map fun key => .delete agent.space key
  | .listKeys => some (.listKeys agent.space (textArgument parameters "prefix"))
  | .listSpaces => some .listSpaces
  | .getAll => some (.getAll agent.space (some agent.name))
  | .getMany =>
    (textsArgument parameters "keys").map fun keys => .getMany agent.space keys (some agent.name)
  | .setMany =>
    (mapArgument parameters "items").map fun items =>
      let metadata := mapArgument parameters "metadata"
      .setMany (items.entries.map fun item => ⟨agent.space, item.1, item.2, metadata⟩)
        (some agent.name)
  | .clear => some (.clear agent.space)

def Command.label : Command → String
  | .get => "GET"
  | .set => "SET"
  | .delete => "DELETE"
  | .listKeys => "LIST_KEYS"
  | .listSpaces => "LIST_NAMESPACES"
  | .getAll => "GET_ALL"
  | .getMany => "GET_MANY"
  | .setMany => "SET_MANY"
  | .clear => "CLEAR"

def Command.resultOf (parameters : Json) : Command → Answer → Result
  | .get, .record r =>
    match (r.map (·.value)).or (parameters.member? "default") with
    | some value => keyValue ((textArgument parameters "key").getD "") value
    | none => notFound
  | .delete, .deleted found => if found then done else notFound
  | .listKeys, .keys keys => Result.succeeded (.obj [("keys", .arr (keys.map .str))])
  | .listSpaces, .spaces spaces =>
    Result.succeeded (.obj [("namespaces", .arr (spaces.map .str))])
  | .getAll, .values items | .getMany, .values items =>
    Result.succeeded (.obj [("items", .obj items.entries)])
  | .setMany, .count n => Result.succeeded (.obj [("written", Json.ofCount n)])
  | .clear, .count n => Result.succeeded (.obj [("deleted", Json.ofCount n)])
  | _, _ => done

theorem run_eq (agent : Agent) (engine : Engine σ) (now : Instant) (parameters : Json)
    (command : Command) :
    run agent engine now parameters command =
      match command.operation? agent parameters with
      | none => pure (invalidSyntax command.label)
      | some operation => do
        let answer ← perform engine ⟨agent.user, now, operation⟩
        return inSpace agent (command.resultOf parameters answer) := by
  cases command with
  | get =>
    simp only [run, Command.operation?]
    cases hkey : textArgument parameters "key" with
    | none => rfl
    | some key =>
      simp only [Option.map_some, Agent.get, perform, bind_assoc, pure_bind, Command.resultOf, hkey,
        Option.getD_some]
      refine bind_congr fun r => ?_
      cases r with
      | some r => rfl
      | none => cases parameters.member? "default" <;> rfl
  | set =>
    simp only [run, Command.operation?]
    cases textArgument parameters "key" with
    | none => rfl
    | some key =>
      cases parameters.member? "value" with
      | none => rfl
      | some value =>
        simp only [Agent.set, perform, bind_assoc, pure_bind, Command.resultOf, Option.bind_eq_bind,
          Option.bind_some, Option.pure_def]
  | delete =>
    simp only [run, Command.operation?]
    cases textArgument parameters "key" with
    | none => rfl
    | some key =>
      simp only [Option.map_some, Agent.delete, perform, bind_assoc, pure_bind, Command.resultOf]
      refine bind_congr fun found => ?_
      cases found <;> rfl
  | listKeys =>
    simp only [run, Command.operation?, Agent.listKeys, perform, bind_assoc, pure_bind,
      Command.resultOf]
  | listSpaces =>
    simp only [run, Command.operation?, Agent.listSpaces, perform, bind_assoc, pure_bind,
      Command.resultOf]
  | getAll =>
    simp only [run, Command.operation?, Agent.getAll, perform, bind_assoc, pure_bind,
      Command.resultOf]
  | getMany =>
    simp only [run, Command.operation?]
    cases textsArgument parameters "keys" with
    | none => rfl
    | some keys =>
      simp only [Option.map_some, Agent.getMany, perform, bind_assoc, pure_bind, Command.resultOf]
  | setMany =>
    simp only [run, Command.operation?]
    cases mapArgument parameters "items" with
    | none => rfl
    | some items =>
      simp only [Option.map_some, Agent.setMany, perform, bind_assoc, pure_bind, Command.resultOf]
  | clear =>
    simp only [run, Command.operation?, Agent.clear, perform, bind_assoc, pure_bind,
      Command.resultOf]

def command? (tool : String) (parameters : Json) : Option Command :=
  if tool = toolName then
    (textArgument parameters "command").bind fun text =>
      Command.ofName? (Text.lowercase (Text.trim text))
  else none

def asked? (agent : Agent) (tool : String) (parameters : Json) : Option Operation :=
  (command? tool parameters).bind fun command =>
    command.operation? (handleFor agent parameters) parameters

theorem user_handleFor (agent : Agent) (parameters : Json) :
    (handleFor agent parameters).user = agent.user := by
  unfold handleFor
  split
  · split <;> rfl
  · rfl

def Refuses : Except Error Result → Prop
  | .error _ => True
  | .ok result =>
    (∃ command, result.error = some ("ERR:Invalid " ++ command ++ " Syntax")) ∨
      result.error = some "ERR:Unknown Command"

theorem execute_of_unasked (h : asked? agent tool parameters = none) (engine : Engine σ)
    (now : Instant) :
    ∃ answer, execute agent engine now tool parameters = pure answer ∧ Refuses answer ∧
      ((∃ e, answer = .error e) ↔
        tool ≠ toolName ∨ textArgument parameters "command" = none) := by
  unfold execute
  by_cases htool : tool = toolName
  · rw [if_neg fun hne => hne htool]
    cases htext : textArgument parameters "command" with
    | none => exact ⟨.error _, rfl, trivial, by simp⟩
    | some text =>
      simp only
      cases hname : Command.ofName? (Text.lowercase (Text.trim text)) with
      | none => exact ⟨.ok _, rfl, .inr rfl, by simp [htool]⟩
      | some command =>
        have hnone : command.operation? (handleFor agent parameters) parameters = none := by
          simpa [asked?, command?, htool, htext, hname] using h
        refine ⟨.ok (invalidSyntax command.label), ?_, .inl ⟨command.label, rfl⟩, by simp [htool]⟩
        simp only [run_eq, hnone]
        rfl
  · rw [if_pos htool]
    exact ⟨.error _, rfl, trivial, by simp [htool]⟩

def report (agent : Agent) (parameters : Json) (command : Command) :
    EStateM.Result Failure (State σ) Answer →
      EStateM.Result Failure (State σ) (Except Error Result)
  | .ok answer s => .ok (.ok (inSpace agent (command.resultOf parameters answer))) s
  | .error (.store e) s => .ok (.ok (Result.ofStoreError e)) s
  | .error .counterOverflow s => .error .counterOverflow s

/-- A call that asks for an operation carries it out, and reports its answer or its failure. -/
theorem execute_of_asked {operation : Operation}
    (h : asked? agent tool parameters = some operation) (engine : Engine σ) (now : Instant) :
    (tool = toolName ∧ textArgument parameters "command" ≠ none) ∧
      ∃ command, ∀ s, execute agent engine now tool parameters s =
        report (handleFor agent parameters) parameters command
          (perform engine ⟨agent.user, now, operation⟩ s) := by
  obtain ⟨command, hcommand, hoperation⟩ := Option.bind_eq_some_iff.1 h
  unfold command? at hcommand
  split at hcommand
  · rename_i htool
    obtain ⟨text, htext, hname⟩ := Option.bind_eq_some_iff.1 hcommand
    refine ⟨⟨htool, by simp [htext]⟩, command, fun s => ?_⟩
    rw [execute, if_neg fun hne => hne htool]
    simp only [htext, hname, run_eq, hoperation, user_handleFor, bind_apply,
      reportingFailure]
    cases perform engine ⟨agent.user, now, operation⟩ s with
    | ok answer s' => rfl
    | error failure s' => cases failure <;> rfl
  · cases hcommand

end Keyspace.Tool.DataStore
