import Keyspace.Proofs.Service.Values
import Keyspace.Proofs.Tool.PlainMap
import Mathlib.Algebra.GroupWithZero.Nat
import Mathlib.Data.List.Infix

set_option autoImplicit false

namespace Keyspace.Tool.DataStore

open Service (Run State Matches findLimit docs start updateAt)

def Command.readCount (parameters : Json) : Command → Nat
  | .get | .getAll => 1
  | .getMany => ((textsArgument parameters "keys").getD []).length
  | _ => 0

variable {user : String} {m : PlainMap} {reads : Nat} {s : State Memory} {now : Instant}

theorem lookup_put_eq (m : PlainMap) (name key : String) (value : Json) :
    (m.put name key value).lookup = updateAt m.lookup name key (some value) := by
  funext name' key'
  rw [PlainMap.lookup_put, updateAt]

theorem lookup_remove_eq (m : PlainMap) (name key : String) :
    (m.remove name key).lookup = updateAt m.lookup name key none := by
  funext name' key'
  rw [PlainMap.lookup_remove, updateAt]

theorem lookup_clear_eq (m : PlainMap) (name : String) :
    (m.clear name).lookup = Service.clearKeys m.lookup name (m.space name).keys := by
  funext name' key
  rw [PlainMap.lookup_clear, Service.clearKeys]
  by_cases hname : name' = name
  · subst hname
    by_cases hkey : key ∈ (m.space name').keys
    · simp [hkey]
    · have hnone : m.lookup name' key = none := SortedMap.get?_eq_none_iff.2 hkey
      simp [hkey, hnone]
  · simp [hname]

theorem lookup_foldl_put_eq (name : String) (metadata : Option Document)
    (items : List (String × Json)) (m : PlainMap) :
    (items.foldl (fun m item => m.put name item.1 item.2) m).lookup =
      Service.updateAll m.lookup (items.map fun item => ⟨name, item.1, item.2, metadata⟩) := by
  induction items generalizing m with
  | nil => rfl
  | cons item rest ih =>
    rw [List.foldl_cons, ih, lookup_put_eq, List.map_cons, Service.updateAll, Service.updateAll,
      List.foldl_cons]

theorem inhabited_eq (m : PlainMap) :
    ∃ spaces : SortedMap Unit, spaces.keys = m.inhabited ∧
      ∀ name, (∃ u, spaces.get? name = some u) ↔ ∃ key v, m.lookup name key = some v := by
  refine ⟨(m.spaces.filter fun _ values => !values.entries.isEmpty).map fun _ => (), ?_,
    fun name => ?_⟩
  · simp [SortedMap.keys, SortedMap.map, PlainMap.inhabited]
  · rw [SortedMap.get?_map, SortedMap.get?_filter]
    unfold PlainMap.lookup PlainMap.space
    cases hspace : m.spaces.get? name with
    | none => simp
    | some values =>
      cases hentries : values.entries with
      | nil => simp [Option.filter, hentries, SortedMap.get?, SortedMap.lookup]
      | cons e rest =>
        have hfirst : values.get? e.1 = some e.2 :=
          SortedMap.get?_eq_some_iff.2 (hentries ▸ List.mem_cons_self)
        constructor
        · exact fun _ => ⟨e.1, e.2, by simpa using hfirst⟩
        · exact fun _ => ⟨(), by simp [Option.filter, hentries]⟩

/-- An operation over memory that answers as a plain map does, and matches that map afterwards. -/
def Answers (user : String) (operation : Run Memory Result) (s : State Memory)
    (expected : Reply × PlainMap) (reads : Nat) : Prop :=
  ∃ r s', operation s = .ok r s' ∧ replyOf r = expected.1 ∧
    Matches user expected.2.lookup reads s'

theorem Answers.pure {r : Result} {reply : Reply} (h : Matches user m.lookup reads s)
    (hreply : replyOf r = reply) : Answers user (pure r) s (reply, m) reads :=
  ⟨r, s, rfl, hreply, h⟩

theorem Answers.bind {α : Type} {x : Run Memory α} {f : α → Run Memory Result} {a : α}
    {s' : State Memory} {expected : Reply × PlainMap} (hx : x s = .ok a s')
    (h : Answers user (f a) s' expected reads) : Answers user (x >>= f) s expected reads := by
  obtain ⟨r, s'', hrun, hrest⟩ := h
  refine ⟨r, s'', ?_, hrest⟩
  simp only [bind_apply, hx, hrun]

section Commands

variable {agent : Agent} (h : Matches agent.user m.lookup reads s) {parameters : Json}

include h

theorem run_get (hnow : now.InRange) (hreads : reads + 1 < 2 ^ 64) :
    Answers agent.user (run agent Engine.memory now parameters .get) s
      (m.run agent.space parameters .get) (reads + 1) := by
  cases hkey : textArgument parameters "key" with
  | none =>
    simp only [run, PlainMap.run, hkey]
    exact .pure (h.mono (Nat.le_succ reads)) rfl
  | some key =>
    obtain ⟨r, s', hget, hvalue, hs'⟩ := h.get hreads hnow agent.space key agent.name
    have hagent : agent.get Engine.memory now key s = .ok (m.lookup agent.space key) s' := by
      simp only [Agent.get, bind_apply, hget, ← hvalue]
      rfl
    simp only [run, PlainMap.run, hkey]
    refine .bind hagent ?_
    cases m.lookup agent.space key with
    | some value => exact .pure hs' rfl
    | none =>
      cases parameters.member? "default" with
      | some value => exact .pure hs' rfl
      | none => exact .pure hs' rfl

theorem run_set (hnow : now.InRange) (hspace : agent.space ≠ "") :
    Answers agent.user (run agent Engine.memory now parameters .set) s
      (m.run agent.space parameters .set) reads := by
  cases hkey : textArgument parameters "key" with
  | none =>
    simp only [run, PlainMap.run, hkey]
    exact .pure h rfl
  | some key =>
    cases hvalue : parameters.member? "value" with
    | none =>
      simp only [run, PlainMap.run, hkey, hvalue]
      exact .pure h rfl
    | some value =>
      obtain ⟨r, s', hset, hs'⟩ := h.set hspace hnow key value (some agent.name)
        (mapArgument parameters "metadata")
      have hagent : agent.set Engine.memory now key value (mapArgument parameters "metadata") s =
          .ok () s' := by
        simp only [Agent.set, bind_apply, hset]
        rfl
      rw [← lookup_put_eq] at hs'
      simp only [run, PlainMap.run, hkey, hvalue]
      exact .bind hagent (.pure hs' rfl)

theorem run_delete :
    Answers agent.user (run agent Engine.memory now parameters .delete) s
      (m.run agent.space parameters .delete) reads := by
  cases hkey : textArgument parameters "key" with
  | none =>
    simp only [run, PlainMap.run, hkey]
    exact .pure h rfl
  | some key =>
    obtain ⟨s', hdelete, hs'⟩ := h.delete agent.space key
    simp only [run, PlainMap.run, hkey]
    refine .bind hdelete ?_
    cases hfound : m.lookup agent.space key with
    | some value =>
      rw [← lookup_remove_eq] at hs'
      exact .pure hs' rfl
    | none =>
      have hsame : updateAt m.lookup agent.space key none = m.lookup := by
        funext name' key'
        unfold updateAt
        split
        · rename_i heq
          rw [heq.1, heq.2, hfound]
        · rfl
      rw [hsame] at hs'
      exact .pure hs' rfl

theorem run_listKeys (hlimit : (docs s).size ≤ findLimit) :
    Answers agent.user (run agent Engine.memory now parameters .listKeys) s
      (m.run agent.space parameters .listKeys) reads :=
  .bind (h.listKeys hlimit (m := m.space agent.space) (fun _ => rfl) _) (.pure h rfl)

theorem run_listSpaces (hlimit : (docs s).size ≤ findLimit) :
    Answers agent.user (run agent Engine.memory now parameters .listSpaces) s
      (m.run agent.space parameters .listSpaces) reads := by
  obtain ⟨spaces, hkeys, hspaces⟩ := inhabited_eq m
  have hrun := h.listSpaces hlimit hspaces
  rw [hkeys] at hrun
  exact .bind hrun (.pure h rfl)

theorem run_getAll (hlimit : (docs s).size ≤ findLimit) (hnow : now.InRange)
    (hreads : reads + 1 < 2 ^ 64) :
    Answers agent.user (run agent Engine.memory now parameters .getAll) s
      (m.run agent.space parameters .getAll) (reads + 1) := by
  obtain ⟨s', hrun, hs'⟩ :=
    h.getAll hlimit hreads hnow (m := m.space agent.space) (fun _ => rfl) agent.name
  exact .bind hrun (.pure hs' rfl)

theorem run_getMany (hnow : now.InRange)
    (hreads : reads + Command.readCount parameters .getMany < 2 ^ 64) :
    Answers agent.user (run agent Engine.memory now parameters .getMany) s
      (m.run agent.space parameters .getMany) (reads + Command.readCount parameters .getMany) := by
  unfold Command.readCount at hreads ⊢
  cases hkeys : textsArgument parameters "keys" with
  | none =>
    simp only [run, PlainMap.run, hkeys]
    exact .pure h rfl
  | some keys =>
    rw [hkeys] at hreads
    obtain ⟨s', hrun, hs'⟩ :=
      h.getMany hreads hnow (m := m.space agent.space) (fun _ => rfl) agent.name
    simp only [run, PlainMap.run, hkeys]
    exact .bind hrun (.pure hs' rfl)

theorem run_setMany (hnow : now.InRange) (hspace : agent.space ≠ "") :
    Answers agent.user (run agent Engine.memory now parameters .setMany) s
      (m.run agent.space parameters .setMany) reads := by
  cases hitems : mapArgument parameters "items" with
  | none =>
    simp only [run, PlainMap.run, hitems]
    exact .pure h rfl
  | some items =>
    have hspaces : ∀ item ∈ items.entries.map fun item : String × Json =>
        (⟨agent.space, item.1, item.2, mapArgument parameters "metadata"⟩ : BatchItem),
        item.space ≠ "" := by
      intro item hitem
      obtain ⟨e, _, rfl⟩ := List.mem_map.1 hitem
      exact hspace
    obtain ⟨s', hrun, hs'⟩ := h.setMany hnow hspaces (some agent.name)
    rw [← lookup_foldl_put_eq] at hs'
    rw [List.length_map] at hrun
    simp only [run, PlainMap.run, hitems]
    exact .bind hrun (.pure hs' rfl)

theorem run_clear (hlimit : (docs s).size ≤ findLimit) :
    Answers agent.user (run agent Engine.memory now parameters .clear) s
      (m.run agent.space parameters .clear) reads := by
  obtain ⟨s', hrun, hs'⟩ := h.clear hlimit (m := m.space agent.space) (fun _ => rfl)
  rw [← lookup_clear_eq] at hs'
  exact .bind hrun (.pure hs' rfl)

theorem run_answers (hlimit : (docs s).size ≤ findLimit) (hnow : now.InRange)
    (hspace : agent.space ≠ "") {command : Command}
    (hreads : reads + command.readCount parameters < 2 ^ 64) :
    Answers agent.user (run agent Engine.memory now parameters command) s
      (m.run agent.space parameters command) (reads + command.readCount parameters) := by
  cases command with
  | get => exact run_get h hnow hreads
  | set => exact run_set h hnow hspace
  | delete => exact run_delete h
  | listKeys => exact run_listKeys h hlimit
  | listSpaces => exact run_listSpaces h hlimit
  | getAll => exact run_getAll h hlimit hnow hreads
  | getMany => exact run_getMany h hnow hreads
  | setMany => exact run_setMany h hnow hspace
  | clear => exact run_clear h hlimit

end Commands

structure Call where
  agent : String
  now : Instant
  tool : String
  parameters : Json

def Call.command? (c : Call) : Option Command :=
  (textArgument c.parameters "command").bind fun text =>
    Command.ofName? (Text.lowercase (Text.trim text))

def Call.readCount (c : Call) : Nat :=
  match c.command? with
  | some command => command.readCount c.parameters
  | none => 0

def Call.outcome (user : String) (c : Call) (s : State Memory) :
    Except Failure (Except Error Result) × State Memory :=
  match (provider (Agent.new user c.agent) Engine.memory).execute c.now c.tool c.parameters s with
  | .ok r s => (.ok r, s)
  | .error e s => (.error e, s)

def replies (user : String) : List Call → State Memory → List (Except Failure (Except Error Reply))
  | [], _ => []
  | c :: rest, s =>
    (c.outcome user s).1.map (·.map replyOf) :: replies user rest (c.outcome user s).2

def afterCalls (user : String) (calls : List Call) (s : State Memory) : State Memory :=
  calls.foldl (fun s c => (c.outcome user s).2) s

def PlainMap.replies : List Call → PlainMap → List (Except Error Reply)
  | [], _ => []
  | c :: rest, m =>
    (m.call c.tool c.parameters).1 :: PlainMap.replies rest (m.call c.tool c.parameters).2

theorem handleFor_new (user name : String) (parameters : Json) :
    handleFor (Agent.new user name) parameters = ⟨user, name, PlainMap.spaceFor parameters⟩ := by
  unfold handleFor PlainMap.spaceFor
  cases textArgument parameters "namespace" with
  | none => rfl
  | some space => cases hempty : space.isEmpty <;> simp [hempty, Agent.new, Agent.withSpace]

theorem outcome_eq_call {c : Call} (h : Matches user m.lookup reads s)
    (hlimit : (docs s).size ≤ findLimit) (hnow : c.now.InRange)
    (hreads : reads + c.readCount < 2 ^ 64) :
    (c.outcome user s).1.map (·.map replyOf) = .ok (m.call c.tool c.parameters).1 ∧
      Matches user (m.call c.tool c.parameters).2.lookup (reads + c.readCount)
        (c.outcome user s).2 := by
  obtain ⟨name, now, tool, parameters⟩ := c
  have hstay := h.mono (Nat.le_add_right reads (Call.readCount ⟨name, now, tool, parameters⟩))
  unfold Call.outcome PlainMap.call provider execute
  by_cases htool : tool = toolName
  · subst htool
    simp only [ne_eq, not_true_eq_false, if_false, handleFor_new]
    cases hcommand : textArgument parameters "command" with
    | none =>
      simp only [pure_apply, Except.map]
      exact ⟨trivial, hstay⟩
    | some text =>
      dsimp only
      cases hname : Command.ofName? (Text.lowercase (Text.trim text)) with
      | none =>
        simp only [pure_apply, Except.map]
        exact ⟨rfl, hstay⟩
      | some command =>
        have hcount : Call.readCount ⟨name, now, toolName, parameters⟩ =
            command.readCount parameters := by
          simp only [Call.readCount, Call.command?, hcommand, Option.bind_some, hname]
        rw [hcount] at hreads ⊢
        obtain ⟨r, s', hrun, hreply, hs'⟩ :=
          @run_answers m reads s now ⟨user, name, PlainMap.spaceFor parameters⟩ h parameters hlimit
            hnow (PlainMap.spaceFor_ne_empty parameters) command hreads
        have hreport : reportingFailure (run ⟨user, name, PlainMap.spaceFor parameters⟩
            Engine.memory now parameters command) s = .ok r s' := by
          simp only [reportingFailure, hrun]
        simp only [bind_apply, hreport, pure_apply, Except.map, hreply]
        exact ⟨trivial, hs'⟩
  · simp only [htool, ne_eq, not_false_eq_true, if_true, pure_apply, Except.map]
    exact ⟨trivial, hstay⟩

theorem replies_eq_of_matches {calls : List Call} (h : Matches user m.lookup reads s)
    (hlimit : ∀ before, before <+: calls →
      (docs (afterCalls user before s)).size ≤ findLimit)
    (hnow : ∀ c ∈ calls, c.now.InRange)
    (hreads : reads + (calls.map Call.readCount).sum < 2 ^ 64) :
    replies user calls s = (PlainMap.replies calls m).map .ok := by
  induction calls generalizing m reads s with
  | nil => rfl
  | cons c rest ih =>
    rw [List.map_cons, List.sum_cons] at hreads
    obtain ⟨hreply, hs'⟩ := outcome_eq_call h (hlimit [] List.nil_prefix)
      (hnow c List.mem_cons_self) (by omega : reads + c.readCount < 2 ^ 64)
    have hrest := ih hs'
      (fun before hbefore => hlimit (c :: before) (List.cons_prefix_cons.2 ⟨rfl, hbefore⟩))
      (fun d hd => hnow d (List.mem_cons_of_mem c hd)) (by omega)
    rw [replies, PlainMap.replies, List.map_cons, hreply, hrest]

theorem matches_start (user : String) :
    Matches user PlainMap.empty.lookup 0 (start Memory.empty) :=
  ⟨fun _ _ h => absurd h (by simp), fun _ _ _ h => absurd h (by
    simp [PlainMap.empty, PlainMap.lookup, PlainMap.space])⟩

/-- The replies of the tool are those of a plain map. -/
theorem replies_eq_plain (user : String) (calls : List Call)
    (hlimit : ∀ before, before <+: calls →
      (docs (afterCalls user before (start Memory.empty))).size ≤ findLimit)
    (hnow : ∀ c ∈ calls, c.now.InRange)
    (hreads : (calls.map Call.readCount).sum < 2 ^ 64 - 1) :
    replies user calls (start Memory.empty) = (PlainMap.replies calls PlainMap.empty).map .ok :=
  replies_eq_of_matches (matches_start user) hlimit hnow (by omega)

def sampleCalls : List Call :=
  [⟨"a", Instant.epoch, "data_store",
      .obj [("command", .str " SET"), ("key", .str "k"), ("value", .bool true)]⟩,
    ⟨"b", Instant.epoch, "data_store", .obj [("command", .str "get"), ("key", .str "k")]⟩]

theorem replies_sampleCalls :
    replies "u" sampleCalls (start Memory.empty) =
      [.ok (.ok (.ok (.obj [("status", .str "OK")]))),
        .ok (.ok (.ok (.obj [("key", .str "k"), ("value", .bool true)])))] := by
  have hlimit : ∀ before, before <+: sampleCalls →
      (docs (afterCalls "u" before (start Memory.empty))).size ≤ findLimit := by
    intro before hbefore
    have hall : ∀ calls ∈ sampleCalls.inits,
        (docs (afterCalls "u" calls (start Memory.empty))).size ≤ findLimit := by decide +kernel
    exact hall before ((List.mem_inits _ _).2 hbefore)
  have hnow : ∀ c ∈ sampleCalls, c.now.InRange := by decide
  have hreads : (sampleCalls.map Call.readCount).sum < 2 ^ 64 - 1 := by decide +kernel
  rw [replies_eq_plain "u" sampleCalls hlimit hnow hreads]
  rfl

end Keyspace.Tool.DataStore
