import Keyspace.Proofs.Engine.Memory
import Keyspace.Proofs.Engine.Reference

set_option autoImplicit false

namespace Keyspace.Memory

open Engine (Command Reply)
open Engine.Reference

variable {m : Memory} {history : List Command} {db id : String}

/-- Every id of every database holds what some commands have it hold, and counts its documents. -/
def Follows (history : List Command) (m : Memory) : Prop :=
  ∀ db id, ((m.database db).get? id).map (fun stored => (stored.doc, stored.revision)) =
    (held? history db id).map fun doc => (doc, (saves history db id).length)

theorem follows_empty : Follows [] empty := fun _ _ => rfl

theorem Follows.held?_eq (h : Follows history m) (db id : String) :
    held? history db id = ((m.database db).get? id).map (·.doc) := by
  have hdoc := congrArg (Option.map Prod.fst) (h db id)
  simpa [Function.comp_def] using hdoc.symm

theorem Follows.nextRevision_eq (h : Follows history m) (db id : String) :
    m.nextRevision db id = (saves history db id).length + 1 := by
  have hcount := h db id
  rw [nextRevision, find?]
  cases hstored : (m.database db).get? id with
  | none =>
    rw [hstored, Option.map_none, eq_comm, Option.map_eq_none_iff, held?, latest?_eq_none_iff]
      at hcount
    simp [hcount]
  | some stored =>
    rw [hstored, Option.map_some, eq_comm, Option.map_eq_some_iff] at hcount
    obtain ⟨doc, -, hpair⟩ := hcount
    simp [← (Prod.mk.inj hpair).2]

theorem Follows.documents_eq (h : Follows history m) (db : String) :
    m.documents db = (shelf history db).values := by
  have hshelf : (m.database db).map (·.doc) = shelf history db := by
    refine SortedMap.ext_get? fun id => ?_
    rw [SortedMap.get?_map, get?_shelf, h.held?_eq]
  rw [← hshelf]
  simp [documents, SortedMap.values, SortedMap.map, Function.comp_def]

theorem accepts_eq_decide (selector : Selector) (doc : Document) :
    selector.accepts doc = decide (Meets selector doc) := by
  rw [Bool.eq_iff_iff, decide_eq_true_iff, Selector.accepts, List.all_eq_true]
  simp only [Meets, SortedMap.get?_eq_some_iff, Prod.forall]
  rfl

theorem project_eq_restricted {doc : Document} {value : Json}
    (h : doc.get? Document.idField = some value) (names : List String) :
    doc.project names = restricted doc names := by
  simp only [Document.project, restricted, h, SortedMap.ofList, SortedMap.extend, List.map_cons,
    List.foldl_cons, List.foldl_map, Option.getD_some, Document.field]

theorem get?_id_of_held {doc : Document} (h : held? history db id = some doc) :
    doc.get? Document.idField = some (.str id) := by
  obtain ⟨saved, -, rfl⟩ := Option.map_eq_some_iff.1 h
  rw [SortedMap.get?_insert, if_neg (by decide), SortedMap.get?_insert_self]

theorem select_shelf (history : List Command) (db : String) (selector : Selector)
    (fields : Option (List String)) (limit : Nat) :
    selector.select fields limit (shelf history db).values =
      (((shelf history db).values.filter (Meets selector)).take limit).map (shown fields) := by
  have hfilter : selector.accepts = fun doc => decide (Meets selector doc) :=
    funext (accepts_eq_decide selector)
  have hshown : ∀ doc ∈ ((shelf history db).values.filter (Meets selector)).take limit,
      ∀ names, doc.project names = restricted doc names := by
    intro doc hdoc names
    obtain ⟨id, hid⟩ := SortedMap.mem_values_iff.1
      (List.mem_of_mem_filter (List.mem_of_mem_take hdoc))
    rw [get?_shelf] at hid
    exact project_eq_restricted (get?_id_of_held hid) names
  cases fields with
  | none =>
    simp only [Selector.select, hfilter]
    exact (List.map_id _).symm
  | some names =>
    cases names with
    | nil =>
      simp only [Selector.select, hfilter]
      exact (List.map_id _).symm
    | cons name rest =>
      simp only [Selector.select, hfilter]
      exact List.map_congr_left fun doc hdoc => hshown doc hdoc _

theorem validate_eq (selector : Selector) :
    selector.validate =
      if ∃ name ∈ selector.keys, Blank name then
        .error (.invalidSelector "selector contains an empty field name")
      else .ok () := by
  have hany : selector.keys.any Text.allBlank = true ↔ ∃ name ∈ selector.keys, Blank name := by
    simp only [List.any_eq_true, Text.allBlank, List.all_eq_true, Blank]
  rw [Selector.validate]
  split
  · rename_i hblank
    rw [if_pos (hany.1 hblank)]
  · rename_i hblank
    rw [if_neg (mt hany.2 hblank)]

theorem find_run_of_blank {selector : Selector} {e : StoreError}
    (h : selector.validate = .error e) (fields : Option (List String)) (limit : Nat) :
    Engine.memory.find db selector fields limit m = .error e m := by
  simp [Engine.memory, Engine.scan, h, Engine.orThrow]

theorem outcome_of_follows (h : Follows history m) (c : Command) :
    (c.outcome Engine.memory m).1 = answer history c := by
  cases c with
  | get db id =>
    simp only [Command.outcome, Command.perform, Engine.memory, bind_apply, get_run, answer,
      heldOr, h.held?_eq]
    cases (m.database db).get? id <;> rfl
  | save now db id doc =>
    simp only [Command.outcome, Command.perform, Engine.memory, bind_apply, save_run, answer,
      h.nextRevision_eq]
    rfl
  | delete db id =>
    simp only [Command.outcome, Command.perform, Engine.memory, bind_apply, delete_run,
      answer, heldOr, h.held?_eq]
    cases (m.database db).get? id <;> rfl
  | listAll db =>
    rw [answer, ← h.documents_eq]
    rfl
  | find db selector fields limit =>
    have hvalid := validate_eq selector
    rw [answer, ← select_shelf, ← h.documents_eq]
    simp only [Command.outcome, Command.perform, bind_apply]
    split at hvalid
    · rename_i hblank
      rw [if_pos hblank, find_run_of_blank hvalid]
    · rename_i hblank
      rw [if_neg hblank, find_run m db hvalid]
      rfl
  | ensureIndex db index =>
    obtain ⟨m', hrun, -⟩ := ensureIndex_run m db index
    simp only [Command.outcome, Command.perform, Engine.memory, bind_apply, hrun, answer]
    rfl

def next (m : Memory) : Command → Memory
  | .save now db id doc => m.put db id (m.written now db id doc)
  | .delete db id => if ((m.database db).get? id).isSome then m.remove db id else m
  | .ensureIndex db index => finalState (ensureIndex db index m)
  | .get .. | .listAll _ | .find .. => m

theorem outcome_snd (m : Memory) (c : Command) : (c.outcome Engine.memory m).2 = m.next c := by
  cases c with
  | get db id =>
    simp only [Command.outcome, Command.perform, Engine.memory, bind_apply, get_run]
    cases (m.database db).get? id <;> rfl
  | save now db id doc => rfl
  | delete db id =>
    simp only [Command.outcome, Command.perform, Engine.memory, bind_apply, delete_run, next]
    cases (m.database db).get? id <;> rfl
  | listAll db => rfl
  | find db selector fields limit =>
    have hvalid := validate_eq selector
    simp only [Command.outcome, Command.perform, bind_apply]
    split at hvalid
    · rw [find_run_of_blank hvalid]
      rfl
    · rw [find_run m db hvalid]
      rfl
  | ensureIndex db index =>
    obtain ⟨m', hrun, -⟩ := ensureIndex_run m db index
    simp only [Command.outcome, Command.perform, Engine.memory, bind_apply, hrun, next]
    rfl

theorem get?_database_put (m : Memory) (db id : String) (stored : StoredDocument)
    (other key : String) :
    ((m.put db id stored).database other).get? key =
      if db = other ∧ id = key then some stored else (m.database other).get? key := by
  by_cases hdb : db = other
  · subst hdb
    simp [SortedMap.get?_insert, eq_comm]
  · simp [put, database, SortedMap.get?_insert, hdb, Ne.symm hdb]

theorem get?_database_remove (m : Memory) (db id other key : String) :
    ((m.remove db id).database other).get? key =
      if db = other ∧ id = key then none else (m.database other).get? key := by
  by_cases hdb : db = other
  · subst hdb
    simp [SortedMap.get?_erase, eq_comm]
  · simp [remove, database, SortedMap.get?_insert, hdb, Ne.symm hdb]

theorem Follows.unchanged {m' : Memory} (h : Follows history m) {c : Command}
    (hdatabase : ∀ db, m'.database db = m.database db)
    (hsaved : ∀ db id docs, saved db id docs c = docs) : Follows (history ++ [c]) m' := by
  intro db id
  rw [held?, saves_append, hsaved, hdatabase]
  exact h db id

theorem Follows.put (h : Follows history m) (now : Instant) (db id : String) (doc : Document) :
    Follows (history ++ [.save now db id doc]) (m.put db id (m.written now db id doc)) := by
  intro other key
  rw [get?_database_put, held?, saves_append, saved]
  split
  · rename_i hsame
    obtain ⟨rfl, rfl⟩ := hsame
    simp [written, h.nextRevision_eq, latest?, stamped, Memory.token, Engine.Reference.token]
  · exact h other key

theorem Follows.remove (h : Follows history m) (db id : String) :
    Follows (history ++ [.delete db id]) (m.remove db id) := by
  intro other key
  rw [get?_database_remove, held?, saves_append, saved]
  split
  · rfl
  · exact h other key

theorem Follows.delete_none (h : Follows history m) {db id : String}
    (hnone : (m.database db).get? id = none) : Follows (history ++ [.delete db id]) m := by
  intro other key
  rw [held?, saves_append, saved]
  split
  · rename_i hsame
    obtain ⟨rfl, rfl⟩ := hsame
    rw [hnone]
    rfl
  · exact h other key

theorem follows_next (h : Follows history m) (c : Command) :
    Follows (history ++ [c]) (m.next c) := by
  cases c with
  | save now db id doc => exact h.put now db id doc
  | delete db id =>
    rw [next]
    split
    · exact h.remove db id
    · rename_i hnone
      exact h.delete_none (Option.not_isSome_iff_eq_none.1 hnone)
  | ensureIndex db index =>
    obtain ⟨m', hrun, hdatabase⟩ := ensureIndex_run m db index
    rw [next, hrun]
    exact h.unchanged hdatabase fun _ _ _ => rfl
  | get | listAll | find => exact h.unchanged (fun _ => rfl) fun _ _ _ => rfl

theorem follows_after (history : List Command) :
    Follows history (Command.after Engine.memory history empty) := by
  induction history using List.reverseRecOn with
  | nil => exact follows_empty
  | append_singleton history c ih =>
    rw [Command.after_append, outcome_snd]
    exact follows_next ih c

theorem indexesOf_ensureIndex (m : Memory) (db : String) (index : Index) (other : String) :
    (finalState (ensureIndex db index m)).indexesOf other =
      if db = other ∧ ∀ known ∈ m.indexesOf db, known.sortedFields ≠ index.sortedFields then
        m.indexesOf db ++ [index]
      else m.indexesOf other := by
  simp only [ensureIndex, bind_apply, get_apply]
  split
  · rename_i hknown
    obtain ⟨known, hmem, hsame⟩ := List.any_eq_true.1 hknown
    rw [if_neg fun hnew => hnew.2 known hmem (by simpa using hsame)]
    rfl
  · rename_i hnew
    have hfresh : ∀ known ∈ m.indexesOf db, known.sortedFields ≠ index.sortedFields := by
      simpa using hnew
    by_cases hdb : db = other
    · subst hdb
      rw [if_pos ⟨rfl, hfresh⟩]
      simp [finalState, indexesOf]
    · rw [if_neg fun hsame => hdb hsame.1]
      simp [finalState, indexesOf, SortedMap.get?_insert, Ne.symm hdb]

/-- The indexes recorded for a database are those asked for, one for each list of sorted fields. -/
structure Recorded (history : List Command) (db : String) (indexes : List Index) : Prop where
  distinct : indexes.Pairwise fun a b => a.sortedFields ≠ b.sortedFields
  asked : ∀ index ∈ indexes, .ensureIndex db index ∈ history
  complete : ∀ index, .ensureIndex db index ∈ history →
    ∃ known ∈ indexes, known.sortedFields = index.sortedFields

theorem recorded_nil (db : String) : Recorded [] db [] := ⟨.nil, by simp, by simp⟩

theorem Recorded.add {indexes : List Index} (h : Recorded history db indexes) {index : Index}
    (hnew : ∀ known ∈ indexes, known.sortedFields ≠ index.sortedFields) :
    Recorded (history ++ [.ensureIndex db index]) db (indexes ++ [index]) where
  distinct := List.pairwise_append.2 ⟨h.distinct, List.pairwise_singleton _ _, by simpa using hnew⟩
  asked := by
    intro other hother
    rcases List.mem_append.1 hother with hother | hother
    · exact List.mem_append_left _ (h.asked other hother)
    · simp [List.mem_singleton.1 hother]
  complete := by
    intro other hother
    rcases List.mem_append.1 hother with hother | hother
    · obtain ⟨known, hmem, hsame⟩ := h.complete other hother
      exact ⟨known, List.mem_append_left _ hmem, hsame⟩
    · cases List.mem_singleton.1 hother
      exact ⟨index, by simp, rfl⟩

theorem Recorded.keep {indexes : List Index} (h : Recorded history db indexes) {c : Command}
    (hknown : ∀ index, c = .ensureIndex db index →
      ∃ known ∈ indexes, known.sortedFields = index.sortedFields) :
    Recorded (history ++ [c]) db indexes where
  distinct := h.distinct
  asked index hindex := List.mem_append_left _ (h.asked index hindex)
  complete := by
    intro index hindex
    rcases List.mem_append.1 hindex with hindex | hindex
    · exact h.complete index hindex
    · exact hknown index (List.mem_singleton.1 hindex).symm

theorem recorded_next (h : ∀ db, Recorded history db (m.indexesOf db)) (c : Command)
    (db : String) : Recorded (history ++ [c]) db ((m.next c).indexesOf db) := by
  cases c with
  | ensureIndex db' index =>
    rw [next, indexesOf_ensureIndex]
    split
    · rename_i hnew
      obtain ⟨rfl, hnew⟩ := hnew
      exact (h db').add hnew
    · rename_i hknown
      refine (h db).keep fun other hr => ?_
      cases hr
      simpa using hknown
  | delete db' id =>
    have hindexes : (m.next (.delete db' id)).indexes = m.indexes := by
      rw [next]
      split <;> rfl
    rw [indexesOf, hindexes]
    exact (h db).keep nofun
  | get | save | listAll | find => exact (h db).keep nofun

theorem recorded_after (history : List Command) (db : String) :
    Recorded history db ((Command.after Engine.memory history empty).indexesOf db) := by
  induction history using List.reverseRecOn generalizing db with
  | nil => exact recorded_nil db
  | append_singleton history c ih =>
    rw [Command.after_append, outcome_snd]
    exact recorded_next ih c db

/-- After any commands, the engine in memory answers every further one as the reference does, and
as if the commands about other databases had not been sent; and it has recorded each index that was
asked for once, whatever the order of its fields. -/
theorem memory_refines_reference (history : List Command) :
    (∀ c : Command,
      (c.outcome Engine.memory (Command.after Engine.memory history empty)).1 =
        answer history c) ∧
      (∀ c : Command,
        (c.outcome Engine.memory (Command.after Engine.memory history empty)).1 =
          (c.outcome Engine.memory
            (Command.after Engine.memory (about history c.database) empty)).1) ∧
      ∀ db, Recorded history db ((Command.after Engine.memory history empty).indexesOf db) := by
  have hanswer : ∀ history (c : Command),
      (c.outcome Engine.memory (Command.after Engine.memory history empty)).1 =
        answer history c :=
    fun history c => outcome_of_follows (follows_after history) c
  refine ⟨hanswer history, fun c => ?_, recorded_after history⟩
  rw [hanswer, hanswer, answer_about]

end Keyspace.Memory
