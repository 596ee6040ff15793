import Keyspace.Proofs.Engine.Command
import Keyspace.Proofs.SortedMap
import Mathlib.Data.List.Dedup
import Mathlib.Data.List.Induction

set_option autoImplicit false

namespace Keyspace.Engine.Reference

def saved (db id : String) (docs : List Document) : Command → List Document
  | .save _ db' id' doc => if db' = db ∧ id' = id then docs ++ [doc] else docs
  | .delete db' id' => if db' = db ∧ id' = id then [] else docs
  | .get .. | .listAll _ | .find .. | .ensureIndex .. => docs

/-- The documents saved under an id of a database since it was last free, the latest one last. -/
def saves (history : List Command) (db id : String) : List Document :=
  history.foldl (saved db id) []

theorem saves_append (history : List Command) (c : Command) (db id : String) :
    saves (history ++ [c]) db id = saved db id (saves history db id) c := by
  simp [saves]

def token (count : Nat) : String := toString count ++ "-mem"

def latest? (id : String) (docs : List Document) : Option Document :=
  docs.getLast?.map fun doc =>
    (doc.insert Document.idField (.str id)).insert Document.revField (.str (token docs.length))

/-- What an id of a database holds. -/
def held? (history : List Command) (db id : String) : Option Document :=
  latest? id (saves history db id)

theorem latest?_eq_none_iff {id : String} {docs : List Document} :
    latest? id docs = none ↔ docs = [] := by
  simp [latest?]

def savedIds (history : List Command) (db : String) : List String :=
  history.filterMap fun
    | .save _ db' id _ => if db' = db then some id else none
    | .get .. | .delete .. | .listAll _ | .find .. | .ensureIndex .. => none

def shelf (history : List Command) (db : String) : SortedMap Document :=
  .ofList ((savedIds history db).dedup.filterMap fun id =>
    (held? history db id).map fun doc => (id, doc))

theorem saves_eq_nil {history : List Command} {db id : String} (h : id ∉ savedIds history db) :
    saves history db id = [] := by
  induction history using List.reverseRecOn with
  | nil => rfl
  | append_singleton history c ih =>
    have hsplit : id ∉ savedIds history db ∧ id ∉ savedIds [c] db := by
      simpa [savedIds, List.filterMap_append, not_or] using h
    rw [saves_append, ih hsplit.1]
    cases c with
    | save now db' id' doc =>
      have hother : ¬(db' = db ∧ id' = id) := fun hsame => hsplit.2 (by simp [savedIds, hsame])
      simp [saved, hother]
    | delete db' id' => simp [saved]
    | get | listAll | find | ensureIndex => rfl

@[simp] theorem get?_shelf (history : List Command) (db id : String) :
    (shelf history db).get? id = held? history db id := by
  have hnodup : (((savedIds history db).dedup.filterMap fun id =>
      (held? history db id).map fun doc => (id, doc)).map (·.1)).Nodup := by
    rw [List.map_filterMap]
    refine (List.nodup_dedup _).filterMap fun a b c ha hb => ?_
    obtain ⟨doc, -, rfl⟩ : ∃ doc, held? history db a = some doc ∧ a = c := by
      simpa using ha
    obtain ⟨doc', -, rfl⟩ : ∃ doc, held? history db b = some doc ∧ b = a := by
      simpa using hb
    rfl
  refine Option.ext fun doc => ?_
  rw [shelf, SortedMap.get?_ofList_eq_some_iff hnodup]
  constructor
  · intro h
    obtain ⟨a, -, ha⟩ := List.mem_filterMap.1 h
    obtain ⟨doc', hdoc, hpair⟩ := Option.map_eq_some_iff.1 ha
    cases hpair
    exact hdoc
  · intro h
    have hsaved : id ∈ savedIds history db := by
      by_contra hnone
      rw [held?, saves_eq_nil hnone] at h
      cases h
    exact List.mem_filterMap.2 ⟨id, List.mem_dedup.2 hsaved, by rw [h]; rfl⟩

/-- A document whose fields have the values asked for. A field that it lacks counts as null. -/
def Meets (selector : Selector) (doc : Document) : Prop :=
  ∀ name value, selector.get? name = some value →
    ((doc.get? name).getD .null).sameValue value = true

instance (selector : Selector) : DecidablePred (Meets selector) := fun doc =>
  decidable_of_iff (∀ e ∈ selector.entries, ((doc.get? e.1).getD .null).sameValue e.2 = true) (by
    simp only [Meets, SortedMap.get?_eq_some_iff, Prod.forall])

def restricted (doc : Document) (names : List String) : Document :=
  .ofList ((Document.idField :: names).map fun name => (name, (doc.get? name).getD .null))

def shown : Option (List String) → Document → Document
  | none, doc | some [], doc => doc
  | some names, doc => restricted doc names

def Blank (name : String) : Prop := ∀ c ∈ name.toList, Text.isBlank c = true

instance (name : String) : Decidable (Blank name) :=
  inferInstanceAs (Decidable (∀ c ∈ name.toList, Text.isBlank c = true))

def heldOr {α : Type} (history : List Command) (db id : String) (answer : Document → α) :
    Except StoreError α :=
  match held? history db id with
  | some doc => .ok (answer doc)
  | none => .error (.notFound db id)

/-- The answer to a command after some others. -/
def answer (history : List Command) : Command → Except StoreError Reply
  | .get db id => heldOr history db id .document
  | .save _ db id _ => .ok (.saved ⟨id, token ((saves history db id).length + 1)⟩)
  | .delete db id => heldOr history db id fun _ => .done
  | .listAll db => .ok (.documents (shelf history db).values)
  | .find db selector fields limit =>
    if ∃ name ∈ selector.keys, Blank name then
      .error (.invalidSelector "selector contains an empty field name")
    else
      .ok (.documents (((shelf history db).values.filter (Meets selector)).take limit
        |>.map (shown fields)))
  | .ensureIndex _ _ => .ok .done

/-- The commands of a history that are about a database. -/
def about (history : List Command) (db : String) : List Command :=
  history.filter fun c => c.database = db

theorem saved_of_database_ne {db : String} {c : Command} (h : c.database ≠ db) (id : String)
    (docs : List Document) : saved db id docs c = docs := by
  cases c with
  | save now db' id' doc => exact if_neg fun hsame => h hsame.1
  | delete db' id' => exact if_neg fun hsame => h hsame.1
  | get | listAll | find | ensureIndex => rfl

theorem saves_about (history : List Command) (db id : String) :
    saves (about history db) db id = saves history db id := by
  have hstep : (fun docs c => if decide (Command.database c = db) = true then saved db id docs c
      else docs) = saved db id := by
    funext docs c
    split
    · rfl
    · rename_i hother
      exact (saved_of_database_ne (by simpa using hother) id docs).symm
  rw [saves, about, List.foldl_filter, hstep, saves]

theorem shelf_about (history : List Command) (db : String) :
    shelf (about history db) db = shelf history db :=
  SortedMap.ext_get? fun id => by rw [get?_shelf, get?_shelf, held?, held?, saves_about]

/-- A command is answered from what happened to its own database. -/
theorem answer_about (history : List Command) (c : Command) :
    answer (about history c.database) c = answer history c := by
  cases c <;> simp only [Command.database, answer, heldOr, held?, saves_about, shelf_about]

end Keyspace.Engine.Reference
