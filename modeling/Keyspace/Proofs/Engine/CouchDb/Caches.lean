import Keyspace.Proofs.Engine.CouchDb.Runs
import Keyspace.Proofs.Engine.CouchDb.Shelf
import Mathlib.Data.List.Induction

set_option autoImplicit false

namespace Keyspace.CouchDb

open Http (Response Script)

variable {ν α : Type} {c : CouchDb ν} {db id : String} {doc : Document} {t t' t'' : State ν}

inductive Use where
  | get (db id : String)
  | save (db id : String) (doc : Document)
  | delete (db id : String)
  | listAll (db : String)
  | find (db : String) (selector : Selector) (fields : Option (List String)) (limit : Nat)
  | ensureIndex (db : String) (index : Index)

def Use.next (c : CouchDb ν) (t : State ν) : Use → State ν
  | .get db id => finalState (c.get db id t)
  | .save db id doc => finalState (c.save db id doc t)
  | .delete db id => finalState (c.delete db id t)
  | .listAll db => finalState (c.listAll db t)
  | .find db selector fields limit => finalState (c.find db selector fields limit t)
  | .ensureIndex db index => finalState (c.ensureIndex db index t)

def after (c : CouchDb ν) (uses : List Use) (t : State ν) : State ν := uses.foldl (Use.next c) t

theorem after_append (c : CouchDb ν) (uses more : List Use) (t : State ν) :
    after c (uses ++ more) t = after c more (after c uses t) :=
  List.foldl_append ..

/-- Every ensured index is in a known database. -/
def Consistent (t : State ν) : Prop :=
  ∀ db fields, t.indexes.contains (db, fields) = true → t.databases.contains db = true

/-- A write that is answered with status 404: its database is missing. -/
def FindsGone (c : CouchDb ν) (db id : String) (doc : Document) (t : State ν) : Prop :=
  ∃ r t', c.submit db id doc t = .ok r t' ∧ r.isNotFound = true

structure Remembers (t t' : State ν) : Prop where
  databases : ∀ db, t.databases.contains db = true → t'.databases.contains db = true
  indexes : t'.indexes = t.indexes

instance : IsPreorder (State ν) Remembers where
  refl _ := ⟨fun _ h => h, rfl⟩
  trans _ _ _ h h' :=
    ⟨fun db hdb => h'.databases db (h.databases db hdb), h'.indexes.trans h.indexes⟩

abbrev Provident (x : Action (State ν) α) : Prop := Runs Remembers (fun _ => True) x

theorem provident_send {method : Http.Method} {url : Http.Url} {body : Option Json} :
    Provident (c.send method url body) := by
  intro t
  simp only [send]
  cases c.client.send method url body t.network <;>
    exact ⟨⟨fun _ h => h, rfl⟩, fun _ _ _ => trivial⟩

theorem kept_provident (c : CouchDb ν) : Kept c Remembers fun _ => True where
  preorder := inferInstance
  errors _ _ := trivial
  send _ := provident_send
  remember h := ⟨fun other hother => by
    rw [DoneSet.contains_insert, hother, Bool.or_true], h.indexes⟩

theorem provident_submit : Provident (c.submit db id doc) :=
  (kept_provident c).lookUpRevision.bind fun _ => provident_send

theorem provident_delete : Provident (c.delete db id) :=
  (kept_provident c).runs (((kept_provident c).inside db).delete trivial)

theorem createIndex_known {index : Index} (h : c.createIndex db index t = .ok () t') :
    t'.databases.contains db = true := by
  obtain ⟨_, s, hensure, hrequest⟩ := bind_eq_ok_iff.1 h
  have hkept : Remembers s (finalState (c.requestIndex db index s)) :=
    (((kept_provident c).inside db).requestIndex s).1
  rw [hrequest] at hkept
  exact hkept.databases db (contains_of_ensureDatabase hensure)

inductive Changes (c : CouchDb ν) : Use → State ν → State ν → Prop where
  | kept {u : Use} {t t' : State ν} (h : Remembers t t') : Changes c u t t'
  | indexed {db : String} {index : Index} {t t' : State ν} (h : Remembers t t')
    (known : t'.databases.contains db = true) :
    Changes c (.ensureIndex db index) t
      { t' with indexes := t'.indexes.insert (db, index.sortedFields) }
  | forgotten {db id : String} {doc : Document} {t t' : State ν} (gone : FindsGone c db id doc t)
    (h : Remembers t t') :
    Changes c (.save db id doc) t { t' with databases := t'.databases.forget db }

theorem changes_save (c : CouchDb ν) (db id : String) (doc : Document) (t : State ν) :
    Changes c (.save db id doc) t (finalState (c.save db id doc t)) := by
  have hsubmit : Remembers t (finalState (c.submit db id doc t)) := (provident_submit t).1
  simp only [save, bind_apply]
  cases hrun : c.submit db id doc t with
  | error e t' =>
    rw [hrun] at hsubmit
    exact .kept hsubmit
  | ok r t' =>
    rw [hrun] at hsubmit
    have hother : ∀ x : Action (State ν) Receipt, Provident x →
        Changes c (.save db id doc) t (finalState (x t')) :=
      fun x hx => .kept (trans_of Remembers hsubmit (hx t').1)
    dsimp only
    unfold settle
    split
    · exact hother _ (.throw trivial)
    · split
      · rename_i hgone
        exact .forgotten ⟨r, t', hrun, hgone⟩ hsubmit
      · split
        · exact hother _ (kept_provident c).read
        · exact hother _ (.throw trivial)

theorem changes_ensureIndex (c : CouchDb ν) (db : String) (index : Index) (t : State ν) :
    Changes c (.ensureIndex db index) t (finalState (c.ensureIndex db index t)) := by
  simp only [ensureIndex, bind_apply, get_apply, DoneSet.ensure_apply, modifyGet_apply]
  by_cases hdone : t.indexes.contains (db, index.sortedFields) = true
  · simp only [hdone, if_true]
    exact .kept (refl t)
  · have hcreate : Remembers t (finalState (c.createIndex db index t)) :=
      ((kept_provident c).createIndex t).1
    simp only [hdone]
    cases hrun : c.createIndex db index t with
    | ok a t' =>
      rw [hrun] at hcreate
      have hindexes : t.indexes = t'.indexes := hcreate.indexes.symm
      simp only [Bool.false_eq_true, if_false, hindexes]
      exact .indexed hcreate (createIndex_known hrun)
    | error e t' =>
      rw [hrun] at hcreate
      exact .kept hcreate

theorem changes (c : CouchDb ν) (u : Use) (t : State ν) : Changes c u t (u.next c t) := by
  cases u with
  | get db id => exact .kept ((kept_provident c).get trivial t).1
  | save db id doc => exact changes_save c db id doc t
  | delete db id => exact .kept (provident_delete t).1
  | listAll db => exact .kept ((kept_provident c).listAll t).1
  | find db selector fields limit => exact .kept ((kept_provident c).find t).1
  | ensureIndex db index => exact changes_ensureIndex c db index t

theorem Changes.indexes {u : Use} (h : Changes c u t t') {key : String × List String}
    (hkey : t.indexes.contains key = true) : t'.indexes.contains key = true := by
  cases h with
  | kept h => rwa [h.indexes]
  | indexed h _ => rw [DoneSet.contains_insert, h.indexes, hkey, Bool.or_true]
  | forgotten _ h => exact h.indexes ▸ hkey

/-- Ensured indexes are never forgotten. -/
theorem after_indexes (c : CouchDb ν) (uses : List Use) {key : String × List String}
    (hkey : t.indexes.contains key = true) : (after c uses t).indexes.contains key = true := by
  induction uses generalizing t with
  | nil => exact hkey
  | cons u rest ih => exact ih ((changes c u t).indexes hkey)

theorem ensureIndex_indexed {index : Index}
    (h : t.indexes.contains (db, index.sortedFields) = true) :
    c.ensureIndex db index t = .ok () t := by
  simp only [ensureIndex, bind_apply, get_apply, DoneSet.ensure_apply, modifyGet_apply, h,
    if_true]

/-- In some calls a write is answered with status 404 after an index of its database was ensured. -/
def LosesIndexed (c : CouchDb ν) (uses : List Use) (t : State ν) (db : String) : Prop :=
  ∃ before id doc rest, uses = before ++ .save db id doc :: rest ∧
    FindsGone c db id doc (after c before t) ∧
    ∃ fields, (after c before t).indexes.contains (db, fields) = true

theorem LosesIndexed.append {uses : List Use} (h : LosesIndexed c uses t db) (more : List Use) :
    LosesIndexed c (uses ++ more) t db := by
  obtain ⟨before, id, doc, rest, rfl, hgone, hindexed⟩ := h
  exact ⟨before, id, doc, rest ++ more, by simp, hgone, hindexed⟩

theorem known_or_losesIndexed (ht : Consistent t) (uses : List Use) {fields : List String}
    (h : (after c uses t).indexes.contains (db, fields) = true) :
    (after c uses t).databases.contains db = true ∨ LosesIndexed c uses t db := by
  induction uses using List.reverseRecOn generalizing db fields with
  | nil => exact .inl (ht db fields h)
  | append_singleton uses u ih =>
    rw [after_append] at h ⊢
    have hstep := changes c u (after c uses t)
    change (u.next c (after c uses t)).indexes.contains (db, fields) = true at h
    change (u.next c (after c uses t)).databases.contains db = true ∨ _
    generalize hlast : u.next c (after c uses t) = last at h hstep
    cases hstep with
    | kept hkept =>
      rw [hkept.indexes] at h
      exact (ih h).imp (hkept.databases db) (·.append [u])
    | indexed hkept hknown =>
      rw [DoneSet.contains_insert, Bool.or_eq_true, decide_eq_true_eq, hkept.indexes] at h
      rcases h with hnew | hold
      · obtain ⟨rfl, -⟩ := Prod.mk.inj hnew
        exact .inl hknown
      · exact (ih hold).imp (hkept.databases db) (·.append _)
    | @forgotten gone id doc _ t' hgone hkept =>
      have hold : (after c uses t).indexes.contains (db, fields) = true := hkept.indexes ▸ h
      rcases ih hold with hknown | hlost
      · by_cases hdb : db = gone
        · subst hdb
          exact .inr ⟨uses, id, doc, [], rfl, hgone, fields, hold⟩
        · refine .inl ?_
          rw [DoneSet.contains_forget, hkept.databases db hknown]
          simp [hdb]
      · exact .inr (hlost.append _)

theorem save_findsGone (h : FindsGone c db id doc t) :
    ((Use.save db id doc).next c t).databases.contains db = false := by
  obtain ⟨r, t', hrun, hmissing⟩ := h
  have hsave : c.save db id doc t =
      .error r.toError { t' with databases := t'.databases.forget db } := by
    simp [save, hrun, settle, hmissing, Response.isConflict_of_isNotFound hmissing, forgetDatabase]
  simp [Use.next, hsave, finalState, DoneSet.contains_forget]

/-- After any calls, every ensured index is in a known database, unless the database of an ensured
index was forgotten over a write and has not been ensured since. A write that has just been answered
with status 404 leaves it so. And an index that is ensured is reported as ensured without another
request, whatever has become of its database. -/
theorem consistent_after_iff (c : CouchDb ν) (uses : List Use) (network : ν) :
    (Consistent (after c uses (start network)) ↔
      ∀ db, LosesIndexed c uses (start network) db →
        (after c uses (start network)).databases.contains db = true) ∧
    (∀ before db id doc, uses = before ++ [.save db id doc] →
      FindsGone c db id doc (after c before (start network)) →
        (after c uses (start network)).databases.contains db = false) ∧
    ∀ before rest db index, uses = before ++ rest →
      (after c before (start network)).indexes.contains (db, index.sortedFields) = true →
        c.ensureIndex db index (after c uses (start network)) =
          .ok () (after c uses (start network)) := by
  have hstart : Consistent (start network) := fun db fields h => by
    simp [start, DoneSet.empty, DoneSet.contains] at h
  refine ⟨⟨fun hend db hlost => ?_, fun hknown db fields hindexed => ?_⟩, ?_, ?_⟩
  · obtain ⟨before, id, doc, rest, rfl, -, fields, hindexed⟩ := hlost
    refine hend db fields ?_
    rw [after_append]
    exact after_indexes c _ hindexed
  · exact (known_or_losesIndexed hstart uses hindexed).elim (fun h => h) (hknown db)
  · rintro before db id doc rfl hgone
    rw [after_append]
    exact save_findsGone hgone
  · rintro before rest db index rfl hindexed
    rw [after_append]
    exact ensureIndex_indexed (after_indexes c rest hindexed)

def scripted : CouchDb Script := ⟨"http://localhost:5984", Shelf.root, ⟨Script.network, none⟩⟩

def droppedAfterIndexing : Script where
  reachable := true
  replies := [.answered ⟨200, none, .json .null⟩,
    .answered ⟨200, none, .json (.obj [("result", .str "created")])⟩,
    .answered ⟨404, none, .json .null⟩, .answered ⟨404, none, .json .null⟩]
  requests := []

def indexThenSave : List Use :=
  [.ensureIndex "d" ⟨["f"], none⟩, .save "d" "k" SortedMap.empty]

/-- The index outlives its database, and is reported as ensured without a request. -/
theorem not_consistent_droppedAfterIndexing :
    ¬ Consistent (after scripted indexThenSave (start droppedAfterIndexing)) ∧
      ∃ t, scripted.ensureIndex "d" ⟨["f"], none⟩
          (after scripted indexThenSave (start droppedAfterIndexing)) = .ok () t ∧
        t.network.requests =
          (after scripted indexThenSave (start droppedAfterIndexing)).network.requests := by
  refine ⟨fun h => ?_, _, ensureIndex_indexed (by decide +kernel), rfl⟩
  have hknown := h "d" ["f"] (by decide +kernel)
  revert hknown
  decide +kernel

end Keyspace.CouchDb
