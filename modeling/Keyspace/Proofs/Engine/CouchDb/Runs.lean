import Keyspace.Engine.CouchDb
import Keyspace.Proofs.Runs

set_option autoImplicit false

namespace Keyspace.CouchDb

open Http (Method Response Url)

variable {ν α : Type} {c : CouchDb ν} {db id : String} {t t' : State ν}

theorem save_ok {doc : Document} {receipt : Receipt} (h : c.save db id doc t = .ok receipt t') :
    ∃ r, c.submit db id doc t = .ok r t' ∧ r.isSuccess = true := by
  obtain ⟨r, t₁, hsubmit, h⟩ := bind_eq_ok_iff.1 h
  unfold settle at h
  split at h
  · cases h
  · split at h
    · cases h
    · split at h
      · rename_i hsuccess
        obtain ⟨-, rfl⟩ := Response.read_eq_ok_iff.1 h
        exact ⟨r, hsubmit, hsuccess⟩
      · cases h

/-- What a write makes of its last answer takes no further exchange. It never is that something is
missing, and it is a conflict only if the answer is one. -/
theorem runs_settle (db id : String) (r : Response) :
    Runs (fun t t' : State ν => t'.network = t.network)
      (fun e => e.isNotFound = false ∧ (e.isConflict = true → r.isConflict = true))
      (settle db id r) := by
  intro t
  unfold settle
  split
  · rename_i hconflict
    exact ⟨rfl, fun _ _ h => by cases h; exact ⟨rfl, fun _ => hconflict⟩⟩
  · split
    · exact ⟨rfl, fun _ _ h => by cases h; exact ⟨rfl, nofun⟩⟩
    · split
      · unfold Response.read
        cases r.json?.bind receipt? with
        | some receipt => exact ⟨rfl, nofun⟩
        | none => exact ⟨rfl, fun _ _ h => by cases h; exact ⟨rfl, nofun⟩⟩
      · exact ⟨rfl, fun _ _ h => by cases h; exact ⟨rfl, nofun⟩⟩

theorem settle_of_isConflict {r : Response} (h : r.isConflict = true) (t : State ν) :
    settle db id r t = .error (.conflict db id (r.text?.getD "")) t := by
  rw [settle, if_pos h]
  rfl

theorem ensureDatabase_eq_ok_iff :
    c.ensureDatabase db t = .ok () t' ↔
      (t.databases.contains db = true ∧ t' = t) ∨
      (t.databases.contains db = false ∧ ∃ s, c.createIfMissing db t = .ok () s ∧
        t' = { s with databases := t.databases.insert db }) := by
  simp only [ensureDatabase, bind_apply, get_apply, DoneSet.ensure_apply, modifyGet_apply]
  cases hdone : t.databases.contains db with
  | true =>
    simp only [if_true, EStateM.Result.ok.injEq, true_and, Bool.true_eq_false, false_and, or_false]
    exact eq_comm
  | false =>
    cases hrun : c.createIfMissing db t with
    | ok a s => simp [eq_comm]
    | error e s => simp

theorem contains_of_ensureDatabase (h : c.ensureDatabase db t = .ok () t') :
    t'.databases.contains db = true := by
  rcases ensureDatabase_eq_ok_iff.1 h with ⟨hdone, rfl⟩ | ⟨-, s, -, rfl⟩
  · exact hdone
  · simp [DoneSet.contains_insert]

theorem ensureDatabase_of_contains (h : t.databases.contains db = true) :
    c.ensureDatabase db t = .ok () t :=
  ensureDatabase_eq_ok_iff.2 (.inl ⟨h, rfl⟩)

/-- The URLs of what is in a database: documents with certain ids, and the database's listing, its
queries and its indexes. -/
inductive Inside (c : CouchDb ν) (db : String) (ids : String → Prop) : Url → Prop where
  | document {id : String} (h : ids id) : Inside c db ids (c.documentUrl db id)
  | revision {id : String} (h : ids id) (rev : String) :
    Inside c db ids ((c.documentUrl db id).withField "rev" rev)
  | listing : Inside c db ids ((c.serviceUrl db "_all_docs").withField "include_docs" "true")
  | query : Inside c db ids (c.serviceUrl db "_find")
  | index : Inside c db ids (c.serviceUrl db "_index")

/-- A relation between states that all requests below a database keep, but for a PUT. -/
structure KeptInside (c : CouchDb ν) (db : String) (ids : String → Prop)
    (R : State ν → State ν → Prop) (E : StoreError → Prop) : Prop where
  preorder : IsPreorder (State ν) R
  errors : ∀ e, e.Plain → E e
  send : ∀ {method url body}, Inside c db ids url → (method = .put → body = none) →
    Runs R E (c.send method url body)

/-- A database is ensured, and what follows keeps a relation. -/
def Provides (c : CouchDb ν) (db : String) (R : State ν → State ν → Prop) (E : StoreError → Prop)
    (x : Action (State ν) α) : Prop :=
  ∃ f, x = c.ensureDatabase db >>= f ∧ Runs R E (f ())

namespace KeptInside

variable {ids : String → Prop} {R : State ν → State ν → Prop} {E : StoreError → Prop}
  {selector : Selector} {fields : Option (List String)} {limit : Nat} {index : Index}

theorem currentRevision (h : KeptInside c db ids R E) (hid : ids id) :
    Runs R E (c.currentRevision db id) := by
  have := h.preorder
  refine (h.send (.document hid) (by nofun)).bind fun head => ?_
  split
  · exact .pure
  · split
    · exact .pure
    · exact .toError h.errors head

theorem get (h : KeptInside c db ids R E) (hid : ids id) (hmissing : E (.notFound db id)) :
    Provides c db R E (c.get db id) := by
  have := h.preorder
  refine ⟨_, rfl, (h.send (.document hid) (by nofun)).bind fun r => ?_⟩
  unfold receive
  split
  · exact .throw hmissing
  · split
    · exact .read h.errors
    · exact .toError h.errors r

theorem delete (h : KeptInside c db ids R fun _ => True) (hid : ids id) :
    Provides c db R (fun _ => True) (c.delete db id) := by
  have := h.preorder
  refine ⟨fun _ => c.currentRevision db id >>= c.withdraw db id, bind_assoc .., ?_⟩
  refine (h.currentRevision hid).bind fun rev => ?_
  cases rev with
  | none => exact .throw trivial
  | some rev =>
    refine (h.send (.revision hid rev) (by nofun)).bind fun r => ?_
    split
    · exact .throw trivial
    · split
      · exact .throw trivial
      · split
        · exact .pure
        · exact .throw trivial

theorem listAll (h : KeptInside c db ids R E) : Provides c db R E (c.listAll db) := by
  have := h.preorder
  refine ⟨_, rfl, (h.send .listing (by nofun)).bind fun r => ?_⟩
  split
  · exact (Runs.read h.errors).bind fun _ => .pure
  · exact .toError h.errors r

theorem query (h : KeptInside c db ids R E) :
    Provides c db R E (c.query db selector fields limit) := by
  have := h.preorder
  refine ⟨_, rfl, (h.send .query (by nofun)).bind fun r => ?_⟩
  split
  · exact .read h.errors
  · exact .toError h.errors r

theorem requestIndex (h : KeptInside c db ids R E) : Runs R E (c.requestIndex db index) := by
  have := h.preorder
  refine (h.send .index (by nofun)).bind fun r => ?_
  split
  · exact .toError h.errors r
  · split
    · exact .pure
    · exact .throw (h.errors _ ⟨rfl, rfl⟩)

theorem createIndex (h : KeptInside c db ids R E) :
    Provides c db R E (c.createIndex db index) :=
  ⟨_, rfl, h.requestIndex⟩

end KeptInside

/-- A relation between states that all requests but a PUT keep, and that stays when a database
becomes known. -/
structure Kept (c : CouchDb ν) (R : State ν → State ν → Prop) (E : StoreError → Prop) : Prop where
  preorder : IsPreorder (State ν) R
  errors : ∀ e, e.Plain → E e
  send : ∀ {method url body}, (method = .put → body = none) → Runs R E (c.send method url body)
  remember : ∀ {t t' : State ν} {db}, R t t' → R t { t' with databases := t.databases.insert db }

namespace Kept

variable {R : State ν → State ν → Prop} {E : StoreError → Prop} {selector : Selector}
  {fields : Option (List String)} {limit : Nat} {index : Index}

theorem mono (h : Kept c R E) {E' : StoreError → Prop} (hE : ∀ e, E e → E' e) : Kept c R E' where
  preorder := h.preorder
  errors e he := hE e (h.errors e he)
  send hbody := (h.send hbody).mono hE
  remember := h.remember

theorem inside (h : Kept c R E) (db : String) : KeptInside c db (fun _ => True) R E :=
  ⟨h.preorder, h.errors, fun _ => h.send⟩

theorem read (h : Kept c R E) {r : Response} {read? : Json → Option α} :
    Runs R E (r.read read?) := by
  have := h.preorder
  exact .read h.errors

theorem toError (h : Kept c R E) (r : Response) :
    Runs R E (throw r.toError : Action (State ν) α) := by
  have := h.preorder
  exact .toError h.errors r

theorem createIfMissing (h : Kept c R E) : Runs R E (c.createIfMissing db) := by
  have := h.preorder
  refine (h.send (by nofun)).bind fun head => ?_
  split
  · exact .pure
  · split
    · refine (h.send fun _ => rfl).bind fun created => ?_
      split
      · exact .pure
      · exact h.toError created
    · exact h.toError head

theorem ensureDatabase (h : Kept c R E) : Runs R E (c.ensureDatabase db) := by
  have := h.preorder
  exact .ensure h.createIfMissing (fun t => refl t) fun _ _ => h.remember

/-- What keeps a relation once its database is ensured keeps it from the beginning. -/
theorem runs (h : Kept c R E) {x : Action (State ν) α} (hx : Provides c db R E x) : Runs R E x := by
  have := h.preorder
  obtain ⟨f, rfl, hf⟩ := hx
  exact h.ensureDatabase.bind fun _ => hf

theorem lookUpRevision (h : Kept c R E) : Runs R E (c.lookUpRevision db id) :=
  h.runs ⟨_, rfl, (h.inside db).currentRevision trivial⟩

theorem get (h : Kept c R E) (hmissing : E (.notFound db id)) : Runs R E (c.get db id) :=
  h.runs ((h.inside db).get trivial hmissing)

theorem listAll (h : Kept c R E) : Runs R E (c.listAll db) := h.runs (h.inside db).listAll

theorem find (h : Kept c R E) : Runs R E (c.find db selector fields limit) := by
  have := h.preorder
  have hquery : Runs R E (c.query db selector fields limit) := h.runs (h.inside db).query
  refine Runs.bind ?_ fun _ => hquery.fallback (h.listAll.bind fun _ => .pure)
  unfold Selector.validate
  split
  · exact .throw (h.errors _ ⟨rfl, rfl⟩)
  · exact .pure

theorem createIndex (h : Kept c R E) : Runs R E (c.createIndex db index) :=
  h.runs (h.inside db).createIndex

end Kept

end Keyspace.CouchDb
