import Keyspace.Proofs.Engine.CouchDb.Runs
import Keyspace.Proofs.Http.Shared

set_option autoImplicit false

namespace Keyspace.CouchDb

open Http (Exchange Method Network Response Shared Url)

variable {ν α : Type} {n : Network ν} {others : List (Exchange ν) → ν → ν} {c : CouchDb (Shared ν)}
  {db id : String} {doc : Document} {t t' t'' : State (Shared ν)} {es es' : List (Exchange ν)}

/-- The log has grown by some exchanges of the network. -/
structure Made (n : Network ν) (t : State (Shared ν)) (es : List (Exchange ν))
    (t' : State (Shared ν)) : Prop where
  log : t'.network.exchanges = t.network.exchanges ++ es
  genuine : ∀ e ∈ es, e.Of n

theorem Made.refl (t : State (Shared ν)) : Made n t [] t := ⟨by simp, by simp⟩

theorem Made.trans (h : Made n t es t') (h' : Made n t' es' t'') : Made n t (es ++ es') t'' where
  log := by rw [h'.log, h.log, List.append_assoc]
  genuine e he := (List.mem_append.1 he).elim (h.genuine e) (h'.genuine e)

theorem Made.unique (h : Made n t es t') (h' : t'.network.exchanges = t.network.exchanges ++ es') :
    es' = es :=
  List.append_cancel_left (h'.symm.trans h.log)

theorem send_made (hc : c.client.network = n.shared others) {method : Method} {url : Url}
    {body : Option Json} {r : Response} (h : c.send method url body t = .ok r t') :
    ∃ x r', Made n t [x] t' ∧ x.Answers c.client method url body r' ∧ r = r'.arriving method ∧
      t'.databases = t.databases := by
  have hsent := Shared.sent hc method url body t.network
  rw [send] at h
  cases hrun : c.client.send method url body t.network with
  | error e s =>
    rw [hrun] at h
    cases h
  | ok r s =>
    rw [hrun] at h hsent
    cases h
    cases hsent with
    | answered of answers => exact ⟨_, _, ⟨rfl, by simpa using of⟩, answers, rfl, rfl⟩

def WithoutWrite (n : Network ν) (t t' : State (Shared ν)) : Prop :=
  ∃ es, Made n t es t' ∧ ∀ x ∈ es, ¬ x.IsWrite

instance : IsPreorder (State (Shared ν)) (WithoutWrite n) where
  refl t := ⟨[], .refl t, by simp⟩
  trans := by
    rintro t t' t'' ⟨es, hmade, hreads⟩ ⟨es', hmade', hreads'⟩
    exact ⟨es ++ es', hmade.trans hmade',
      fun x hx => (List.mem_append.1 hx).elim (hreads x) (hreads' x)⟩

theorem kept_withoutWrite (hc : c.client.network = n.shared others) :
    Kept c (WithoutWrite n) StoreError.Plain where
  preorder := inferInstance
  errors _ h := h
  remember := fun ⟨es, hmade, hreads⟩ => ⟨es, ⟨hmade.log, hmade.genuine⟩, hreads⟩
  send := by
    intro method url body hbody t
    have hsent := Shared.sent hc method url body t.network
    have hread : ∀ x : Exchange ν, x.request = c.client.request method url body → ¬ x.IsWrite := by
      rintro x hx ⟨hput, hsome⟩
      rw [hx] at hput hsome
      exact hsome (hbody hput)
    rw [send]
    generalize c.client.send method url body t.network = outcome at hsent
    cases hsent with
    | refused plain => exact ⟨refl t, fun _ _ h => by cases h; exact plain⟩
    | dropped of request reply plain =>
      exact ⟨⟨[_], ⟨rfl, by simpa using of⟩, by simpa using hread _ request⟩,
        fun _ _ h => by cases h; exact plain⟩
    | answered of answers =>
      exact ⟨⟨[_], ⟨rfl, by simpa using of⟩, by simpa using hread _ answers.request⟩, nofun⟩

theorem runs_ensureIndex (hc : c.client.network = n.shared others) (db : String) (index : Index) :
    Runs (WithoutWrite n) StoreError.Plain (c.ensureIndex db index) :=
  .ensure (kept_withoutWrite hc).createIndex (fun t => refl t)
    fun _ _ ⟨es, hmade, hreads⟩ => ⟨es, ⟨hmade.log, hmade.genuine⟩, hreads⟩

theorem runs_get (hc : c.client.network = n.shared others) (db id : String) :
    Runs (WithoutWrite n) (fun _ => True) (c.get db id) :=
  ((kept_withoutWrite hc).mono fun _ _ => trivial).get trivial

/-- A database has been ensured: it was known, or it was found, or it was missing and its creation
was requested. -/
inductive Provided (c : CouchDb (Shared ν)) (db : String) : List (Exchange ν) → Prop where
  | known : Provided c db []
  | found {x : Exchange ν} {r : Response}
    (answers : x.Answers c.client .head (c.databaseUrl db) none r) (there : r.isSuccess = true) :
    Provided c db [x]
  | created {x x' : Exchange ν} {r r' : Response}
    (answers : x.Answers c.client .head (c.databaseUrl db) none r) (missing : r.isNotFound = true)
    (answers' : x'.Answers c.client .put ((c.databaseUrl db).withQuery "n=1&q=2") none r') :
    Provided c db [x, x']

theorem createIfMissing_made (hc : c.client.network = n.shared others)
    (h : c.createIfMissing db t = .ok () t') : ∃ es, Made n t es t' ∧ Provided c db es := by
  obtain ⟨head, t₁, hhead, h⟩ := bind_eq_ok_iff.1 h
  obtain ⟨x, r, hmade, hanswers, rfl, -⟩ := send_made hc hhead
  rw [Response.isSuccess_arriving, Response.isNotFound_arriving] at h
  split at h
  · rename_i hthere
    cases h
    exact ⟨[x], hmade, .found hanswers hthere⟩
  · split at h
    · rename_i hmissing
      obtain ⟨created, t₂, hcreated, h⟩ := bind_eq_ok_iff.1 h
      obtain ⟨x', r', hmade', hanswers', rfl, -⟩ := send_made hc hcreated
      split at h
      · cases h
        exact ⟨[x, x'], hmade.trans hmade', .created hanswers hmissing hanswers'⟩
      · cases h
    · cases h

theorem ensureDatabase_made (hc : c.client.network = n.shared others)
    (h : c.ensureDatabase db t = .ok () t') :
    ∃ es, Made n t es t' ∧ Provided c db es ∧ (t.databases.contains db = true → es = []) := by
  rcases ensureDatabase_eq_ok_iff.1 h with ⟨-, rfl⟩ | ⟨hnew, s, hcreate, rfl⟩
  · exact ⟨[], .refl t', .known, fun _ => rfl⟩
  · obtain ⟨es, hmade, hprovided⟩ := createIfMissing_made hc hcreate
    exact ⟨es, ⟨hmade.log, hmade.genuine⟩, hprovided, fun hknown => by simp [hnew] at hknown⟩

def shown (r : Response) : Option Document :=
  if r.isNotFound then none else (r.arriving .get).json?.bind Json.map?

theorem asked_made (hc : c.client.network = n.shared others) {r : Response}
    (hensure : c.ensureDatabase db t = .ok () t')
    (hsend : c.send .get (c.documentUrl db id) none t' = .ok r t'') :
    ∃ es x r', Made n t (es ++ [x]) t'' ∧ x.Answers c.client .get (c.documentUrl db id) none r' ∧
      r = r'.arriving .get ∧ t''.databases.contains db = true := by
  obtain ⟨es, hmade, -, -⟩ := ensureDatabase_made hc hensure
  obtain ⟨x, r', hmade', hanswers, hr, hdatabases⟩ := send_made hc hsend
  exact ⟨es, x, r', hmade.trans hmade', hanswers, hr,
    hdatabases ▸ contains_of_ensureDatabase hensure⟩

theorem get_found (hc : c.client.network = n.shared others) (h : c.get db id t = .ok doc t') :
    ∃ es x r, Made n t (es ++ [x]) t' ∧ x.Answers c.client .get (c.documentUrl db id) none r ∧
      shown r = some doc ∧ t'.databases.contains db = true := by
  obtain ⟨_, t₁, hensure, h⟩ := bind_eq_ok_iff.1 h
  obtain ⟨r, t₂, hsend, h⟩ := bind_eq_ok_iff.1 h
  obtain ⟨es, x, r, hmade, hanswers, rfl, hknown⟩ := asked_made hc hensure hsend
  rw [receive, Response.isNotFound_arriving] at h
  split at h
  · cases h
  · rename_i hthere
    split at h
    · obtain ⟨hread, rfl⟩ := Response.read_eq_ok_iff.1 h
      exact ⟨es, x, r, hmade, hanswers, by rw [shown, if_neg hthere, hread], hknown⟩
    · cases h

theorem get_missing (hc : c.client.network = n.shared others) {e : StoreError}
    (h : c.get db id t = .error e t') (he : e.isNotFound = true) :
    ∃ es x r, Made n t (es ++ [x]) t' ∧ x.Answers c.client .get (c.documentUrl db id) none r ∧
      r.isNotFound = true ∧ t'.databases.contains db = true := by
  have hplain := StoreError.not_plain he
  have hkept := kept_withoutWrite hc
  rcases bind_eq_error_iff.1 h with h | ⟨_, t₁, hensure, h⟩
  · exact absurd ((hkept.ensureDatabase t).2 e t' h) hplain
  rcases bind_eq_error_iff.1 h with h | ⟨r, t₂, hsend, h⟩
  · exact absurd ((hkept.send (by nofun) t₁).2 e t' h) hplain
  obtain ⟨es, x, r, hmade, hanswers, rfl, hknown⟩ := asked_made hc hensure hsend
  rw [receive, Response.isNotFound_arriving] at h
  split at h
  · rename_i hmissing
    cases h
    exact ⟨es, x, r, hmade, hanswers, hmissing, hknown⟩
  · split at h
    · exact absurd ((hkept.read t₂).2 e t' h) hplain
    · exact absurd ((hkept.toError _ t₂).2 e t' h) hplain

def reported (r : Response) : Option String := if r.isNotFound then none else r.revision?

theorem currentRevision_made (hc : c.client.network = n.shared others) {rev : Option String}
    (h : c.currentRevision db id t = .ok rev t') :
    ∃ x r, Made n t [x] t' ∧ x.Answers c.client .head (c.documentUrl db id) none r ∧
      rev = reported r ∧ (r.isNotFound = true ∨ r.isSuccess = true) := by
  obtain ⟨head, t₁, hhead, h⟩ := bind_eq_ok_iff.1 h
  obtain ⟨x, r, hmade, hanswers, rfl, -⟩ := send_made hc hhead
  rw [Response.isNotFound_arriving, Response.isSuccess_arriving, Response.revision?_arriving] at h
  split at h
  · rename_i hmissing
    cases h
    exact ⟨x, r, hmade, hanswers, by rw [reported, if_pos hmissing], .inl hmissing⟩
  · rename_i hthere
    split at h
    · rename_i hsuccess
      cases h
      exact ⟨x, r, hmade, hanswers, by rw [reported, if_neg hthere], .inr hsuccess⟩
    · cases h

theorem lookUpRevision_made (hc : c.client.network = n.shared others) {rev : Option String}
    (h : c.lookUpRevision db id t = .ok rev t') :
    ∃ es head found, Made n t (es ++ [head]) t' ∧ Provided c db es ∧
      (t.databases.contains db = true → es = []) ∧
      head.Answers c.client .head (c.documentUrl db id) none found ∧
      rev = reported found ∧ (found.isNotFound = true ∨ found.isSuccess = true) := by
  obtain ⟨_, t₁, hensure, hrevision⟩ := bind_eq_ok_iff.1 h
  obtain ⟨es, hmade, hprovided, hknown⟩ := ensureDatabase_made hc hensure
  obtain ⟨head, found, hmade', hasked⟩ := currentRevision_made hc hrevision
  exact ⟨es, head, found, hmade.trans hmade', hprovided, hknown, hasked⟩

/-- The exchanges of a write: those that ensure the database, the HEAD for the document's revision,
and the PUT with the revision that was reported. -/
structure Submitted (c : CouchDb (Shared ν)) (db id : String) (doc : Document)
    (es : List (Exchange ν)) (head put : Exchange ν) (found answer : Response) : Prop where
  provided : Provided c db es
  asked : head.Answers c.client .head (c.documentUrl db id) none found
  sent : put.Answers c.client .put (c.documentUrl db id)
    (some (outgoing doc id (reported found)).toJson) answer

theorem submit_made (hc : c.client.network = n.shared others) {r : Response}
    (h : c.submit db id doc t = .ok r t') :
    ∃ es head put found answer, Made n t (es ++ [head, put]) t' ∧
      Submitted c db id doc es head put found answer ∧
      (t.databases.contains db = true → es = []) ∧ r = answer.arriving .put := by
  obtain ⟨rev, t₁, hlook, hput⟩ := bind_eq_ok_iff.1 h
  obtain ⟨es, head, found, hmade, hprovided, hknown, hasked, rfl, -⟩ := lookUpRevision_made hc hlook
  obtain ⟨put, answer, hmade', hsent, rfl, -⟩ := send_made hc hput
  exact ⟨es, head, put, found, answer, by simpa using hmade.trans hmade',
    ⟨hprovided, hasked, hsent⟩, hknown, rfl⟩

/-- What comes of the requests of a write. They fail, but not with a conflict, and no PUT of the
document was answered; or its PUT got this answer. -/
inductive Attempted (n : Network ν) (t : State (Shared ν)) :
    EStateM.Result StoreError (State (Shared ν)) Response → Prop where
  | failed {e : StoreError} {t' : State (Shared ν)} {es : List (Exchange ν)} (made : Made n t es t')
    (unanswered : ∀ x ∈ es, x.IsWrite → x.reply = .dropped) (plain : e.Plain) :
    Attempted n t (.error e t')
  | answered {r : Response} {t' : State (Shared ν)} {es : List (Exchange ν)}
    (made : Made n t es t') (only : ∀ x ∈ es, x.IsWrite → x.reply = .answered r) :
    Attempted n t (.ok (r.arriving .put) t')

theorem attempted_submit (hc : c.client.network = n.shared others) (db id : String)
    (doc : Document) (t : State (Shared ν)) : Attempted n t (c.submit db id doc t) := by
  have hbefore : Runs (WithoutWrite n) StoreError.Plain (c.lookUpRevision db id) :=
    (kept_withoutWrite hc).lookUpRevision
  obtain ⟨⟨es, hmade, hreads⟩, hfails⟩ := hbefore t
  simp only [submit, bind_apply]
  cases hlook : c.lookUpRevision db id t with
  | error e t₁ =>
    rw [hlook] at hmade
    exact .failed hmade (fun x hx hwrite => absurd hwrite (hreads x hx)) (hfails e t₁ hlook)
  | ok rev t₁ =>
    rw [hlook] at hmade
    -- The log ends with the PUT of the document, and nothing before it is one.
    have hlast : ∀ (x : Exchange ν) (reply : Http.Reply), x.reply = reply →
        ∀ y ∈ es ++ [x], y.IsWrite → y.reply = reply := by
      intro x reply hx y hy hwrite
      rcases List.mem_append.1 hy with hy | hy
      · exact absurd hwrite (hreads y hy)
      · rwa [List.mem_singleton.1 hy]
    have hsent := Shared.sent hc .put (c.documentUrl db id) (some (outgoing doc id rev).toJson)
      t₁.network
    simp only [send]
    generalize c.client.send .put (c.documentUrl db id) (some (outgoing doc id rev).toJson)
      t₁.network = outcome at hsent
    cases hsent with
    | refused plain =>
      exact .failed hmade (fun x hx hwrite => absurd hwrite (hreads x hx)) plain
    | dropped of request reply plain =>
      exact .failed (hmade.trans ⟨rfl, by simpa using of⟩) (hlast _ _ reply) plain
    | answered of answers =>
      exact .answered (hmade.trans ⟨rfl, by simpa using of⟩) (hlast _ _ answers.reply)

theorem exists_made_save (hc : c.client.network = n.shared others) (db id : String)
    (doc : Document) (t : State (Shared ν)) :
    ∃ es, Made n t es (finalState (c.save db id doc t)) := by
  have hattempted := attempted_submit hc db id doc t
  simp only [save, bind_apply]
  generalize c.submit db id doc t = outcome at hattempted
  cases hattempted with
  | failed made _ _ => exact ⟨_, made⟩
  | @answered r t' _ made _ =>
    exact ⟨_, by rw [(runs_settle db id (r.arriving .put) t').1, made.log], made.genuine⟩

theorem save_conflict (hc : c.client.network = n.shared others) {e : StoreError}
    (h : c.save db id doc t = .error e t') (he : e.isConflict = true) :
    ∃ r, c.submit db id doc t = .ok r t' ∧ r.isConflict = true := by
  have hattempted := attempted_submit hc db id doc t
  rcases bind_eq_error_iff.1 h with hfailed | ⟨r, t₁, hsubmit, hsettle⟩
  · rw [hfailed] at hattempted
    cases hattempted with
    | failed _ _ plain => simp [plain.2] at he
  · have hconflict := ((runs_settle db id r t₁).2 e t' hsettle).2 he
    rw [settle_of_isConflict hconflict] at hsettle
    cases hsettle
    exact ⟨r, hsubmit, hconflict⟩

/-- If the PUT of a write is answered with a conflict, the write fails with one. -/
theorem conflict_of_write (hc : c.client.network = n.shared others)
    (hlog : (finalState (c.save db id doc t)).network.exchanges = t.network.exchanges ++ es)
    {x : Exchange ν} {r : Response} (hx : x ∈ es) (hwrite : x.IsWrite)
    (hreply : x.reply = .answered r) (hconflict : r.isConflict = true) :
    ∃ detail t', c.save db id doc t = .error (.conflict db id detail) t' := by
  have hattempted := attempted_submit hc db id doc t
  simp only [save, bind_apply] at hlog ⊢
  generalize c.submit db id doc t = outcome at hattempted hlog ⊢
  cases hattempted with
  | failed made unanswered _ =>
    rw [made.unique hlog] at hx
    rw [unanswered x hx hwrite] at hreply
    cases hreply
  | @answered r' t' es' made only =>
    dsimp only at hlog
    rw [(runs_settle db id (r'.arriving .put) t').1] at hlog
    rw [made.unique hlog] at hx
    have hsame : r' = r := Http.Reply.answered.inj ((only x hx hwrite).symm.trans hreply)
    subst hsame
    exact ⟨_, t', settle_of_isConflict (by rwa [Response.isConflict_arriving]) t'⟩

end Keyspace.CouchDb
