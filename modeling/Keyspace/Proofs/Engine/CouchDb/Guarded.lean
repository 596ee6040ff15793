import Keyspace.Proofs.Engine.CouchDb.Exchanges
import Keyspace.Proofs.Engine.CouchDb.Operations
import Keyspace.Proofs.Engine.CouchDb.Shelf

/-!
Writes to a document that other clients write as well.

A server that guards a document takes a write only if it names the revision that is there. Between
any two requests of a client, others may have changed anything on the server. A write that succeeds
has replaced the very revision that its look-up has reported, and one that fails with a conflict has
changed no document (`save_guarded`).
-/

set_option autoImplicit false

namespace Keyspace.CouchDb

open Http (Exchange Method Network Response Shared Url)

variable {ν : Type} {n : Network ν} {others : List (Exchange ν) → ν → ν} {c : CouchDb (Shared ν)}
  {db id : String} {doc : Document} {t t' : State (Shared ν)}

structure Revision where
  text : String
  visible : ∀ ch ∈ text.toList, 0x20 ≤ ch.toNat ∧ ch.toNat ≤ 0x7e ∧ ch ≠ '"'

structure Versioned where
  revision : Revision
  document : Document

abbrev Databases := SortedMap (SortedMap Versioned)

/-- The revision of a document; none if there is no such document. -/
def Databases.revision? (databases : Databases) (db id : String) : Option String :=
  ((databases.get? db).bind (·.get? id)).map (·.revision.text)

def Leaves (databases : ν → Databases) (x : Exchange ν) : Prop :=
  databases x.after = databases x.before

def Creates (databases : ν → Databases) (db : String) (x : Exchange ν) : Prop :=
  (databases x.before).get? db = none ∧
    databases x.after = (databases x.before).insert db SortedMap.empty

def Replaces (databases : ν → Databases) (db id : String) (doc : Document) (x : Exchange ν) :
    Prop :=
  ∃ docs revision, (databases x.before).get? db = some docs ∧
    databases x.after = (databases x.before).insert db
      (docs.insert id ⟨revision, kept doc id revision.text⟩)

/-- A server, with `databases` on it, guards a document as a client reaches it: a look-up shows the
current revision in quotes, and a write is taken if it names that revision, or none where there is
no document. What the server answers to other requests does not matter. -/
structure Guards (n : Network ν) (c : CouchDb (Shared ν)) (databases : ν → Databases)
    (db id : String) : Prop where
  head_database : ∀ {x r}, x.Of n → x.Answers c.client .head (c.databaseUrl db) none r →
    Leaves databases x
  put_database : ∀ {x r}, x.Of n →
    x.Answers c.client .put ((c.databaseUrl db).withQuery "n=1&q=2") none r →
    Leaves databases x ∨ Creates databases db x
  head_document : ∀ {x r}, x.Of n → x.Answers c.client .head (c.documentUrl db id) none r →
    Leaves databases x ∧ match ((databases x.before).get? db).bind (·.get? id) with
      | some current =>
        r.isNotFound = false ∧ r.etag = some ("\"" ++ current.revision.text ++ "\"")
      | none => r.isNotFound = true
  put_document : ∀ {x r doc}, x.Of n →
    x.Answers c.client .put (c.documentUrl db id) (some (Document.toJson doc)) r →
    if (databases x.before).contains db = false then r.isNotFound = true ∧ Leaves databases x
    else if revisionOf doc = (databases x.before).revision? db id then
      r.isSuccess = true ∧ Replaces databases db id doc x
    else r.isConflict = true ∧ Leaves databases x

namespace Guards

variable {databases : ν → Databases} {x : Exchange ν} {r : Response}

theorem revision?_of_head (h : Guards n c databases db id) (hof : x.Of n)
    (hasked : x.Answers c.client .head (c.documentUrl db id) none r) :
    (databases x.before).revision? db id = reported r := by
  have hshown := (h.head_document hof hasked).2
  unfold Databases.revision? reported
  cases hcurrent : ((databases x.before).get? db).bind (·.get? id) with
  | none =>
    rw [hcurrent] at hshown
    rw [if_pos hshown, Option.map_none]
  | some current =>
    rw [hcurrent] at hshown
    rw [hshown.1, Response.revision?_quoted hshown.2 current.revision.visible]
    rfl

theorem of_provided (h : Guards n c databases db id) {es : List (Exchange ν)}
    (hprovided : Provided c db es) (hof : ∀ x ∈ es, x.Of n) :
    ∀ x ∈ es, Leaves databases x ∨ Creates databases db x := by
  cases hprovided with
  | known => simp
  | found answers _ =>
    intro x hx
    obtain rfl := List.mem_singleton.1 hx
    exact .inl (h.head_database (hof x hx) answers)
  | created answers _ answers' =>
    intro x hx
    rcases List.mem_pair.1 hx with rfl | rfl
    · exact .inl (h.head_database (hof x hx) answers)
    · exact h.put_database (hof x hx) answers'

/-- A write that is accepted has named the revision that was there. -/
theorem of_accepted (h : Guards n c databases db id) (hof : x.Of n)
    (hsent : x.Answers c.client .put (c.documentUrl db id) (some (Document.toJson doc)) r)
    (hsuccess : r.isSuccess = true) :
    revisionOf doc = (databases x.before).revision? db id ∧ Replaces databases db id doc x := by
  have hanswer := h.put_document hof hsent
  split at hanswer
  · simp [Response.isSuccess_of_isNotFound hanswer.1] at hsuccess
  · split at hanswer
    · rename_i hnamed
      exact ⟨hnamed, hanswer.2⟩
    · simp [Response.isSuccess_of_isConflict hanswer.1] at hsuccess

/-- A write that is refused with a conflict has changed nothing. -/
theorem of_refused (h : Guards n c databases db id) (hof : x.Of n)
    (hsent : x.Answers c.client .put (c.documentUrl db id) (some (Document.toJson doc)) r)
    (hconflict : r.isConflict = true) : Leaves databases x := by
  have hanswer := h.put_document hof hsent
  split at hanswer
  · exact hanswer.2
  · split at hanswer
    · simp [Response.isSuccess_of_isConflict hconflict] at hanswer
    · exact hanswer.2

end Guards

theorem replaces_outgoing {databases : ν → Databases} {x : Exchange ν} {rev : Option String}
    (h : Replaces databases db id (outgoing doc id rev) x) : Replaces databases db id doc x := by
  obtain ⟨docs, revision, hdocs, hafter⟩ := h
  exact ⟨docs, revision, hdocs, by rw [hafter, kept_outgoing]⟩

/-- Whatever other clients do between the requests of a write: if it succeeds, the revision that was
there when the document was replaced is the one that the look-up before has reported, and the new
document is the given one under its id. If it fails with a conflict, no document has changed; a
database that was missing may have been created, unless it was known. -/
theorem save_guarded (hc : c.client.network = n.shared others) {databases : ν → Databases}
    (hserver : Guards n c databases db id) (doc : Document) (t : State (Shared ν)) :
    (∀ receipt t', c.save db id doc t = .ok receipt t' → ∃ es head put found answer,
      Made n t (es ++ [head, put]) t' ∧ Submitted c db id doc es head put found answer ∧
      (∀ x ∈ es, Leaves databases x ∨ Creates databases db x) ∧ Leaves databases head ∧
      (databases head.before).revision? db id = reported found ∧
      (databases put.before).revision? db id = reported found ∧
      Replaces databases db id doc put) ∧
    ∀ e t', c.save db id doc t = .error e t' → e.isConflict = true → ∃ es, Made n t es t' ∧
      (∀ x ∈ es, Leaves databases x ∨ Creates databases db x) ∧
      (t.databases.contains db = true → ∀ x ∈ es, Leaves databases x) := by
  refine ⟨fun receipt t' hsave => ?_, fun e t' hsave he => ?_⟩
  · obtain ⟨r, hsubmit, hsuccess⟩ := save_ok hsave
    obtain ⟨es, head, put, found, answer, hmade, hsubmitted, -, rfl⟩ := submit_made hc hsubmit
    rw [Response.isSuccess_arriving] at hsuccess
    have hhead : head.Of n := hmade.genuine head (by simp)
    have hput : put.Of n := hmade.genuine put (by simp)
    have hes : ∀ x ∈ es, x.Of n := fun x hx => hmade.genuine x (List.mem_append_left _ hx)
    obtain ⟨hnamed, hreplaces⟩ := hserver.of_accepted hput hsubmitted.sent hsuccess
    rw [revisionOf_outgoing] at hnamed
    exact ⟨es, head, put, found, answer, hmade, hsubmitted,
      hserver.of_provided hsubmitted.provided hes, (hserver.head_document hhead hsubmitted.asked).1,
      hserver.revision?_of_head hhead hsubmitted.asked, hnamed.symm, replaces_outgoing hreplaces⟩
  · obtain ⟨r, hsubmit, hconflict⟩ := save_conflict hc hsave he
    obtain ⟨es, head, put, found, answer, hmade, hsubmitted, hknown, rfl⟩ := submit_made hc hsubmit
    rw [Response.isConflict_arriving] at hconflict
    have hhead : Leaves databases head :=
      (hserver.head_document (hmade.genuine head (by simp)) hsubmitted.asked).1
    have hput : Leaves databases put :=
      hserver.of_refused (hmade.genuine put (by simp)) hsubmitted.sent hconflict
    refine ⟨es ++ [head, put], hmade, fun x hx => ?_, fun hdone x hx => ?_⟩
    · rcases List.mem_append.1 hx with hx | hx
      · exact hserver.of_provided hsubmitted.provided
          (fun x hx => hmade.genuine x (List.mem_append_left _ hx)) x hx
      · rcases List.mem_pair.1 hx with rfl | rfl
        · exact .inl hhead
        · exact .inl hput
    · rw [hknown hdone, List.nil_append] at hx
      rcases List.mem_pair.1 hx with rfl | rfl
      · exact hhead
      · exact hput

structure Archive where
  databases : Databases
  writes : UInt64

namespace Archive

def nextRevision (s : Archive) : Revision := ⟨Shelf.token s.writes, Shelf.visible_token s.writes⟩

def write (s : Archive) (db id : String) (docs : SortedMap Versioned) (doc : Document) : Archive :=
  ⟨s.databases.insert db (docs.insert id ⟨s.nextRevision, kept doc id s.nextRevision.text⟩),
    s.writes + 1⟩

def onDatabase (method : Method) (db : String) (s : Archive) : Http.Reply × Archive :=
  match method, s.databases.contains db with
  | .head, true => (.answered ⟨200, none, .json .null⟩, s)
  | .head, false => (.answered ⟨404, none, .json .null⟩, s)
  | .put, true => (.answered ⟨412, none, .json .null⟩, s)
  | .put, false =>
    (.answered ⟨201, none, .json .null⟩,
      { s with databases := s.databases.insert db SortedMap.empty })
  | _, _ => (.answered ⟨405, none, .json .null⟩, s)

def onDocument (request : Http.Request) (db id : String) (s : Archive) : Http.Reply × Archive :=
  match request.method, request.body, s.databases.get? db with
  | .head, _, docs? =>
    match docs?.bind (·.get? id) with
    | some current =>
      (.answered ⟨200, some ("\"" ++ current.revision.text ++ "\""), .json .null⟩, s)
    | none => (.answered ⟨404, none, .json .null⟩, s)
  | .put, some (.obj members), some docs =>
    let doc := SortedMap.ofList members
    if revisionOf doc = (docs.get? id).map (·.revision.text) then
      (.answered ⟨201, none, .json (.obj [("id", .str id), ("rev", .str s.nextRevision.text)])⟩,
        s.write db id docs doc)
    else (.answered ⟨409, none, .json .null⟩, s)
  | _, _, _ => (.answered ⟨404, none, .json .null⟩, s)

def onPlace (request : Http.Request) (place : Option (List String)) (s : Archive) :
    Http.Reply × Archive :=
  match place with
  | some [db] => onDatabase request.method db s
  | some [db, id] => onDocument request db id s
  | _ => (.answered ⟨404, none, .json .null⟩, s)

def network : Network Archive where
  exchange request s := onPlace request (Shelf.place? request.url) s
  horizon _ := 1

theorem onPlace_of_names {x : Exchange Archive} {method : Method} {url : Url} {body : Option Json}
    {r : Response} {c : CouchDb (Shared Archive)} {names : List String} (hof : x.Of network)
    (hanswers : x.Answers c.client method url body r) (hnames : url.Names [] names) :
    onPlace (c.client.request method url body) (some names) x.before = (.answered r, x.after) := by
  have hplace : Shelf.place? (c.client.request method url body).url = some names :=
    Shelf.place?_of_names hnames
  rw [Exchange.Of, hanswers.request, hanswers.reply] at hof
  simp only [network, hplace] at hof
  exact hof

theorem guards {c : CouchDb (Shared Archive)} (hroot : c.root.IsRoot [])
    (hdb : db ≠ "." ∧ db ≠ "..") (hid : id ≠ "." ∧ id ≠ "..") :
    Guards network c databases db id where
  head_database {x r} hof hanswers := by
    have hexchange := onPlace_of_names hof hanswers (hroot.names_within [db] (by simpa using hdb))
    simp only [onPlace, Http.Client.request] at hexchange
    cases hthere : x.before.databases.contains db <;> simp only [onDatabase, hthere] at hexchange
    · rw [Leaves, ← (Prod.mk.inj hexchange).2]
    · rw [Leaves, ← (Prod.mk.inj hexchange).2]
  put_database {x r} hof hanswers := by
    have hnames : ((c.databaseUrl db).withQuery "n=1&q=2").Names [] [db] := by
      rw [databaseUrl, hroot.withQuery_within]
      exact (hroot.names_within [db] (by simpa using hdb)).congr rfl
    have hexchange := onPlace_of_names hof hanswers hnames
    simp only [onPlace, Http.Client.request] at hexchange
    cases hthere : x.before.databases.contains db <;> simp only [onDatabase, hthere] at hexchange
    · refine .inr ⟨by simpa [SortedMap.contains] using hthere, ?_⟩
      rw [← (Prod.mk.inj hexchange).2]
    · exact .inl (by rw [Leaves, ← (Prod.mk.inj hexchange).2])
  head_document {x r} hof hanswers := by
    have hexchange :=
      onPlace_of_names hof hanswers (hroot.names_within [db, id] (by simpa using ⟨hdb, hid⟩))
    simp only [onPlace, onDocument, Http.Client.request] at hexchange
    cases hcurrent : (x.before.databases.get? db).bind (·.get? id) with
    | none =>
      rw [hcurrent] at hexchange
      obtain ⟨hreply, hafter⟩ := Prod.mk.inj hexchange
      cases hreply
      exact ⟨by rw [Leaves, ← hafter], rfl⟩
    | some current =>
      rw [hcurrent] at hexchange
      obtain ⟨hreply, hafter⟩ := Prod.mk.inj hexchange
      cases hreply
      exact ⟨by rw [Leaves, ← hafter], rfl, rfl⟩
  put_document {x r doc} hof hanswers := by
    have hexchange :=
      onPlace_of_names hof hanswers (hroot.names_within [db, id] (by simpa using ⟨hdb, hid⟩))
    simp only [onPlace, onDocument, Http.Client.request, Document.toJson] at hexchange
    cases hthere : x.before.databases.get? db with
    | none =>
      rw [hthere] at hexchange
      obtain ⟨hreply, hafter⟩ := Prod.mk.inj hexchange
      cases hreply
      rw [if_pos (by rw [SortedMap.contains, hthere, Option.isSome_none])]
      exact ⟨rfl, by rw [Leaves, ← hafter]⟩
    | some docs =>
      have hcurrent : x.before.databases.revision? db id =
          (docs.get? id).map (·.revision.text) := by
        rw [Databases.revision?, hthere, Option.bind_some]
      simp only [hthere, SortedMap.ofList_entries] at hexchange
      rw [if_neg (by rw [SortedMap.contains, hthere, Option.isSome_some]; decide), hcurrent]
      split at hexchange
      · rename_i hnamed
        obtain ⟨hreply, hafter⟩ := Prod.mk.inj hexchange
        cases hreply
        rw [if_pos hnamed]
        exact ⟨rfl, docs, x.before.nextRevision, hthere, by rw [← hafter, write]⟩
      · rename_i hnamed
        obtain ⟨hreply, hafter⟩ := Prod.mk.inj hexchange
        cases hreply
        rw [if_neg hnamed]
        exact ⟨rfl, by rw [Leaves, ← hafter]⟩

end Archive

def rival (before : Nat) (log : List (Exchange Archive)) (s : Archive) : Archive :=
  if log.length = before then
    s.write "d" "k" ((s.databases.get? "d").getD SortedMap.empty) SortedMap.empty
  else s

def interrupted (before : Nat) : CouchDb (Shared Archive) :=
  ⟨"http://localhost:5984", Shelf.root, ⟨Archive.network.shared (rival before), none⟩⟩

theorem network_interrupted (before : Nat) :
    (interrupted before).client.network = Archive.network.shared (rival before) := rfl

def untouched : State (Shared Archive) := start ⟨⟨SortedMap.empty, 0⟩, []⟩

theorem guards_interrupted (before : Nat) :
    Guards Archive.network (interrupted before) Archive.databases "d" "k" :=
  Archive.guards ⟨rfl, rfl, rfl⟩ (by decide) (by decide)

/-- The other client comes before the look-up and is seen, or comes after it and is not
overwritten. -/
theorem save_guarded_interrupted :
    (∃ t' head put found, (interrupted 2).save "d" "k" SortedMap.empty untouched =
        .ok ⟨"k", "1"⟩ t' ∧ t'.network.exchanges.drop 2 = [head, put] ∧
      head.before.databases.revision? "d" "k" = reported found ∧
      put.before.databases.revision? "d" "k" = reported found ∧
      Replaces Archive.databases "d" "k" SortedMap.empty put) ∧
    ∃ e t', (interrupted 3).save "d" "k" SortedMap.empty untouched = .error e t' ∧
      e.isConflict = true ∧ ∀ x ∈ t'.network.exchanges, Leaves Archive.databases x ∨
        Creates Archive.databases "d" x := by
  have hdone : answer? ((interrupted 2).save "d" "k" SortedMap.empty untouched) =
      some ⟨"k", "1"⟩ := by decide +kernel
  have hfails : error? ((interrupted 3).save "d" "k" SortedMap.empty untouched) =
      some (.conflict "d" "k" "null") := by decide +kernel
  have hfour : (finalState ((interrupted 2).save "d" "k" SortedMap.empty
      untouched)).network.exchanges.length = 4 := by decide +kernel
  constructor
  · obtain ⟨es, head, put, found, answer, hmade, -, -, -, hshown, hthere, hreplaces⟩ :=
      (save_guarded (network_interrupted 2) (guards_interrupted 2) SortedMap.empty untouched).1 _ _
        (eq_ok_of_answer? hdone)
    have hlog : _ = es ++ [head, put] := hmade.log
    have htwo : es.length = 2 := by simpa [hlog] using hfour
    exact ⟨_, head, put, found, eq_ok_of_answer? hdone, by rw [hlog, ← htwo, List.drop_left],
      hshown, hthere, hreplaces⟩
  · obtain ⟨es, hmade, heffect, -⟩ :=
      (save_guarded (network_interrupted 3) (guards_interrupted 3) SortedMap.empty untouched).2 _ _
        (eq_error_of_error? hfails) rfl
    have hlog : _ = es := hmade.log
    exact ⟨_, _, eq_error_of_error? hfails, rfl, by rwa [hlog]⟩

/-- A write to a database that was missing fails with a conflict, and has created the database. -/
theorem save_conflict_creates :
    Guards Archive.network (interrupted 3) Archive.databases "d" "k" ∧
      ∃ e t', (interrupted 3).save "d" "k" SortedMap.empty untouched = .error e t' ∧
        e.isConflict = true ∧ ∃ x ∈ t'.network.exchanges, ¬ Leaves Archive.databases x := by
  have hfails : error? ((interrupted 3).save "d" "k" SortedMap.empty untouched) =
      some (.conflict "d" "k" "null") := by decide +kernel
  have hcreates : (finalState ((interrupted 3).save "d" "k" SortedMap.empty
      untouched)).network.exchanges[1]?.map (fun x =>
        (x.before.databases.contains "d", x.after.databases.contains "d")) =
      some (false, true) := by decide +kernel
  obtain ⟨x, hx, hchange⟩ := Option.map_eq_some_iff.1 hcreates
  refine ⟨guards_interrupted 3, _, _, eq_error_of_error? hfails, rfl, x, List.mem_of_getElem? hx,
    fun hleaves => ?_⟩
  obtain ⟨hbefore, hafter⟩ := Prod.mk.inj hchange
  rw [hleaves, hbefore] at hafter
  cases hafter

end Keyspace.CouchDb
