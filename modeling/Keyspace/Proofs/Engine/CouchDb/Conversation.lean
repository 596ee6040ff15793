import Keyspace.Proofs.Engine.CouchDb.Caches
import Keyspace.Proofs.Engine.CouchDb.Exchanges
import Mathlib.Data.Set.Insert

/-!
The order of the requests that the engine over CouchDB sends in its lifetime.

A log of requests and replies shows which databases stand: those that were confirmed, with no PUT of
a document answered with status 404 since. Requests are told apart by their methods and by the paths
that they were sent to, and not by the calls that sent them. `Orderly` is the invariant of such a
log together with the known databases. One request keeps it (`Orderly.atDatabase`,
`Orderly.belowDatabase`), and so does every call (`ordered_next`).
-/

set_option autoImplicit false

namespace Keyspace.CouchDb

open Http (Exchange Method Network Response Script Shared Url)

variable {ν α : Type}

section Log

variable (base : List String) (db : String)

/-- A URL of the database itself. A slash behind its name makes no difference. -/
def AtDatabase (url : Url) : Prop := url.Names base [db] ∨ url.Names base [db, ""]

def BelowDatabase (url : Url) : Prop :=
  ∃ place, place ≠ [] ∧ place ≠ [""] ∧ url.Names base (db :: place)

/-- The database was found; or it was missing, and it has been created, be it by another client. -/
inductive Confirms : List (Exchange ν) → Prop where
  | found {x : Exchange ν} {r : Response} (method : x.request.method = .head)
    (place : AtDatabase base db x.request.url) (reply : x.reply = .answered r)
    (there : r.isSuccess = true) : Confirms [x]
  | created {x x' : Exchange ν} {r r' : Response} (method : x.request.method = .head)
    (place : AtDatabase base db x.request.url) (reply : x.reply = .answered r)
    (missing : r.isNotFound = true) (method' : x'.request.method = .put)
    (place' : AtDatabase base db x'.request.url) (reply' : x'.reply = .answered r')
    (done : r'.isSuccess = true ∨ r'.status = 412) : Confirms [x, x']

/-- The PUT of a document into the database was answered with status 404. -/
def Loses (x : Exchange ν) : Prop :=
  x.IsWrite ∧ BelowDatabase base db x.request.url ∧
    ∃ r, x.reply = .answered r ∧ r.isNotFound = true

/-- The database was confirmed, and no PUT of a document into it was answered with status 404
since. -/
def Standing (log : List (Exchange ν)) : Prop :=
  ∃ before es after, log = before ++ es ++ after ∧ Confirms base db es ∧
    ∀ x ∈ after, ¬ Loses base db x

end Log

/-- What is below a database is requested only while the database stands. The database itself is
looked up, or created, only while it does not. -/
def Disciplined (base : List String) (log : List (Exchange ν)) : Prop :=
  ∀ db before x after, log = before ++ x :: after →
    (BelowDatabase base db x.request.url → Standing base db before) ∧
    (AtDatabase base db x.request.url → x.request.method = .head ∨ x.request.method = .put →
      ¬ Standing base db before)

structure Orderly (base : List String) (log : List (Exchange ν)) (known : Set String) : Prop where
  disciplined : Disciplined base log
  standing : ∀ db, db ∈ known ↔ Standing base db log

variable {base : List String} {db id : String} {log : List (Exchange ν)} {x : Exchange ν}
  {known known' : Set String}

theorem AtDatabase.unique {url : Url} {other : String} (h : AtDatabase base db url)
    (h' : AtDatabase base other url) : other = db := by
  rcases h with h | h <;> rcases h' with h' | h' <;> simpa using h'.unique h

theorem AtDatabase.not_below {url : Url} (h : AtDatabase base db url) (other : String) :
    ¬ BelowDatabase base other url := by
  rintro ⟨place, hplace, hslash, hnames⟩
  rcases h with h | h
  · exact hplace (List.cons.inj (hnames.unique h)).2
  · exact hslash (List.cons.inj (hnames.unique h)).2

theorem BelowDatabase.unique {url : Url} {other : String} (h : BelowDatabase base db url)
    (h' : BelowDatabase base other url) : other = db := by
  obtain ⟨_, -, -, hnames⟩ := h
  obtain ⟨_, -, -, hnames'⟩ := h'
  exact (List.cons.inj (hnames'.unique hnames)).1

/-- The request is the last one of a confirmation. -/
def Completes (base : List String) (db : String) (log : List (Exchange ν)) (x : Exchange ν) :
    Prop :=
  Confirms base db [x] ∨ ∃ before y, log = before ++ [y] ∧ Confirms base db [y, x]

theorem Completes.atDatabase (h : Completes base db log x) : AtDatabase base db x.request.url := by
  rcases h with h | ⟨_, _, -, h⟩
  · cases h with
    | found _ place => exact place
  · cases h with
    | created _ _ _ _ _ place' => exact place'

/-- One more request leaves a database standing, or confirms it. -/
theorem standing_concat_iff : Standing base db (log ++ [x]) ↔
    (Standing base db log ∧ ¬ Loses base db x) ∨ Completes base db log x := by
  constructor
  · rintro ⟨before, es, after, hlog, hconfirms, hkept⟩
    rcases List.eq_nil_or_concat after with rfl | ⟨after, y, rfl⟩
    · rw [List.append_nil] at hlog
      cases hconfirms with
      | found method place reply there =>
        obtain ⟨-, hx⟩ := List.append_inj' hlog rfl
        obtain rfl := List.singleton_inj.1 hx
        exact .inr (.inl (.found method place reply there))
      | created method place reply missing method' place' reply' done =>
        rw [List.append_cons before] at hlog
        obtain ⟨hbefore, hx⟩ := List.append_inj' hlog rfl
        obtain rfl := List.singleton_inj.1 hx
        exact .inr (.inr ⟨_, _, hbefore,
          .created method place reply missing method' place' reply' done⟩)
    · rw [List.concat_eq_append, ← List.append_assoc] at hlog
      obtain ⟨hbefore, hx⟩ := List.append_inj' hlog rfl
      obtain rfl := List.singleton_inj.1 hx
      refine .inl ⟨⟨before, es, after, hbefore, hconfirms, fun z hz => hkept z ?_⟩, hkept x ?_⟩
      · simp [hz]
      · simp
  · rintro (⟨⟨before, es, after, rfl, hconfirms, hkept⟩, hx⟩ | hconfirms |
      ⟨before, y, rfl, hconfirms⟩)
    · refine ⟨before, es, after ++ [x], by simp, hconfirms, fun z hz => ?_⟩
      rcases List.mem_append.1 hz with hz | hz
      · exact hkept z hz
      · exact List.mem_singleton.1 hz ▸ hx
    · exact ⟨log, [x], [], by simp, hconfirms, by simp⟩
    · exact ⟨before, [y, x], [], by simp, hconfirms, by simp⟩

theorem completes_head_iff (hmethod : x.request.method = .head)
    (hplace : AtDatabase base db x.request.url) :
    Completes base db log x ↔ ∃ r, x.reply = .answered r ∧ r.isSuccess = true := by
  constructor
  · rintro (h | ⟨_, _, -, h⟩)
    · cases h with
      | found _ _ reply there => exact ⟨_, reply, there⟩
    · cases h with
      | created _ _ _ _ method' => simp [hmethod] at method'
  · rintro ⟨r, reply, there⟩
    exact .inl (.found hmethod hplace reply there)

theorem completes_put_iff {y : Exchange ν} {r : Response} (hmethod : y.request.method = .head)
    (hplace : AtDatabase base db y.request.url) (hreply : y.reply = .answered r)
    (hmissing : r.isNotFound = true) (hmethod' : x.request.method = .put)
    (hplace' : AtDatabase base db x.request.url) :
    Completes base db (log ++ [y]) x ↔
      ∃ r', x.reply = .answered r' ∧ (r'.isSuccess = true ∨ r'.status = 412) := by
  constructor
  · rintro (h | ⟨_, _, -, h⟩)
    · cases h with
      | found method => simp [hmethod'] at method
    · cases h with
      | created _ _ _ _ _ _ reply' done => exact ⟨_, reply', done⟩
  · rintro ⟨r', hreply', hdone⟩
    exact .inr ⟨log, y, rfl,
      .created hmethod hplace hreply hmissing hmethod' hplace' hreply' hdone⟩

namespace Orderly

theorem nil : Orderly base ([] : List (Exchange ν)) ∅ where
  disciplined _ before x after h := by simp at h
  standing db := by
    refine ⟨fun h => h.elim, ?_⟩
    rintro ⟨before, es, after, hlog, hconfirms, -⟩
    have hes : es = [] := by simp_all
    rw [hes] at hconfirms
    cases hconfirms

theorem concat (h : Orderly base log known)
    (hbelow : ∀ db, BelowDatabase base db x.request.url → db ∈ known)
    (hat : ∀ db, AtDatabase base db x.request.url → db ∉ known)
    (hknown : ∀ db, db ∈ known' ↔ (db ∈ known ∧ ¬ Loses base db x) ∨ Completes base db log x) :
    Orderly base (log ++ [x]) known' where
  disciplined db before y after hlog := by
    rcases List.eq_nil_or_concat after with rfl | ⟨after, z, rfl⟩
    · obtain ⟨rfl, hx⟩ := List.append_inj' hlog rfl
      obtain rfl := List.singleton_inj.1 hx
      exact ⟨fun hy => (h.standing db).1 (hbelow db hy),
        fun hy _ hstanding => hat db hy ((h.standing db).2 hstanding)⟩
    · rw [List.concat_eq_append, ← List.cons_append, ← List.append_assoc] at hlog
      exact h.disciplined db before y after (List.append_inj' hlog rfl).1
  standing db := by rw [hknown, h.standing, standing_concat_iff]

theorem atDatabase (h : Orderly base log known) (hnew : db ∉ known)
    (hplace : AtDatabase base db x.request.url)
    (hknown : ∀ other, other ∈ known' ↔ other ∈ known ∨ other = db ∧ Completes base db log x) :
    Orderly base (log ++ [x]) known' := by
  refine h.concat (fun other hbelow => absurd hbelow (hplace.not_below other))
    (fun other hat => hplace.unique hat ▸ hnew) fun other => ?_
  have hkept : ¬ Loses base other x := fun hloses => hplace.not_below other hloses.2.1
  have hcompletes : Completes base other log x ↔ other = db ∧ Completes base db log x := by
    constructor
    · intro hcompletes
      obtain rfl := hplace.unique hcompletes.atDatabase
      exact ⟨rfl, hcompletes⟩
    · rintro ⟨rfl, hcompletes⟩
      exact hcompletes
  rw [hknown, hcompletes]
  simp [hkept]

theorem belowDatabase (h : Orderly base log known) (hstands : db ∈ known)
    (hplace : BelowDatabase base db x.request.url)
    (hknown : ∀ other, other ∈ known' ↔ other ∈ known ∧ ¬ (other = db ∧ Loses base db x)) :
    Orderly base (log ++ [x]) known' := by
  refine h.concat (fun other hbelow => hplace.unique hbelow ▸ hstands)
    (fun other hat => absurd hplace (hat.not_below db)) fun other => ?_
  have hloses : Loses base other x ↔ other = db ∧ Loses base db x := by
    constructor
    · intro hloses
      obtain rfl := hplace.unique hloses.2.1
      exact ⟨rfl, hloses⟩
    · rintro ⟨rfl, hloses⟩
      exact hloses
  have hcompletes : ¬ Completes base other log x :=
    fun hcompletes => hcompletes.atDatabase.not_below db hplace
  rw [hknown, hloses]
  simp [hcompletes]

theorem found (h : Orderly base log known) (hnew : db ∉ known)
    (hplace : AtDatabase base db x.request.url) (hconfirms : Completes base db log x) :
    Orderly base (log ++ [x]) (insert db known) :=
  h.atDatabase hnew hplace fun other => by simp [hconfirms, or_comm]

theorem unfound (h : Orderly base log known) (hnew : db ∉ known)
    (hplace : AtDatabase base db x.request.url) (hconfirms : ¬ Completes base db log x) :
    Orderly base (log ++ [x]) known :=
  h.atDatabase hnew hplace fun other => by simp [hconfirms]

end Orderly

def knownDatabases (t : State ν) : Set String := {db | t.databases.contains db = true}

theorem knownDatabases_insert (t : State ν) (db : String) :
    knownDatabases { t with databases := t.databases.insert db } =
      insert db (knownDatabases t) := by
  ext other
  simp [knownDatabases, DoneSet.contains_insert]

/-- The log so far is disciplined, and the known databases are those that stand. -/
def Ordered (base : List String) (t : State (Shared ν)) : Prop :=
  Orderly base t.network.exchanges (knownDatabases t)

def KeepsOrder (base : List String) (t t' : State (Shared ν)) : Prop :=
  Ordered base t → Ordered base t'

instance : IsPreorder (State (Shared ν)) (KeepsOrder base) where
  refl _ h := h
  trans _ _ _ h h' := h' ∘ h

def KeepsOrderBelow (base : List String) (db : String) (t t' : State (Shared ν)) : Prop :=
  t'.databases = t.databases ∧ (db ∈ knownDatabases t → KeepsOrder base t t')

instance : IsPreorder (State (Shared ν)) (KeepsOrderBelow base db) where
  refl _ := ⟨rfl, fun _ h => h⟩
  trans := by
    rintro t t' t'' ⟨hsame, hkeeps⟩ ⟨hsame', hkeeps'⟩
    refine ⟨hsame'.trans hsame, fun hknown => trans_of (KeepsOrder base) (hkeeps hknown) ?_⟩
    exact hkeeps' (by rwa [knownDatabases, Set.mem_ofPred_eq, hsame])

def IsPlainName (s : String) : Prop := s ≠ "." ∧ s ≠ ".."

def IsPlainId (id : String) : Prop := IsPlainName id ∧ id ≠ ""

variable {n : Network ν} {others : List (Exchange ν) → ν → ν} {c : CouchDb (Shared ν)}
  {t t' : State (Shared ν)}

theorem Inside.belowDatabase {c : CouchDb ν} (hroot : c.root.IsRoot base) (hdb : IsPlainName db)
    {url : Url} (h : Inside c db IsPlainId url) : BelowDatabase base db url.bared := by
  have hdocument : ∀ {id : String}, IsPlainId id → BelowDatabase base db (c.documentUrl db id) :=
    fun hid => ⟨[_], by simp, by simpa using hid.2, names_documentUrl hroot hdb hid.1⟩
  have hservice : ∀ service ∈ services, BelowDatabase base db (c.serviceUrl db service) := by
    intro service hmem
    have hname : ∀ s ∈ services, s ≠ "" := by decide
    exact ⟨[service], by simp, by simpa using hname service hmem, names_serviceUrl hroot hdb hmem⟩
  have hcongr : ∀ {url other : Url}, BelowDatabase base db url → other.path = url.path →
      BelowDatabase base db other :=
    fun ⟨place, hplace, hslash, hnames⟩ hpath => ⟨place, hplace, hslash, hnames.congr hpath⟩
  refine hcongr ?_ (Url.path_bared url)
  cases h with
  | document hid => exact hdocument hid
  | revision hid rev => exact hcongr (hdocument hid) (Url.path_withField ..)
  | listing => exact hcongr (hservice "_all_docs" (by decide)) (Url.path_withField ..)
  | query => exact hservice "_find" (by decide)
  | index => exact hservice "_index" (by decide)

theorem keepsOrderBelow_send (hc : c.client.network = n.shared others) {method : Method}
    {url : Url} {body : Option Json} (hplace : BelowDatabase base db url.bared)
    (hread : method = .put → body = none) :
    Runs (KeepsOrderBelow base db) (fun _ => True) (c.send method url body) := by
  have hone : ∀ (t : State (Shared ν)) (x : Exchange ν),
      x.request = c.client.request method url body →
      KeepsOrderBelow base db t { t with network := t.network.record x } := by
    refine fun t x hx => ⟨rfl, fun hknown h => ?_⟩
    have hkept : ¬ Loses base db x := by
      rintro ⟨⟨hput, hsome⟩, -⟩
      rw [hx] at hput hsome
      exact hsome (hread hput)
    exact Orderly.belowDatabase h hknown (by rwa [hx]) fun other => by simp [hkept, knownDatabases]
  intro t
  have hsent := Shared.sent hc method url body t.network
  rw [send]
  generalize c.client.send method url body t.network = outcome at hsent
  cases hsent with
  | refused => exact ⟨refl t, fun _ _ _ => trivial⟩
  | dropped of request => exact ⟨hone t _ request, fun _ _ _ => trivial⟩
  | answered of answers => exact ⟨hone t _ answers.request, fun _ _ h => by cases h⟩

theorem keptInside_keepsOrderBelow (hc : c.client.network = n.shared others)
    (hroot : c.root.IsRoot base) (hdb : IsPlainName db) :
    KeptInside c db IsPlainId (KeepsOrderBelow base db) fun _ => True where
  preorder := inferInstance
  errors _ _ := trivial
  send hinside := keepsOrderBelow_send hc (hinside.belowDatabase hroot hdb)

/-- An attempt to ensure a database: the same databases are known so far, and this one stands after
it if it has succeeded. -/
def Attempts (base : List String) (db : String) (t : State (Shared ν)) :
    EStateM.Result StoreError (State (Shared ν)) Unit → Prop
  | .ok _ t' => t'.databases = t.databases ∧
    Orderly base t'.network.exchanges (insert db (knownDatabases t))
  | .error _ t' => t'.databases = t.databases ∧ Ordered base t'

theorem finalState_settle {r : Response} (h : ¬ r.isNotFound = true) :
    finalState (settle db id r t) = t := by
  rw [settle, if_neg h]
  split
  · rfl
  · split
    · unfold Response.read
      cases r.json?.bind receipt? <;> rfl
    · rfl

theorem completes_lookup_iff (hroot : c.root.IsRoot base) (hdb : IsPlainName db)
    (log : List (Exchange ν)) {x : Exchange ν}
    (hx : x.request = c.client.request .head (c.databaseUrl db) none) :
    AtDatabase base db x.request.url ∧
      (Completes base db log x ↔ ∃ r, x.reply = .answered r ∧ r.isSuccess = true) := by
  have hplace : AtDatabase base db (c.databaseUrl db).bared :=
    .inl ((names_databaseUrl hroot hdb).congr (Url.path_bared _))
  refine ⟨by rwa [hx], completes_head_iff ?_ (by rwa [hx])⟩
  rw [hx]
  rfl

theorem completes_creation_iff (hroot : c.root.IsRoot base) (hdb : IsPlainName db)
    (log : List (Exchange ν)) {x y : Exchange ν} {r : Response}
    (hasked : x.Answers c.client .head (c.databaseUrl db) none r) (hmissing : r.isNotFound = true)
    (hy : y.request = c.client.request .put ((c.databaseUrl db).withQuery "n=1&q=2") none) :
    AtDatabase base db y.request.url ∧ (Completes base db (log ++ [x]) y ↔
      ∃ r', y.reply = .answered r' ∧ (r'.isSuccess = true ∨ r'.status = 412)) := by
  have hplace : AtDatabase base db ((c.databaseUrl db).withQuery "n=1&q=2").bared :=
    .inl ((names_creationUrl hroot hdb _).1.congr (Url.path_bared _))
  refine ⟨by rwa [hy], completes_put_iff ?_ ?_ hasked.reply hmissing ?_ ?_⟩
  · rw [hasked.request]
    rfl
  · exact (completes_lookup_iff hroot hdb log hasked.request).1
  · rw [hy]
    rfl
  · rwa [hy]

theorem attempts_putDatabase (hc : c.client.network = n.shared others) (hroot : c.root.IsRoot base)
    (hdb : IsPlainName db) (h : Ordered base t) (hnew : db ∉ knownDatabases t) {x : Exchange ν}
    {r : Response} (hasked : x.Answers c.client .head (c.databaseUrl db) none r)
    (hmissing : r.isNotFound = true) :
    Attempts base db t (c.putDatabase db { t with network := t.network.record x }) := by
  -- The look-up is no confirmation by itself: the database was missing.
  have hunfound : Orderly base (t.network.exchanges ++ [x]) (knownDatabases t) := by
    obtain ⟨hat, hiff⟩ := completes_lookup_iff hroot hdb t.network.exchanges hasked.request
    refine Orderly.unfound h hnew hat fun hcompletes => ?_
    obtain ⟨r', hreply, hthere⟩ := hiff.1 hcompletes
    obtain rfl : r = r' := by simpa [hasked.reply] using hreply
    simp_all [Response.isNotFound, Response.isSuccess]
  have hput := Shared.sent hc .put ((c.databaseUrl db).withQuery "n=1&q=2") none
    (t.network.record x)
  simp only [putDatabase, bind_apply, send]
  generalize c.client.send .put ((c.databaseUrl db).withQuery "n=1&q=2") none
    (t.network.record x) = outcome at hput
  cases hput with
  | refused => exact ⟨rfl, hunfound⟩
  | @dropped y e of request reply =>
    obtain ⟨hat, hiff⟩ :=
      completes_creation_iff hroot hdb t.network.exchanges hasked hmissing request
    exact ⟨rfl, hunfound.unfound hnew hat (by simp [hiff, reply])⟩
  | @answered y r' of answers =>
    obtain ⟨hat, hiff⟩ :=
      completes_creation_iff hroot hdb t.network.exchanges hasked hmissing answers.request
    dsimp only
    rw [Response.isSuccess_arriving, Response.status_arriving]
    split
    · rename_i hdone
      exact ⟨rfl, hunfound.found hnew hat (hiff.2 ⟨r', answers.reply, by simpa using hdone⟩)⟩
    · rename_i hfailed
      refine ⟨rfl, hunfound.unfound hnew hat fun hdone => hfailed ?_⟩
      obtain ⟨r, hreply, hdone⟩ := hiff.1 hdone
      obtain rfl : r' = r := by simpa [answers.reply] using hreply
      simpa using hdone

theorem attempts_createIfMissing (hc : c.client.network = n.shared others)
    (hroot : c.root.IsRoot base) (hdb : IsPlainName db) (h : Ordered base t)
    (hnew : db ∉ knownDatabases t) : Attempts base db t (c.createIfMissing db t) := by
  have hhead := Shared.sent hc .head (c.databaseUrl db) none t.network
  rw [createIfMissing]
  simp only [bind_apply, send] at hhead ⊢
  generalize c.client.send .head (c.databaseUrl db) none t.network = outcome at hhead
  cases hhead with
  | refused => exact ⟨rfl, h⟩
  | @dropped x e of request reply =>
    obtain ⟨hat, hiff⟩ := completes_lookup_iff hroot hdb t.network.exchanges request
    exact ⟨rfl, Orderly.unfound h hnew hat (by simp [hiff, reply])⟩
  | @answered x r of answers =>
    obtain ⟨hat, hiff⟩ := completes_lookup_iff hroot hdb t.network.exchanges answers.request
    dsimp only
    rw [Response.isSuccess_arriving, Response.isNotFound_arriving]
    split
    · rename_i hthere
      exact ⟨rfl, Orderly.found h hnew hat (hiff.2 ⟨r, answers.reply, hthere⟩)⟩
    · rename_i habsent
      split
      · rename_i hmissing
        exact attempts_putDatabase hc hroot hdb h hnew answers hmissing
      · refine ⟨rfl, Orderly.unfound h hnew hat fun hdone => habsent ?_⟩
        obtain ⟨r', hreply, hthere⟩ := hiff.1 hdone
        obtain rfl : r = r' := by simpa [answers.reply] using hreply
        exact hthere

section Calls

variable (hc : c.client.network = n.shared others) (hroot : c.root.IsRoot base)
  (hdb : IsPlainName db)

include hc hroot hdb

theorem keepsOrder_ensureDatabase :
    Runs (KeepsOrder base) (fun _ => True) (c.ensureDatabase db) := by
  refine fun t => ⟨fun h => ?_, fun _ _ _ => trivial⟩
  simp only [ensureDatabase, bind_apply, get_apply, DoneSet.ensure_apply, modifyGet_apply]
  by_cases hdone : t.databases.contains db = true
  · simp only [hdone, if_true]
    exact h
  · have hattempt := attempts_createIfMissing hc hroot hdb h hdone
    simp only [hdone]
    cases hrun : c.createIfMissing db t with
    | ok _ t' =>
      rw [hrun] at hattempt
      obtain ⟨hsame, horderly⟩ := hattempt
      rw [← knownDatabases_insert, ← hsame] at horderly
      exact hsame ▸ horderly
    | error e t' =>
      rw [hrun] at hattempt
      exact hattempt.2

theorem keepsOrder_after_ensureDatabase {f : Unit → Action (State (Shared ν)) α}
    (hf : ∀ t, db ∈ knownDatabases t → KeepsOrder base t (finalState (f () t))) :
    Runs (KeepsOrder base) (fun _ => True) (c.ensureDatabase db >>= f) := by
  refine fun t => ⟨?_, fun _ _ _ => trivial⟩
  obtain ⟨hensure, -⟩ := keepsOrder_ensureDatabase hc hroot hdb t
  simp only [bind_apply]
  cases hrun : c.ensureDatabase db t with
  | error e t' =>
    rw [hrun] at hensure
    exact hensure
  | ok _ t' =>
    rw [hrun] at hensure
    exact trans_of (KeepsOrder base) hensure (hf t' (contains_of_ensureDatabase hrun))

theorem keepsOrder_of_provides {a : Action (State (Shared ν)) α}
    (ha : Provides c db (KeepsOrderBelow base db) (fun _ => True) a) :
    Runs (KeepsOrder base) (fun _ => True) a := by
  obtain ⟨f, rfl, hf⟩ := ha
  exact keepsOrder_after_ensureDatabase hc hroot hdb fun t hknown => (hf t).1.2 hknown

theorem keepsOrder_find (selector : Selector) (fields : Option (List String)) (limit : Nat) :
    Runs (KeepsOrder base) (fun _ => True) (c.find db selector fields limit) := by
  have hinside := keptInside_keepsOrderBelow hc hroot hdb
  have hquery : Runs (KeepsOrder base) (fun _ => True) (c.query db selector fields limit) :=
    keepsOrder_of_provides hc hroot hdb hinside.query
  have hlist : Runs (KeepsOrder base) (fun _ => True) (c.listAll db) :=
    keepsOrder_of_provides hc hroot hdb hinside.listAll
  refine Runs.bind ?_ fun _ => hquery.fallback (hlist.bind fun _ => .pure)
  unfold Selector.validate
  split
  · exact .throw trivial
  · exact .pure

theorem keepsOrder_ensureIndex (index : Index) :
    Runs (KeepsOrder base) (fun _ => True) (c.ensureIndex db index) :=
  .ensure
    (keepsOrder_of_provides hc hroot hdb (keptInside_keepsOrderBelow hc hroot hdb).createIndex)
    (fun t => refl t) fun _ _ h => h

/-- A write is one more request below the database, and the database is forgotten if the answer is
that it is missing. -/
theorem keepsOrder_write (hid : IsPlainId id) (body : Json) (hknown : db ∈ knownDatabases t) :
    KeepsOrder base t (finalState
      ((c.send .put (c.documentUrl db id) (some body) >>= settle db id) t)) := by
  intro h
  have hplace := (Inside.document hid).belowDatabase hroot hdb
  have hput := Shared.sent hc .put (c.documentUrl db id) (some body) t.network
  simp only [bind_apply, send]
  generalize c.client.send .put (c.documentUrl db id) (some body) t.network = outcome at hput
  cases hput with
  | refused => exact h
  | @dropped x e of request reply =>
    have hkept : ¬ Loses base db x := by simp [Loses, reply]
    exact Orderly.belowDatabase h hknown (by rwa [request]) fun other => by
      simp [hkept, knownDatabases, finalState]
  | @answered x r of answers =>
    have hbelow : BelowDatabase base db x.request.url := by rwa [answers.request]
    by_cases hmissing : r.isNotFound = true
    · have hloses : Loses base db x := by
        refine ⟨?_, hbelow, r, answers.reply, hmissing⟩
        rw [Exchange.IsWrite, answers.request]
        exact ⟨rfl, Option.some_ne_none _⟩
      have hconflict := Response.isConflict_of_isNotFound hmissing
      rw [← Response.isNotFound_arriving r .put] at hmissing
      rw [← Response.isConflict_arriving r .put] at hconflict
      simp only [settle, hconflict, hmissing]
      refine Orderly.belowDatabase h hknown hbelow fun other => ?_
      simp [hloses, knownDatabases, forgetDatabase, finalState, DoneSet.contains_forget, and_comm]
    · have hkept : ¬ Loses base db x := by
        simpa [Loses, answers.reply] using fun _ _ => hmissing
      rw [← Response.isNotFound_arriving r .put] at hmissing
      dsimp only
      rw [finalState_settle hmissing]
      exact Orderly.belowDatabase h hknown hbelow fun other => by simp [hkept, knownDatabases]

theorem keepsOrder_save (hid : IsPlainId id) (doc : Document) :
    Runs (KeepsOrder base) (fun _ => True) (c.save db id doc) := by
  have hsave : c.save db id doc = c.ensureDatabase db >>= fun _ =>
      c.currentRevision db id >>= fun rev =>
        c.send .put (c.documentUrl db id) (some (outgoing doc id rev).toJson) >>= settle db id := by
    simp only [save, submit, lookUpRevision, bind_assoc]
  rw [hsave]
  refine keepsOrder_after_ensureDatabase hc hroot hdb fun t hknown => ?_
  obtain ⟨⟨hsame, hlook⟩, -⟩ :=
    (keptInside_keepsOrderBelow hc hroot hdb).currentRevision hid t
  simp only [bind_apply] at hsame hlook ⊢
  cases hrun : c.currentRevision db id t with
  | error e t' =>
    rw [hrun] at hlook
    exact hlook hknown
  | ok rev t' =>
    rw [hrun] at hsame hlook
    have hknown' : db ∈ knownDatabases t' := by
      rwa [knownDatabases, Set.mem_ofPred_eq, show t'.databases = t.databases from hsame]
    exact trans_of (KeepsOrder base) (hlook hknown)
      (keepsOrder_write hc hroot hdb hid _ hknown')

end Calls

def Use.database : Use → String
  | .get db _ | .save db _ _ | .delete db _ | .listAll db | .find db _ _ _ | .ensureIndex db _ => db

def Use.id? : Use → Option String
  | .get _ id | .save _ id _ | .delete _ id => some id
  | .listAll _ | .find _ _ _ _ | .ensureIndex _ _ => none

def Use.IsPlain (u : Use) : Prop := IsPlainName u.database ∧ ∀ id ∈ u.id?, IsPlainId id

theorem ordered_next (hc : c.client.network = n.shared others) (hroot : c.root.IsRoot base)
    {u : Use} (hu : u.IsPlain) (h : Ordered base t) : Ordered base (u.next c t) := by
  have hdb := hu.1
  have hinside := keptInside_keepsOrderBelow hc hroot hdb
  have hprovided : ∀ {β : Type} {a : Action (State (Shared ν)) β},
      Provides c u.database (KeepsOrderBelow base u.database) (fun _ => True) a →
      Ordered base (finalState (a t)) :=
    fun ha => (keepsOrder_of_provides hc hroot hdb ha t).1 h
  cases u with
  | get db id => exact hprovided (hinside.get (hu.2 id rfl) trivial)
  | save db id doc => exact (keepsOrder_save hc hroot hdb (hu.2 id rfl) doc t).1 h
  | delete db id => exact hprovided (hinside.delete (hu.2 id rfl))
  | listAll db => exact hprovided hinside.listAll
  | find db selector fields limit =>
    exact (keepsOrder_find hc hroot hdb selector fields limit t).1 h
  | ensureIndex db index => exact (keepsOrder_ensureIndex hc hroot hdb index t).1 h

theorem ordered_after (hc : c.client.network = n.shared others) (hroot : c.root.IsRoot base)
    {uses : List Use} (huses : ∀ u ∈ uses, u.IsPlain) (h : Ordered base t) :
    Ordered base (after c uses t) := by
  induction uses generalizing t with
  | nil => exact h
  | cons u rest ih =>
    exact ih (fun v hv => huses v (List.mem_cons_of_mem u hv))
      (ordered_next hc hroot (huses u List.mem_cons_self) h)

theorem sortedFields_eq_of_perm {a b : Index} (h : a.fields.Perm b.fields) :
    a.sortedFields = b.sortedFields := by
  have hsorted : ∀ fields : List String,
      fields.mergeSort.Pairwise fun x y => decide (x ≤ y) = true := fun fields =>
    List.pairwise_mergeSort (fun x y z hxy hyz => by
      simp only [decide_eq_true_eq] at *
      exact String.le_trans hxy hyz) (fun x y => by simpa using String.le_total x y) _
  have hperm : a.sortedFields.Perm b.sortedFields :=
    (List.mergeSort_perm ..).trans (h.trans (List.mergeSort_perm ..).symm)
  refine hperm.eq_of_pairwise (fun x y _ _ hxy hyx => ?_) (hsorted _) (hsorted _)
  exact String.le_antisymm (by simpa using hxy) (by simpa using hyx)

theorem contains_of_ensureIndex {index : Index} (h : c.ensureIndex db index t = .ok () t') :
    t'.indexes.contains (db, index.sortedFields) = true := by
  simp only [ensureIndex, bind_apply, get_apply, DoneSet.ensure_apply,
    modifyGet_apply] at h
  by_cases hdone : t.indexes.contains (db, index.sortedFields) = true
  · simp only [hdone, if_true] at h
    cases h
    exact hdone
  · simp only [hdone] at h
    cases hcreate : c.createIndex db index t with
    | ok _ s =>
      simp only [hcreate] at h
      cases h
      simp [DoneSet.contains_insert]
    | error e s =>
      simp only [hcreate] at h
      cases h

/-- After any calls, the log is disciplined and the known databases are those that stand. And once
an index was ensured, no call for an index over the same fields in any order sends a request. -/
theorem disciplined_after (hc : c.client.network = n.shared others) (hroot : c.root.IsRoot base)
    (server : ν) (uses : List Use) :
    ((∀ u ∈ uses, u.IsPlain) →
      Disciplined base (after c uses (start ⟨server, []⟩)).network.exchanges ∧
      ∀ db, (after c uses (start ⟨server, []⟩)).databases.contains db = true ↔
        Standing base db (after c uses (start ⟨server, []⟩)).network.exchanges) ∧
    ∀ before db index rest t, uses = before ++ .ensureIndex db index :: rest →
      c.ensureIndex db index (after c before (start ⟨server, []⟩)) = .ok () t →
      ∀ other : Index, other.fields.Perm index.fields →
        c.ensureIndex db other (after c uses (start ⟨server, []⟩)) =
          .ok () (after c uses (start ⟨server, []⟩)) := by
  refine ⟨fun huses => ?_, ?_⟩
  · have hstart : Ordered base (start (⟨server, []⟩ : Shared ν)) := by
      have hnone : knownDatabases (start (⟨server, []⟩ : Shared ν)) = ∅ := by
        ext db
        simp [knownDatabases, start, DoneSet.empty, DoneSet.contains]
      rw [Ordered, hnone]
      exact .nil
    have hordered := ordered_after hc hroot huses hstart
    exact ⟨hordered.disciplined, hordered.standing⟩
  · rintro before db index rest t rfl hensure other hfields
    have hstate : after c (before ++ .ensureIndex db index :: rest) (start ⟨server, []⟩) =
        after c rest t := by
      rw [after_append]
      simp only [after, List.foldl_cons, Use.next] at hensure ⊢
      rw [hensure]
      rfl
    rw [hstate]
    refine ensureIndex_indexed (after_indexes c rest ?_)
    rw [sortedFields_eq_of_perm hfields]
    exact contains_of_ensureIndex hensure

def logged (root : Url) : CouchDb (Shared Script) :=
  ⟨"http://localhost:5984", root, ⟨Script.network.shared fun _ s => s, none⟩⟩

theorem network_logged (root : Url) :
    (logged root).client.network = Script.network.shared fun _ s => s := rfl

def racedAndDropped : Script where
  reachable := true
  replies := [.answered ⟨404, none, .json .null⟩, .answered ⟨412, none, .json .null⟩,
    .answered ⟨200, none, .json (.obj [("result", .str "created")])⟩,
    .answered ⟨404, none, .json .null⟩, .answered ⟨404, none, .json .null⟩,
    .answered ⟨200, none, .json .null⟩,
    .answered ⟨200, none, .json (.obj [("rows", .arr [])])⟩]
  requests := []

def indexSaveList : List Use :=
  [.ensureIndex "d" ⟨["a", "b"], none⟩, .save "d" "k" SortedMap.empty, .listAll "d"]

theorem disciplined_after_racedAndDropped :
    (after (logged Shelf.root) indexSaveList (start ⟨racedAndDropped, []⟩)).network.exchanges.map
        (fun x => (x.request.method, x.request.url.path.text)) =
      [(.head, "/d"), (.put, "/d"), (.post, "/d/_index"), (.head, "/d/k"), (.put, "/d/k"),
        (.head, "/d"), (.get, "/d/_all_docs")] ∧
    Disciplined []
      (after (logged Shelf.root) indexSaveList (start ⟨racedAndDropped, []⟩)).network.exchanges ∧
    (logged Shelf.root).ensureIndex "d" ⟨["b", "a"], none⟩
        (after (logged Shelf.root) indexSaveList (start ⟨racedAndDropped, []⟩)) =
      .ok () (after (logged Shelf.root) indexSaveList (start ⟨racedAndDropped, []⟩)) := by
  obtain ⟨hdisciplined, hindexed⟩ := disciplined_after (network_logged Shelf.root) Shelf.isRoot
    racedAndDropped indexSaveList
  have hplain : ∀ u ∈ indexSaveList, u.IsPlain := by
    simp [indexSaveList, Use.IsPlain, Use.database, Use.id?, IsPlainName, IsPlainId]
  have hensure : answer? ((logged Shelf.root).ensureIndex "d" ⟨["a", "b"], none⟩
      (start ⟨racedAndDropped, []⟩)) = some () := by decide +kernel
  exact ⟨by decide +kernel, (hdisciplined hplain).1,
    hindexed [] "d" ⟨["a", "b"], none⟩ _ _ rfl (eq_ok_of_answer? hensure) ⟨["b", "a"], none⟩
      (.swap ..)⟩

theorem not_disciplined_of_repeated {segments segments' : List String}
    (between : List (Method × Http.Path))
    (hlog : log.map (fun x => (x.request.method, x.request.url.path)) =
      (.head, .segments segments) :: (between ++ [(.head, .segments segments')]))
    (hfound : ∀ x ∈ log, x.reply = .answered ⟨200, none, .text ""⟩)
    (hreads : ∀ z ∈ between, z.1 ≠ .put)
    (hplace : ∀ url : Url, url.path = .segments segments → AtDatabase base db url)
    (hplace' : ∀ url : Url, url.path = .segments segments' → AtDatabase base db url) :
    ¬ Disciplined base log := by
  obtain ⟨x, rest, rfl, hx, hrest⟩ := List.map_eq_cons_iff.1 hlog
  obtain ⟨reads, last, rfl, hbetween, hlast⟩ := List.map_eq_append_iff.1 hrest
  obtain ⟨y, rfl, hy⟩ := List.map_eq_singleton_iff.1 hlast
  simp only [Prod.mk.injEq] at hx hy
  intro h
  refine (h db (x :: reads) y [] rfl).2 (hplace' _ hy.2) (.inl hy.1) ?_
  refine ⟨[], [x], reads, rfl, .found hx.1 (hplace _ hx.2) (hfound x List.mem_cons_self) rfl,
    fun z hz hloses => ?_⟩
  exact hreads _ (hbetween ▸ List.mem_map_of_mem hz) hloses.1.1

def complaisant : Script := ⟨true, List.replicate 4 (.answered ⟨200, none, .text ""⟩), []⟩

def logOf (root : Url) (uses : List Use) : List (Exchange Script) :=
  (after (logged root) uses (start ⟨complaisant, []⟩)).network.exchanges

def rootWithFragment : Url := { Shelf.root with fragment := some "/" }

/-- Names of dots, which move up in a path, and a root that has a fragment. -/
theorem not_disciplined_of_dots :
    ¬ Disciplined [] (logOf Shelf.root [.get "d" "k", .delete ".." "d"]) ∧
      ¬ Disciplined [] (logOf Shelf.root [.get "d" "k", .delete "." "d"]) ∧
      ¬ Disciplined [] (logOf Shelf.root [.delete "d" "."]) ∧
      ¬ Disciplined [] (logOf Shelf.root [.delete "d" ""]) ∧
      ¬ Disciplined [] (logOf Shelf.root [.delete "" ".."]) ∧
      ¬ Disciplined [] (logOf rootWithFragment [.get "d" "k", .delete "e" "k"]) := by
  have hname : ∀ url : Url, url.path = .segments ["d"] → AtDatabase [] "d" url :=
    fun url h => .inl ⟨["d"], h, by decide +kernel⟩
  have hslash : ∀ url : Url, url.path = .segments ["d", ""] → AtDatabase [] "d" url :=
    fun url h => .inr ⟨["d", ""], h, by decide +kernel⟩
  have hroot : ∀ url : Url, url.path = .segments [""] → AtDatabase [] "" url :=
    fun url h => .inl ⟨[""], h, by decide +kernel⟩
  refine ⟨?_, ?_, ?_, ?_, ?_, ?_⟩
  · exact not_disciplined_of_repeated [(.get, .segments ["d", "k"]), (.head, .segments [""])]
      (by decide +kernel) (by decide +kernel) (by decide) hname hname
  · exact not_disciplined_of_repeated [(.get, .segments ["d", "k"]), (.head, .segments [""])]
      (by decide +kernel) (by decide +kernel) (by decide) hname hname
  · exact not_disciplined_of_repeated [] (by decide +kernel) (by decide +kernel) (by simp) hname
      hslash
  · exact not_disciplined_of_repeated [] (by decide +kernel) (by decide +kernel) (by simp) hname
      hslash
  · exact not_disciplined_of_repeated [] (by decide +kernel) (by decide +kernel) (by simp) hroot
      hroot
  · exact not_disciplined_of_repeated [(.get, .segments [""]), (.head, .segments [""])]
      (by decide +kernel) (by decide +kernel) (by decide) hroot hroot

end Keyspace.CouchDb
