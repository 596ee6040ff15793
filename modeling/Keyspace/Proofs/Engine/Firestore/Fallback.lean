import Keyspace.Proofs.Engine.Firestore.Reading
import Keyspace.Proofs.Lockstep

set_option autoImplicit false

namespace Keyspace.Firestore

open Http (Response Fails)

variable {ν : Type} {f : Firestore ν} {db : String} {docs : SortedMap Document} {s : ν}

def typedFields (docs : SortedMap Document) : Holdings := docs.map TypedValue.encodeFields

def documents? (v : Json) : Option (List Document) :=
  (Json.list? item? v).bind fun items =>
    ((items.filterMap fun item => item).mapM Resource.toDocument).toOption

structure ShowsPage (members : List (String × Json)) (entries : List (String × Document))
    (next : Option String) : Prop where
  flat : Json.FlatBut "documents" members
  documents : ∃ items, (SortedMap.lookup "documents" members).getD (.arr []) = .arr items ∧
    List.Forall₂ ShowsDocument items entries
  token : SortedMap.lookup "nextPageToken" members = next.map .str

/-- From a state on, the page with a token and those after it are answered, and show these
documents in order. -/
inductive Pages (f : Firestore ν) (db : String) :
    Nat → Option String → ν → List (String × Document) → Prop where
  | last {token : Option String} {s s' : ν} {r : Response} {members : List (String × Json)}
      {entries : List (String × Document)} (next : Option String)
      (sent : f.send .get (f.pageUrl db token) none s = .ok r s') (success : r.isSuccess = true)
      (body : r.Carries (.obj members)) (shows : ShowsPage members entries next)
      (ends : next = none ∨ next = some "") : Pages f db 1 token s entries
  | more {count : Nat} {token : Option String} {s s' : ν} {r : Response}
      {members : List (String × Json)} {entries rest : List (String × Document)} {next : String}
      (sent : f.send .get (f.pageUrl db token) none s = .ok r s') (success : r.isSuccess = true)
      (body : r.Carries (.obj members)) (shows : ShowsPage members entries (some next))
      (goes : next ≠ "") (pages : Pages f db count (some next) s' rest) :
      Pages f db (count + 1) token s (entries ++ rest)

/-- In this state, a query for texts is answered with what it finds among some documents. -/
def AnswersQuery (f : Firestore ν) (db : String) (docs : SortedMap Document)
    (texts : List (String × String)) (fields : Option (List String)) (limit : Nat) (s : ν) : Prop :=
  ∀ members, Asks members db texts fields (UInt64.ofNat limit) →
    ∃ r s', f.send .post (f.documents.suffixed ":runQuery")
        (some (.obj [("structuredQuery", .obj members)])) s = .ok r s' ∧
      r.isSuccess = true ∧ ShowsFound r (queried (typedFields docs) texts fields limit)

/-- In this state, a query for texts fails in one way or another. A listing after that is answered
with these documents, on as many pages as it takes. -/
def OnlyLists (f : Firestore ν) (db : String) (docs : SortedMap Document)
    (texts : List (String × String)) (fields : Option (List String)) (limit : Nat) (s : ν) : Prop :=
  ∀ members, Asks members db texts fields (UInt64.ofNat limit) →
    ∃ outcome, outcome = f.send .post (f.documents.suffixed ":runQuery")
        (some (.obj [("structuredQuery", .obj members)])) s ∧
      Fails documents? outcome ∧
      ∃ count, Pages f db count none (finalState outcome) docs.entries ∧
        count ≤ f.client.network.horizon (finalState outcome)

theorem send_run {method : Http.Method} {url : Http.Url} {body : Option Json}
    {P : Response → ν → Prop} (htakes : f.client.Takes url)
    (h : f.client.Answers method url body s P) :
    ∃ r s', P r s' ∧ f.send method url body s = .ok (r.arriving method) s' := by
  obtain ⟨r, s', hreply, hP⟩ := h
  exact ⟨r, s', hP, Http.Client.send_run htakes hreply⟩

section Server

variable {base : List String} {holdings : ν → String → Holdings}
  {texts : List (String × String)} {fields : Option (List String)} {limit : Nat}

theorem send_query (hserver : Server f base holdings) (hplace : f.documents.IsPlace base)
    (htakes : f.client.Takes (f.documents.suffixed ":runQuery"))
    (h : holdings s db = typedFields docs) (hlimit : limit < 2 ^ 64)
    {members : List (String × Json)} (hasks : Asks members db texts fields (UInt64.ofNat limit)) :
    ∃ r s', holdings s' = holdings s ∧
      f.send .post (f.documents.suffixed ":runQuery")
        (some (.obj [("structuredQuery", .obj members)])) s = .ok r s' ∧
      r.isSuccess = true ∧ ShowsFound r (queried (typedFields docs) texts fields limit) := by
  have hurl := hplace.suffixed_eq ":runQuery"
  obtain ⟨r, s', ⟨hs, hstatus, hshows⟩, hsend⟩ := send_run htakes
    (hserver.run_query _ db members texts fields _ s (by rw [hurl])
      (by rw [hurl]; exact hplace.query) hasks)
  rw [Response.arriving_eq .post (by decide) (.inl hstatus)] at hsend
  rw [h, UInt64.toNat_ofNat_of_lt' hlimit] at hshows
  exact ⟨r, s', hs, hsend, by simp [Response.isSuccess, hstatus], hshows⟩

theorem answersQuery_of_server (hserver : Server f base holdings)
    (hplace : f.documents.IsPlace base)
    (htakes : f.client.Takes (f.documents.suffixed ":runQuery"))
    (h : holdings s db = typedFields docs) (texts : List (String × String))
    (fields : Option (List String)) (hlimit : limit < 2 ^ 64) :
    AnswersQuery f db docs texts fields limit s := by
  intro members hasks
  obtain ⟨r, s', -, hanswer⟩ := send_query hserver hplace htakes h hlimit hasks
  exact ⟨r, s', hanswer⟩

end Server

def found (docs : SortedMap Document) (texts : List (String × String))
    (fields : Option (List String)) (limit : Nat) : List (String × Document) :=
  let found := (docs.entries.filter fun e => texts.all fun t =>
    e.2.get? t.1 = some (.str t.2)).take limit
  match fields with
  | none => found
  | some names => found.map fun e => (e.1, e.2.filter fun name _ => names.contains name)

theorem mem_found {texts : List (String × String)} {fields : Option (List String)} {limit : Nat}
    {e : String × Document} (h : e ∈ found docs texts fields limit) :
    ∃ whole, docs.get? e.1 = some whole ∧
      e.2 = fields.elim whole fun names => whole.filter fun name _ => names.contains name := by
  have hheld : ∀ {e : String × Document},
      e ∈ (docs.entries.filter fun e => texts.all fun t =>
        e.2.get? t.1 = some (.str t.2)).take limit → docs.get? e.1 = some e.2 := fun hmem =>
    SortedMap.get?_eq_some_iff.2 (List.mem_filter.1 (List.mem_of_mem_take hmem)).1
  cases fields with
  | none => exact ⟨e.2, hheld h, rfl⟩
  | some names =>
    obtain ⟨e, hmem, rfl⟩ := List.mem_map.1 h
    exact ⟨e.2, hheld hmem, rfl⟩

theorem queried_typedFields (docs : SortedMap Document) (texts : List (String × String))
    (fields : Option (List String)) (limit : Nat) :
    queried (typedFields docs) texts fields limit =
      (found docs texts fields limit).map fun e => (e.1, TypedValue.encodeFields e.2) := by
  have htexts : ∀ doc : Document,
      (texts.all fun t => (TypedValue.encodeFields doc).get? t.1 =
        some (.obj [("stringValue", .str t.2)])) =
      texts.all fun t => doc.get? t.1 = some (.str t.2) := by
    intro doc
    refine congrArg (texts.all ·) (funext fun t => ?_)
    exact decide_eq_decide.2 TypedValue.get?_encodeFields_eq_text_iff
  have hfound : ((typedFields docs).entries.filter fun e => texts.all fun t =>
      e.2.get? t.1 = some (.obj [("stringValue", .str t.2)])) =
      (docs.entries.filter fun e => texts.all fun t =>
        e.2.get? t.1 = some (.str t.2)).map fun e => (e.1, TypedValue.encodeFields e.2) := by
    rw [typedFields, SortedMap.map, List.filter_map]
    simp only [Function.comp_def, htexts]
  cases fields with
  | none => simp only [queried, found, hfound, List.map_take]
  | some names =>
    simp only [queried, found, hfound, ← List.map_take, List.map_map]
    refine List.map_congr_left fun e _ => ?_
    simp [TypedValue.encodeFields, SortedMap.filter_map]

def cutTo (fields : Option (List String)) (docs : List Document) : List Document :=
  match fields with
  | none | some [] => docs
  | some names => docs.map fun doc => doc.project names

theorem query_run {selector : Selector} {fields : Option (List String)} {limit : Nat}
    {r : Response} {s' : ν} {entries : List (String × Document)}
    (hsend : f.send .post (f.documents.suffixed ":runQuery")
      (some (StructuredQuery.ofSelector db selector fields limit).toJson) s = .ok r s')
    (hsuccess : r.isSuccess = true)
    (hshows : ShowsFound r (entries.map fun e => (e.1, TypedValue.encodeFields e.2)))
    (hdepth : ∀ e ∈ entries, e.2.typedDepth ≤ 124) :
    ∃ ds, List.Forall₂ ReadAs ds entries ∧
      f.query db selector fields limit s = .ok (cutTo fields ds) s' := by
  obtain ⟨items, hbody, hflat, hitems⟩ := hshows
  rw [List.forall₂_map_right_iff] at hitems
  obtain ⟨held, ds, hread, hdocs, hall⟩ := items_of_shows hflat hitems
  have hlist : r.json?.bind (Json.list? item?) = some held := by
    rw [hbody.json?_of_le ((ShowsFound.depth_le_iff hflat hitems).2 hdepth), Option.bind_some,
      Json.reread_arr, Json.list?, hread]
  refine ⟨ds, hall, ?_⟩
  simp only [query, bind_apply, hsend, hsuccess, Bool.not_true, Bool.false_eq_true, if_false,
    Response.read_of_some hlist, hdocs, Engine.orThrow]
  rcases fields with _ | _ | ⟨name, names⟩ <;> rfl

theorem find_of_answer {P : ν → Prop} {selector : Selector} {texts : List (String × String)}
    (hselector : selector.entries = texts.map fun e => (e.1, .str e.2))
    (hvalid : selector.validate = .ok ()) (hplain : ∀ e ∈ texts, Plain e.1)
    {fields : Option (List String)} (hkept : ∀ names ∈ fields, ∀ name ∈ names, Plain name)
    {limit : Nat} (hlimit : limit ≤ StructuredQuery.maxLimit)
    (hdepth : ∀ e ∈ found docs texts (kept fields) limit, e.2.typedDepth ≤ 124)
    (h : ∀ members, Asks members db texts (kept fields) (UInt64.ofNat limit) →
      ∃ r s', P s' ∧ f.send .post (f.documents.suffixed ":runQuery")
          (some (.obj [("structuredQuery", .obj members)])) s = .ok r s' ∧ r.isSuccess = true ∧
        ShowsFound r (queried (typedFields docs) texts (kept fields) limit)) :
    ∃ ds s', P s' ∧ List.Forall₂ ReadAs ds (found docs texts (kept fields) limit) ∧
      f.find db selector fields limit s = .ok (cutTo fields ds) s' := by
  obtain ⟨members, hquery, hasks⟩ := asks_ofSelector hselector hplain db hkept limit
  rw [Nat.min_eq_left hlimit] at hasks
  obtain ⟨r, s', hs', hsend, hsuccess, hshows⟩ := h members hasks
  rw [← hquery] at hsend
  rw [queried_typedFields] at hshows
  obtain ⟨ds, hall, hrun⟩ := query_run hsend hsuccess hshows hdepth
  refine ⟨ds, s', hs', hall, ?_⟩
  simp [find, Engine.orThrow, hvalid, Engine.fallback, hrun]

theorem find_answered {selector : Selector} {texts : List (String × String)}
    (hselector : selector.entries = texts.map fun e => (e.1, .str e.2))
    (hvalid : selector.validate = .ok ()) (hplain : ∀ e ∈ texts, Plain e.1)
    {fields : Option (List String)} (hkept : ∀ names ∈ fields, ∀ name ∈ names, Plain name)
    {limit : Nat} (hlimit : limit ≤ StructuredQuery.maxLimit)
    (hdepth : ∀ e ∈ found docs texts (kept fields) limit, e.2.typedDepth ≤ 124)
    (h : AnswersQuery f db docs texts (kept fields) limit s) :
    ∃ ds s', List.Forall₂ ReadAs ds (found docs texts (kept fields) limit) ∧
      f.find db selector fields limit s = .ok (cutTo fields ds) s' := by
  obtain ⟨ds, s', -, hfound⟩ := find_of_answer (P := fun _ => True) hselector hvalid hplain hkept
    hlimit hdepth fun members hasks => by
      obtain ⟨r, s', hanswer⟩ := h members hasks
      exact ⟨r, s', trivial, hanswer⟩
  exact ⟨ds, s', hfound⟩

namespace ShowsPage

variable {members : List (String × Json)} {entries : List (String × Document)}
  {next : Option String} {r : Response}

theorem depth_le_iff (h : ShowsPage members entries next) {n : Nat} :
    (Json.obj members).depth ≤ n + 2 + 2 ↔ ∀ e ∈ entries, e.2.typedDepth ≤ n + 1 := by
  obtain ⟨items, hitems, hshown⟩ := h.documents
  have hall := Json.forall₂_depth_le_iff (hshown.imp fun _ _ hv => hv.depth_le_iff (n := n))
  rw [h.flat.depth_le_iff, ← hall]
  cases hv : SortedMap.lookup "documents" members with
  | none =>
    rw [hv] at hitems
    cases hitems
    simp [Json.depth, Json.depthItems]
  | some v =>
    rw [hv, Option.getD_some] at hitems
    simp [hitems]

theorem page (h : ShowsPage members entries next) (hbody : r.Carries (.obj members))
    (hdepth : ∀ e ∈ entries, e.2.typedDepth ≤ 124) :
    ∃ page ds, r.json?.bind Page.ofJson? = some page ∧ page.next = next ∧
      page.resources.mapM Resource.toDocument = .ok ds ∧ List.Forall₂ ReadAs ds entries := by
  obtain ⟨items, hitems, hshown⟩ := h.documents
  obtain ⟨rs, ds, hreads, hdocs, hall⟩ := resources_of_shows hshown
  obtain ⟨m, hread, hmembers⟩ := h.flat.exists_reread
  have hnext : Json.optionalPart? (.obj m.entries) "nextPageToken" 1 Json.text? = some next := by
    rw [Json.optionalPart?, Json.part?, hmembers, h.token]
    cases next <;> rfl
  refine ⟨⟨rs, next⟩, ds, ?_, rfl, hdocs, hall⟩
  rw [hbody.json?_of_le (h.depth_le_iff.2 hdepth), Option.bind_some, hread]
  cases hv : SortedMap.lookup "documents" members with
  | none =>
    rw [hv] at hitems
    cases hitems
    cases hreads
    simp [Page.ofJson?, Json.isStructure, Json.part?, hmembers, hv, hnext]
  | some v =>
    rw [hv, Option.getD_some] at hitems
    subst hitems
    simp [Page.ofJson?, Json.isStructure, Json.part?, hmembers, hv, hnext, Json.reread_arr,
      Json.list?, hreads]

theorem unread (h : ShowsPage members entries next) (hbody : r.Carries (.obj members))
    (hdeep : ¬ ∀ e ∈ entries, e.2.typedDepth ≤ 124) : r.json?.bind Page.ofJson? = none := by
  rw [hbody.json?_of_not_le fun hdepth => hdeep (h.depth_le_iff.1 hdepth), Option.bind_none]

end ShowsPage

theorem pagesFrom_unread {pages : Nat} {token : Option String} {r : Response} {s' : ν}
    (hsend : f.send .get (f.pageUrl db token) none s = .ok r s') (hsuccess : r.isSuccess = true)
    (hbody : r.json?.bind Page.ofJson? = none) :
    f.pagesFrom db (pages + 1) token s = .error Http.undecodable s' := by
  simp [pagesFrom, hsend, hsuccess, Response.read_of_none hbody]

/-- As many pages as are answered are read, if all documents fit theirs. -/
theorem pagesFrom_run {count : Nat} {token : Option String} {entries : List (String × Document)}
    (h : Pages f db count token s entries) {pages : Nat} (hcount : count ≤ pages) :
    if ∀ e ∈ entries, e.2.typedDepth ≤ 124 then
      ∃ ds s', List.Forall₂ ReadAs ds entries ∧ f.pagesFrom db pages token s = .ok ds s'
    else ∃ s', f.pagesFrom db pages token s = .error Http.undecodable s' := by
  induction h generalizing pages with
  | @last token s s' r members entries next hsent hsuccess hbody hshows hends =>
    obtain ⟨pages, rfl⟩ := Nat.exists_eq_add_of_le' hcount
    split
    · rename_i hdepth
      obtain ⟨page, ds, hread, hnext, hdocs, hall⟩ := hshows.page hbody hdepth
      have htoken : page.nextToken? = none := by
        rw [Page.nextToken?, hnext]
        rcases hends with rfl | rfl <;> rfl
      refine ⟨ds, s', hall, ?_⟩
      simp [pagesFrom, hsent, hsuccess, Response.read_of_some hread, hdocs, Engine.orThrow, htoken]
    · rename_i hdeep
      exact ⟨s', pagesFrom_unread hsent hsuccess (hshows.unread hbody hdeep)⟩
  | @more count token s s' r members entries rest next hsent hsuccess hbody hshows hgoes _ ih =>
    obtain ⟨pages, rfl⟩ := Nat.exists_eq_add_of_le' (Nat.le_of_add_left_le hcount)
    have hrest := ih (Nat.le_of_succ_le_succ hcount)
    -- If this page can be read, the answer depends on the pages behind it alone.
    by_cases hdepth : ∀ e ∈ entries, e.2.typedDepth ≤ 124
    · obtain ⟨page, ds, hread, hnext, hdocs, hall⟩ := hshows.page hbody hdepth
      have htoken : page.nextToken? = some next := by
        rw [Page.nextToken?, hnext]
        simp [Option.filter, hgoes]
      have hboth : (∀ e ∈ entries ++ rest, e.2.typedDepth ≤ 124) ↔
          ∀ e ∈ rest, e.2.typedDepth ≤ 124 := by
        rw [List.forall_mem_append]
        exact and_iff_right hdepth
      simp only [hboth]
      split at hrest
      · rename_i hfits
        obtain ⟨ds', s'', hall', hrun⟩ := hrest
        rw [if_pos hfits]
        refine ⟨ds ++ ds', s'', List.rel_append hall hall', ?_⟩
        simp [pagesFrom, hsent, hsuccess, Response.read_of_some hread, hdocs, Engine.orThrow,
          htoken, hrun]
      · rename_i hdeep
        obtain ⟨s'', hrun⟩ := hrest
        rw [if_neg hdeep]
        refine ⟨s'', ?_⟩
        simp [pagesFrom, hsent, hsuccess, Response.read_of_some hread, hdocs, Engine.orThrow,
          htoken, hrun]
    · rw [if_neg fun hall => hdepth fun e he => hall e (List.mem_append_left _ he)]
      exact ⟨s', pagesFrom_unread hsent hsuccess (hshows.unread hbody hdepth)⟩

theorem query_fails (selector : Selector) (fields : Option (List String)) (limit : Nat)
    (h : Fails documents? (f.send .post (f.documents.suffixed ":runQuery")
      (some (StructuredQuery.ofSelector db selector fields limit).toJson) s)) :
    ∃ e, f.query db selector fields limit s = .error e (finalState (f.send .post
      (f.documents.suffixed ":runQuery")
      (some (StructuredQuery.ofSelector db selector fields limit).toJson) s)) := by
  simp only [query, bind_apply]
  cases hsend : f.send .post (f.documents.suffixed ":runQuery")
    (some (StructuredQuery.ofSelector db selector fields limit).toJson) s with
  | error e s' => exact ⟨e, rfl⟩
  | ok r s' =>
    rw [hsend] at h
    cases hsuccess : r.isSuccess with
    | false => exact ⟨r.toError, by simp [hsuccess, finalState]⟩
    | true =>
      have hunread : r.json?.bind documents? = none := by simpa [Fails, hsuccess] using h
      cases hitems : r.json?.bind (Json.list? item?) with
      | none =>
        refine ⟨Http.undecodable, ?_⟩
        simp [hsuccess, Response.read_of_none hitems, finalState]
      | some items =>
        cases hdocs : (items.filterMap fun item => item).mapM Resource.toDocument with
        | error e =>
          refine ⟨e, ?_⟩
          simp [hsuccess, Response.read_of_some hitems, hdocs, Engine.orThrow, finalState]
        | ok ds =>
          obtain ⟨v, hv, hlist⟩ := Option.bind_eq_some_iff.1 hitems
          rw [hv, Option.bind_some, documents?, hlist, Option.bind_some, hdocs] at hunread
          cases hunread

/-- Where the service lists all documents, each of them has to be read. -/
theorem find_listed {selector : Selector} {texts : List (String × String)}
    (hselector : selector.entries = texts.map fun e => (e.1, .str e.2))
    (hvalid : selector.validate = .ok ()) (hplain : ∀ e ∈ texts, Plain e.1)
    {fields : Option (List String)} (hkept : ∀ names ∈ fields, ∀ name ∈ names, Plain name)
    {limit : Nat} (hlimit : limit ≤ StructuredQuery.maxLimit)
    (h : OnlyLists f db docs texts (kept fields) limit s) :
    if ∀ e ∈ docs.entries, e.2.typedDepth ≤ 124 then
      ∃ ds s', List.Forall₂ ReadAs ds docs.entries ∧
        f.find db selector fields limit s = .ok (selector.select fields limit ds) s'
    else ∃ s', f.find db selector fields limit s = .error Http.undecodable s' := by
  obtain ⟨members, hjson, hasks⟩ := asks_ofSelector hselector hplain db hkept limit
  rw [Nat.min_eq_left hlimit] at hasks
  obtain ⟨_, rfl, hfails, count, hpages, hcount⟩ := h members hasks
  rw [← hjson] at hfails hpages hcount
  obtain ⟨e, hquery⟩ := query_fails selector fields limit hfails
  have hlisting := pagesFrom_run hpages hcount
  split at hlisting
  · rename_i hdepth
    obtain ⟨ds, s', hall, hlist⟩ := hlisting
    rw [if_pos hdepth]
    refine ⟨ds, s', hall, ?_⟩
    simp [find, Engine.orThrow, hvalid, Engine.fallback, hquery, listAll, hlist]
  · rename_i hdeep
    obtain ⟨s', hlist⟩ := hlisting
    rw [if_neg hdeep]
    exact ⟨s', by simp [find, Engine.orThrow, hvalid, Engine.fallback, hquery, listAll, hlist]⟩

end Keyspace.Firestore
