import Keyspace.Proofs.Engine.Firestore.Resources
import Keyspace.Proofs.Engine.Firestore.Shelf

set_option autoImplicit false

namespace Keyspace.Firestore

open Http (Reply Request Response Script Url)

variable {f : Firestore Script} {db : String}

/-- A reply shows a page of documents that can be read, with this token on it. -/
inductive ShowsPaged (docs : List Document) (next : Option String) : Reply → Prop where
  | answered {r : Response} {page : Page} (success : r.isSuccess = true)
    (body : (r.arriving .get).json?.bind Page.ofJson? = some page) (token : page.next = next)
    (readable : List.Forall₂ (ReadFrom none) page.resources docs) :
    ShowsPaged docs next (.answered r)

/-- A reply to a request to a URL shows no page of documents, for a reason that is the error. -/
inductive FailsToShow (url : Url) : StoreError → Reply → Prop where
  | dropped : FailsToShow url
    (.transport ("error sending request for url (" ++ url.bared.text ++ ")")) .dropped
  | unsuccessful {r : Response} (failure : r.isSuccess = false) :
    FailsToShow url (r.arriving .get).toError (.answered r)
  | undecodable {r : Response} (success : r.isSuccess = true)
    (body : (r.arriving .get).json?.bind Page.ofJson? = none) :
    FailsToShow url Http.undecodable (.answered r)
  | unreadable {r : Response} {page : Page} {before after : List Resource} {bad : Resource}
    {docs : List Document} {e : StoreError} (success : r.isSuccess = true)
    (body : (r.arriving .get).json?.bind Page.ofJson? = some page)
    (resources : page.resources = before ++ bad :: after)
    (readable : List.Forall₂ (ReadFrom none) before docs) (fails : bad.toDocument = .error e) :
    FailsToShow url e (.answered r)

theorem mapM_toDocument_eq_error_iff {rs : List Resource} {e : StoreError} :
    rs.mapM Resource.toDocument = .error e ↔ ∃ before bad after docs, rs = before ++ bad :: after ∧
      List.Forall₂ (ReadFrom none) before docs ∧ bad.toDocument = .error e := by
  induction rs with
  | nil => simp [pure, Except.pure]
  | cons res rs ih =>
    rw [List.mapM_cons]
    constructor
    · intro h
      cases hres : res.toDocument with
      | error e' =>
        rw [hres] at h
        cases h
        exact ⟨[], res, rs, [], rfl, .nil, hres⟩
      | ok doc =>
        cases hrest : rs.mapM Resource.toDocument with
        | ok docs =>
          rw [hres, hrest] at h
          cases h
        | error e' =>
          rw [hres, hrest] at h
          cases h
          obtain ⟨before, bad, after, docs, rfl, hread, hbad⟩ := ih.1 hrest
          exact ⟨res :: before, bad, after, doc :: docs, rfl,
            .cons (readFrom_none_iff.2 hres) hread, hbad⟩
    · rintro ⟨before, bad, after, docs, hsplit, hread, hbad⟩
      cases hread with
      | nil =>
        cases hsplit
        rw [hbad]
        rfl
      | cons hdoc hread =>
        cases hsplit
        rw [readFrom_none_iff.1 hdoc, ih.2 ⟨_, bad, after, _, rfl, hread, hbad⟩]
        rfl

/-- A reply either shows a page or fails to. -/
theorem shows_or_fails (url : Url) (reply : Reply) :
    (∃ docs next, ShowsPaged docs next reply) ∨ ∃ e, FailsToShow url e reply := by
  cases reply with
  | dropped => exact .inr ⟨_, .dropped⟩
  | answered r =>
    cases hsuccess : r.isSuccess with
    | false => exact .inr ⟨_, .unsuccessful hsuccess⟩
    | true =>
      cases hbody : (r.arriving .get).json?.bind Page.ofJson? with
      | none => exact .inr ⟨_, .undecodable hsuccess hbody⟩
      | some page =>
        cases hdocs : page.resources.mapM Resource.toDocument with
        | ok docs =>
          exact .inl ⟨docs, page.next, .answered hsuccess hbody rfl
            (mapM_toDocument_eq_ok_iff.1 hdocs)⟩
        | error e =>
          obtain ⟨before, bad, after, docs, hsplit, hread, hbad⟩ :=
            mapM_toDocument_eq_error_iff.1 hdocs
          exact .inr ⟨e, .unreadable hsuccess hbody hsplit hread hbad⟩

def pageRequest (f : Firestore Script) (db : String) (token : Option String) : Request :=
  f.client.request .get (f.pageUrl db token) none

def tokenIn (request : Request) : Option String :=
  request.url.query.bind (Text.lastField? "pageToken")

theorem tokenIn_pageRequest (f : Firestore Script) (db : String) (token : Option String) :
    tokenIn (pageRequest f db token) = token := by
  rw [tokenIn, pageRequest, Http.Client.request, Url.query_bared]
  cases token with
  | none => exact (Url.lastField?_withField ..).trans (if_neg (by decide))
  | some token => exact (Url.lastField?_withField ..).trans (if_pos rfl)

section Steps

variable {token : Option String} {reply : Reply}

theorem pagesFrom_of_shows (hnetwork : f.client.network = Script.network)
    (htakes : f.client.Takes (f.pageUrl db token)) {docs : List Document} {next : Option String}
    (hshows : ShowsPaged docs next reply) (pages : Nat) (rest : List Reply) (log : List Request) :
    f.pagesFrom db (pages + 1) token ⟨true, reply :: rest, log⟩ =
      (match next.filter fun t : String => !t.isEmpty with
        | none => pure docs
        | some next => do return docs ++ (← f.pagesFrom db pages (some next)))
        ⟨true, rest, log ++ [pageRequest f db token]⟩ := by
  cases hshows with
  | @answered r page hsuccess hbody htoken hread =>
    have hsend := Script.send_answered hnetwork htakes .get none r rest log
    have hmap := mapM_toDocument_eq_ok_iff.2 hread
    rw [← Response.isSuccess_arriving r .get] at hsuccess
    cases hgoes : next.filter fun t : String => !t.isEmpty <;>
      simp only [pagesFrom, bind_apply, send, hsend, hsuccess, Response.read_of_some hbody,
        pure_apply, hmap, Page.nextToken?, htoken, hgoes, Engine.orThrow, Bool.not_true,
        Bool.false_eq_true, if_false, pageRequest]

theorem pagesFrom_more (hnetwork : f.client.network = Script.network)
    (htakes : f.client.Takes (f.pageUrl db token)) {docs : List Document} {next : String}
    (hshows : ShowsPaged docs (some next) reply) (hgoes : next ≠ "") (pages : Nat)
    (rest : List Reply) (log : List Request) :
    f.pagesFrom db (pages + 1) token ⟨true, reply :: rest, log⟩ =
      (do return docs ++ (← f.pagesFrom db pages (some next)))
        ⟨true, rest, log ++ [pageRequest f db token]⟩ := by
  have hnext : (some next).filter (fun t => !t.isEmpty) = some next := by simp [hgoes]
  rw [pagesFrom_of_shows hnetwork htakes hshows, hnext]

theorem pagesFrom_last (hnetwork : f.client.network = Script.network)
    (htakes : f.client.Takes (f.pageUrl db token)) {docs : List Document} {next : Option String}
    (hshows : ShowsPaged docs next reply) (hends : next = none ∨ next = some "") (pages : Nat)
    (rest : List Reply) (log : List Request) :
    f.pagesFrom db (pages + 1) token ⟨true, reply :: rest, log⟩ =
      .ok docs ⟨true, rest, log ++ [pageRequest f db token]⟩ := by
  have hnext : next.filter (fun t => !t.isEmpty) = none := by
    rcases hends with rfl | rfl <;> simp
  rw [pagesFrom_of_shows hnetwork htakes hshows, hnext]
  rfl

theorem pagesFrom_fails (hnetwork : f.client.network = Script.network)
    (htakes : f.client.Takes (f.pageUrl db token)) {e : StoreError}
    (hfails : FailsToShow (f.pageUrl db token) e reply) (pages : Nat) (rest : List Reply)
    (log : List Request) :
    f.pagesFrom db (pages + 1) token ⟨true, reply :: rest, log⟩ =
      .error e ⟨true, rest, log ++ [pageRequest f db token]⟩ := by
  cases hfails with
  | dropped =>
    have hsend := Script.send_dropped hnetwork htakes .get none rest log
    simp only [pagesFrom, bind_apply, send, hsend, pageRequest]
  | @unsuccessful r hfailure =>
    have hsend := Script.send_answered hnetwork htakes .get none r rest log
    rw [← Response.isSuccess_arriving r .get] at hfailure
    simp only [pagesFrom, bind_apply, send, hsend, hfailure, Bool.not_false, if_true,
      throw_apply, pageRequest]
  | @undecodable r hsuccess hbody =>
    have hsend := Script.send_answered hnetwork htakes .get none r rest log
    rw [← Response.isSuccess_arriving r .get] at hsuccess
    simp only [pagesFrom, bind_apply, send, hsend, hsuccess, Response.read_of_none hbody,
      Bool.not_true, Bool.false_eq_true, if_false, pageRequest]
  | @unreadable r page before after bad docs e hsuccess hbody hsplit hread hbad =>
    have hsend := Script.send_answered hnetwork htakes .get none r rest log
    have hmap := mapM_toDocument_eq_error_iff.2 ⟨before, bad, after, docs, hsplit, hread, hbad⟩
    rw [← Response.isSuccess_arriving r .get] at hsuccess
    simp only [pagesFrom, bind_apply, send, hsend, hsuccess, Response.read_of_some hbody, hmap,
      Engine.orThrow, throw_apply, Bool.not_true, Bool.false_eq_true, if_false, pageRequest]

theorem pagesFrom_refused {reason : String}
    (hrefused : f.client.refusal? (f.pageUrl db token).bared = some reason) (pages : Nat)
    (s : Script) : f.pagesFrom db (pages + 1) token s = .error (.transport reason) s := by
  have hsend : f.client.send .get (f.pageUrl db token) none s = .error (.transport reason) s := by
    rw [Http.Client.send_eq, hrefused]
  simp only [pagesFrom, bind_apply, send, hsend]

end Steps

def ShowsPages (replies : List Reply) (pages : List (List Document × String)) : Prop :=
  List.Forall₂ (fun reply p => ShowsPaged p.1 (some p.2) reply ∧ p.2 ≠ "") replies pages

/-- The tokens that pages are asked for with, where the first of them is asked for with a token. -/
def asked (token : Option String) : List (List Document × String) → List (Option String)
  | [] => []
  | p :: pages => token :: asked (some p.2) pages

/-- The token that the page after these is asked for with. -/
def tokenAfter (token : Option String) : List (List Document × String) → Option String
  | [] => token
  | p :: pages => tokenAfter (some p.2) pages

theorem asked_append_tokenAfter (token : Option String) (pages : List (List Document × String)) :
    asked token pages ++ [tokenAfter token pages] = token :: pages.map fun p => some p.2 := by
  induction pages generalizing token with
  | nil => rfl
  | cons p pages ih => rw [asked, tokenAfter, List.cons_append, ih, List.map_cons]

theorem asked_concat (token : Option String) (pages : List (List Document × String))
    (p : List Document × String) :
    asked token (pages ++ [p]) = token :: pages.map fun p => some p.2 := by
  induction pages generalizing token with
  | nil => rfl
  | cons q pages ih => rw [List.cons_append, asked, ih, List.map_cons]

theorem tokenAfter_concat (token : Option String) (pages : List (List Document × String))
    (p : List Document × String) : tokenAfter token (pages ++ [p]) = some p.2 := by
  induction pages generalizing token with
  | nil => rfl
  | cons q pages ih => exact ih _

/-- While pages are shown their documents are put together, and what is asked for next has the last
page's token. By induction on the pages. -/
theorem pagesFrom_shown (hnetwork : f.client.network = Script.network) {token : Option String}
    {replies : List Reply} {pages : List (List Document × String)}
    (hshown : ShowsPages replies pages)
    (htakes : ∀ t ∈ asked token pages, f.client.Takes (f.pageUrl db t)) (more : Nat)
    (rest : List Reply) (log : List Request) :
    f.pagesFrom db (replies.length + more) token ⟨true, replies ++ rest, log⟩ =
      (do return pages.flatMap Prod.fst ++ (← f.pagesFrom db more (tokenAfter token pages)))
        ⟨true, rest, log ++ (asked token pages).map (pageRequest f db)⟩ := by
  induction hshown generalizing token log with
  | nil =>
    rw [List.length_nil, Nat.zero_add, List.nil_append, asked, List.map_nil, List.append_nil,
      tokenAfter, List.flatMap_nil]
    simp only [bind_apply, List.nil_append]
    cases f.pagesFrom db more token _ <;> rfl
  | @cons reply p replies pages hp _ ih =>
    rw [asked, List.forall_mem_cons] at htakes
    rw [List.length_cons, Nat.add_right_comm, List.cons_append,
      pagesFrom_more hnetwork htakes.1 hp.1 hp.2]
    simp only [bind_apply]
    rw [ih htakes.2]
    simp only [asked, tokenAfter, List.map_cons, List.flatMap_cons, List.append_assoc, bind_apply,
      List.cons_append, List.nil_append]
    -- The rest of the listing is answered, or fails.
    cases f.pagesFrom db more (tokenAfter (some p.2) pages) _ <;> rfl

def urlSize (f : Firestore Script) (db : String) (token : Option String) : Nat :=
  (f.pageUrl db token).bared.text.utf8ByteSize

section Listing

variable {replies : List Reply} {pages : List (List Document × String)}

theorem refusal?_pageUrl (hfirst : f.client.Takes (f.pageUrl db none)) (token : Option String) :
    f.client.refusal? (f.pageUrl db token).bared =
      if urlSize f db token ≤ Url.longest then none
      else some ("builder error for url (" ++ (f.pageUrl db token).bared.text ++ ")") := by
  cases token <;> exact hfirst.refusal?_eq rfl rfl

theorem takes_of_urlSize (hfirst : f.client.Takes (f.pageUrl db none))
    (hfits : ∀ p ∈ pages, urlSize f db (some p.2) ≤ Url.longest) :
    ∀ t ∈ none :: pages.map fun p => some p.2, f.client.Takes (f.pageUrl db t) := by
  refine List.forall_mem_cons.2 ⟨hfirst, fun t ht => ?_⟩
  obtain ⟨p, hp, rfl⟩ := List.mem_map.1 ht
  rw [Http.Client.Takes, refusal?_pageUrl hfirst, if_pos (hfits p hp)]

theorem listAll_shown (hnetwork : f.client.network = Script.network)
    (hshown : ShowsPages replies pages)
    (htakes : ∀ t ∈ asked none pages, f.client.Takes (f.pageUrl db t)) (rest : List Reply)
    (log : List Request) :
    f.listAll db ⟨true, replies ++ rest, log⟩ =
      (do return pages.flatMap Prod.fst ++
          (← f.pagesFrom db (rest.length + 1) (tokenAfter none pages)))
        ⟨true, rest, log ++ (asked none pages).map (pageRequest f db)⟩ := by
  have hhorizon : f.client.network.horizon ⟨true, replies ++ rest, log⟩ =
      replies.length + (rest.length + 1) := by
    rw [hnetwork]
    simp only [Script.network, List.length_append]
    omega
  rw [← pagesFrom_shown hnetwork hshown htakes, ← hhorizon]
  rfl

end Listing

def pagedShelf : Firestore Script := ⟨Shelf.documents, ⟨Script.network, none⟩⟩

def pageMembers (id next : String) : List (String × Json) :=
  [("documents", .arr [.obj (Shelf.resourceMembers "d" id SortedMap.empty 0)]),
    ("nextPageToken", .str next)]

def pageReply (id next : String) : Reply :=
  .answered ⟨200, none, .json (.obj (pageMembers id next))⟩

def withId (id : String) : Document := SortedMap.empty.insert Document.idField (.str id)

theorem showsPaged_pageReply {id : String} (hid : '/' ∉ id.toList) (next : String) :
    ShowsPaged [withId id] (some next) (pageReply id next) := by
  have hshows : ShowsPage (pageMembers id next) [(id, SortedMap.empty)] (some next) :=
    ⟨⟨by simp [pageMembers], by simp [pageMembers, Json.depth]⟩,
      ⟨_, rfl, .cons ⟨_, rfl, Shelf.shows_resourceMembers ..⟩ .nil⟩, rfl⟩
  have hdepth : Document.typedDepth SortedMap.empty ≤ 124 := by decide
  obtain ⟨page, ds, hpage, hnext, hdocs, hall⟩ :=
    hshows.page (Response.carries_json 200 none _) (by simpa using hdepth)
  obtain rfl : ds = [withId id] := eq_map_of_readAs hall (by simpa using hid)
  exact .answered rfl hpage hnext (mapM_toDocument_eq_ok_iff.1 hdocs)

theorem takes_first : pagedShelf.client.Takes (pagedShelf.pageUrl "d" none) := by
  rw [Http.Client.Takes]
  decide +kernel

def twoRequests (token : String) : List Request :=
  [none, some token].map (pageRequest pagedShelf "d")

def longToken : String := String.ofList (List.replicate (Url.longest + 1) 'a')

theorem longest_lt_longToken : Url.longest < longToken.utf8ByteSize := by
  have hlength := Text.length_le_utf8ByteSize (List.replicate (Url.longest + 1) 'a')
  rw [List.length_replicate] at hlength
  exact hlength

theorem longest_lt_urlSize {token : String} (hlong : Url.longest < token.utf8ByteSize) :
    Url.longest < urlSize pagedShelf "d" (some token) :=
  Nat.lt_of_lt_of_le hlong
    (Nat.le_trans (Text.utf8ByteSize_le_encodeField token) (Url.utf8ByteSize_le_withField ..))

theorem listAll_overlong {token : String} (hlong : Url.longest < token.utf8ByteSize)
    (rest : List Reply) :
    ShowsPages [pageReply "a" token] [([withId "a"], token)] ∧
      pagedShelf.listAll "d" ⟨true, pageReply "a" token :: rest, []⟩ =
        .error (.transport ("builder error for url (" ++
            (pagedShelf.pageUrl "d" (some token)).bared.text ++ ")"))
          ⟨true, rest, [pageRequest pagedShelf "d" none]⟩ := by
  have hshown : ShowsPages [pageReply "a" token] [([withId "a"], token)] := by
    refine .cons ⟨showsPaged_pageReply (by decide +kernel) token, ?_⟩ .nil
    rintro rfl
    exact absurd hlong (by decide)
  have hrefused := refusal?_pageUrl takes_first (some token)
  rw [if_neg (Nat.not_le.2 (longest_lt_urlSize hlong))] at hrefused
  have htakes : ∀ t ∈ asked none [([withId "a"], token)],
      pagedShelf.client.Takes (pagedShelf.pageUrl "d" t) := by
    simpa [asked] using takes_first
  refine ⟨hshown, ?_⟩
  rw [← List.singleton_append, listAll_shown rfl hshown htakes]
  simp only [tokenAfter, bind_apply, pagesFrom_refused hrefused]
  rfl

end Keyspace.Firestore
