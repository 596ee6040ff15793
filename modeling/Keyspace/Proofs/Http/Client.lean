import Keyspace.Http.Exchange
import Keyspace.Proofs.Json.Members
import Keyspace.Proofs.Text.Percent

set_option autoImplicit false

namespace Keyspace.Http

namespace Path

theorem eq_of_isHere {s : String} (h : isHere (Text.encodeSegment s) = true) : s = "." := by
  have hdecode : Text.percentDecode? (Text.encodeSegment s).toList = some "." := by
    simp only [isHere, Bool.or_eq_true, beq_iff_eq] at h
    rcases h with (h | h) | h
    · rw [h]
      decide +kernel
    · rw [h]
      decide +kernel
    · rw [h]
      decide +kernel
  rw [Text.percentDecode?_segment] at hdecode
  exact Option.some.inj hdecode

theorem eq_of_isAbove {s : String} (h : isAbove (Text.encodeSegment s) = true) : s = ".." := by
  have hdots : ∀ a ∈ [".", "%2e", "%2E"], ∀ b ∈ [".", "%2e", "%2E"],
      Text.percentDecode? (a ++ b).toList = some ".." := by
    decide +kernel
  simp only [isAbove, List.any_eq_true, beq_iff_eq] at h
  obtain ⟨a, ha, b, hb, h⟩ := h
  have hdecode := hdots a ha b hb
  rw [← h, Text.percentDecode?_segment] at hdecode
  exact Option.some.inj hdecode

end Path

namespace Url

/-- The URL as it is sent: credentials go into the header. -/
def bared (url : Url) : Url := if url.login?.isSome then url.withoutCredentials else url

@[simp] theorem path_bared (url : Url) : url.bared.path = url.path := by
  unfold bared withoutCredentials
  split <;> rfl

theorem bared_of_authority {url : Url} {host : Option Host} {port : Option Nat}
    (h : url.authority = some ⟨none, host, port⟩) : url.bared = url := by
  have hlogin : url.login? = none := by simp [login?, h]
  simp [bared, hlogin]

@[simp] theorem query_bared (url : Url) : url.bared.query = url.query := by
  unfold bared withoutCredentials
  split <;> rfl

/-- The URL names a place below some segments: its further ones decode to these texts. -/
def Names (base : List String) (url : Url) (place : List String) : Prop :=
  ∃ encoded, url.path = .segments (base ++ encoded) ∧
    encoded.map (fun s => Text.percentDecode? s.toList) = place.map some

theorem Names.congr {base place : List String} {url other : Url} (h : Names base url place)
    (hpath : other.path = url.path) : Names base other place := by
  obtain ⟨encoded, hencoded, hplace⟩ := h
  exact ⟨encoded, hpath.trans hencoded, hplace⟩

theorem Names.unique {base place place' : List String} {url : Url} (h : Names base url place)
    (h' : Names base url place') : place = place' := by
  obtain ⟨encoded, hencoded, hplace⟩ := h
  obtain ⟨encoded', hencoded', hplace'⟩ := h'
  rw [hencoded, Path.segments.injEq, List.append_cancel_left_eq] at hencoded'
  subst hencoded'
  exact List.map_injective_iff.2 (Option.some_injective _) (hplace.symm.trans hplace')

/-- A root that further segments can be put below: a path of segments, with nothing behind it. -/
structure IsRoot (base : List String) (url : Url) : Prop where
  path : url.path = .segments (base ++ [""])
  query : url.query = none
  fragment : url.fragment = none

theorem path_withField (url : Url) (name value : String) :
    (url.withField name value).path = url.path := rfl

theorem queryField?_withField {url : Url} (h : url.query = none) (name value : String) :
    (url.withField name value).query.bind (Text.queryField? name) = some value := by
  simp only [withField, h, Option.bind_some]
  exact Text.queryField?_single name value

theorem exists_query_withField (url : Url) (name value : String) :
    ∃ before, (url.withField name value).query = some (before ++ Text.field name value) ∧
      (before = "" ∨ ∃ query, before = query ++ "&") := by
  cases hurl : url.query with
  | none => exact ⟨"", by simp only [withField, hurl, Text.field, String.empty_append], .inl rfl⟩
  | some query =>
    simp only [withField, hurl]
    split
    · exact ⟨"", by simp only [Text.field, String.empty_append], .inl rfl⟩
    · exact ⟨query ++ "&", rfl, .inr ⟨query, rfl⟩⟩

theorem lastField?_withField (url : Url) (name other value : String) :
    (url.withField name value).query.bind (Text.lastField? other) =
      if name = other then some value else none := by
  obtain ⟨before, hquery, rfl | ⟨query, rfl⟩⟩ := exists_query_withField url name value
  · rw [hquery, Option.bind_some, String.empty_append, Text.lastField?_field]
  · rw [hquery, Option.bind_some, Text.lastField?_append, Text.lastField?_field]

theorem utf8ByteSize_le_withField (url : Url) (name value : String) :
    (Text.encodeField value).utf8ByteSize ≤ (url.withField name value).bared.text.utf8ByteSize := by
  obtain ⟨before, hquery, -⟩ := exists_query_withField url name value
  simp only [text, query_bared, hquery, Text.field, String.utf8ByteSize_append]
  omega

theorem text_withField {url : Url} (hquery : url.query = none) (hfragment : url.fragment = none)
    (name value : String) :
    (url.withField name value).text =
      url.text ++ "?" ++ (Text.encodeField name ++ "=" ++ Text.encodeField value) := by
  simp [withField, text, hquery, hfragment, String.append_assoc]

variable {base : List String} {root place : Url}

theorem plain_of_not_dots {texts : List String} (h : ∀ s ∈ texts, s ≠ "." ∧ s ≠ "..") :
    ∀ s ∈ texts.map Text.encodeSegment, Path.isHere s = false ∧ Path.isAbove s = false := by
  intro encoded hencoded
  obtain ⟨s, hs, rfl⟩ := List.mem_map.1 hencoded
  exact ⟨Bool.eq_false_iff.2 fun hhere => (h s hs).1 (Path.eq_of_isHere hhere),
    Bool.eq_false_iff.2 fun habove => (h s hs).2 (Path.eq_of_isAbove habove)⟩

theorem IsRoot.query_within (h : IsRoot base root) (segments : List String) :
    (root.within segments).query = none := by
  simp [within, h.fragment, h.query]

theorem IsRoot.fragment_within (h : IsRoot base root) (segments : List String) :
    (root.within segments).fragment = none := by
  simp [within, h.fragment, h.query]

theorem IsRoot.withQuery_within (h : IsRoot base root) (segments : List String) (query : String) :
    (root.within segments).withQuery query = { root.within segments with query := some query } := by
  simp only [withQuery, h.fragment_within, h.query_within]

theorem IsRoot.within_eq (h : IsRoot base root) (texts : List String)
    (htexts : ∀ s ∈ texts, s ≠ "." ∧ s ≠ "..") :
    root.within (texts.map Text.encodeSegment) =
      { root with path := .segments (base ++ texts.map Text.encodeSegment) } := by
  simp [within, h.fragment, h.query, h.path, Path.within,
    Path.addSegments_plain (plain_of_not_dots htexts)]

theorem IsRoot.names_within (h : IsRoot base root) (texts : List String)
    (htexts : ∀ s ∈ texts, s ≠ "." ∧ s ≠ "..") :
    Names base (root.within (texts.map Text.encodeSegment)) texts := by
  rw [h.within_eq texts htexts]
  exact ⟨_, rfl, by simp [Text.percentDecode?_segment]⟩

/-- A place that further segments can be put below: a path of segments, with nothing behind it. -/
structure IsPlace (base : List String) (url : Url) : Prop where
  path : url.path = .segments base
  query : url.query = none
  fragment : url.fragment = none

theorem IsPlace.below_eq (h : IsPlace base place) (texts : List String)
    (htexts : ∀ s ∈ texts, s ≠ "." ∧ s ≠ "..") :
    place.below (texts.map Text.encodeSegment) =
      { place with path := .segments (base ++ texts.map Text.encodeSegment) } := by
  simp [below, h.fragment, h.query, h.path, Path.below,
    Path.addSegments_plain (plain_of_not_dots htexts)]

theorem IsPlace.names_below (h : IsPlace base place) (texts : List String)
    (htexts : ∀ s ∈ texts, s ≠ "." ∧ s ≠ "..") :
    Names base (place.below (texts.map Text.encodeSegment)) texts := by
  rw [h.below_eq texts htexts]
  exact ⟨_, rfl, by simp [Text.percentDecode?_segment]⟩

theorem IsPlace.suffixed_eq (h : IsPlace base place) (suffix : String) :
    place.suffixed suffix = { place with path := (Path.segments base).suffixed suffix } := by
  simp [suffixed, h.fragment, h.query, h.path]

end Url

namespace Client

variable {ν : Type} {c : Client ν} {method : Method} {url : Url} {body : Option Json}

def request (c : Client ν) (method : Method) (url : Url) (body : Option Json) : Request :=
  ⟨method, url.bared,
    (url.login?.map fun (user, password) => basicLogin user (password.getD "")) <|>
      c.authorization, body⟩

def Takes (c : Client ν) (url : Url) : Prop := c.refusal? url.bared = none

theorem send_eq (c : Client ν) (method : Method) (url : Url) (body : Option Json) (s : ν) :
    c.send method url body s = match c.refusal? url.bared with
      | some reason => .error (.transport reason) s
      | none =>
        match c.network.exchange (c.request method url body) s with
        | (.answered r, s) => .ok (r.arriving method) s
        | (.dropped, s) =>
          .error (.transport ("error sending request for url (" ++ url.bared.text ++ ")")) s := by
  have hbared : (if (url.login?.map fun (user, password) =>
      basicLogin user (password.getD "")).isSome then url.withoutCredentials else url) =
        url.bared := by
    rw [Option.isSome_map, Url.bared]
  rw [request, ← hbared]
  rfl

def Answers (c : Client ν) (method : Method) (url : Url) (body : Option Json) (s : ν)
    (P : Response → ν → Prop) : Prop :=
  ∃ r s', c.network.exchange (c.request method url body) s = (.answered r, s') ∧ P r s'

theorem send_run (h : c.Takes url) {r : Response} {s s' : ν}
    (hreply : c.network.exchange (c.request method url body) s = (.answered r, s')) :
    c.send method url body s = .ok (r.arriving method) s' := by
  rw [send_eq, h, hreply]

theorem Takes.congr {ν' : Type} {c' : Client ν'} (h : c.Takes url)
    (hclient : c'.authorization = c.authorization) : c'.Takes url := by
  unfold Takes refusal? at h ⊢
  rw [hclient]
  exact h

theorem refusal?_eq_none_iff : c.refusal? url = none ↔
    ¬ url.host?.isNone = true ∧ ¬ c.authorization.map isHeaderText = some false ∧
      url.isWeb = true ∧ url.fitsRequest = true := by
  rw [← Bool.and_eq_true]
  unfold refusal?
  dsimp only
  split
  · simp_all
  · split
    · simp_all
    · cases url.isWeb && url.fitsRequest <;> simp_all

theorem takes_of_size {name : String} {port : Option Nat} (hclient : c.authorization = none)
    (hweb : url.isWeb = true)
    (hauthority : url.authority = some ⟨none, some (.domain ⟨name⟩), port⟩)
    (hname : name.toList.any "\"\x60\x7b\x7d".toList.contains = false)
    (hsize : url.text.utf8ByteSize ≤ Url.longest) : c.Takes url := by
  have hhost : url.host? = some (.domain ⟨name⟩) := by simp [Url.host?, hauthority]
  have hfits : url.fitsRequest = true := by
    simp only [Url.fitsRequest, hhost, decide_eq_true hsize, Bool.true_and, hname, Bool.not_false]
  rw [Takes, Url.bared_of_authority hauthority]
  exact refusal?_eq_none_iff.2 ⟨by simp [hhost], by simp [hclient], hweb, hfits⟩

theorem refusal?_of_long (h : Url.longest < url.text.utf8ByteSize) : (c.refusal? url).isSome := by
  have hunfit : url.fitsRequest = false := by
    simp [Url.fitsRequest, Nat.not_le.2 h]
  rw [Option.isSome_iff_ne_none]
  intro htakes
  rw [(refusal?_eq_none_iff.1 htakes).2.2.2] at hunfit
  cases hunfit

/-- Of the URLs of one server, a client that takes any of them takes those that are not too long. -/
theorem Takes.refusal?_eq {other : Url} (h : c.Takes url) (hscheme : other.scheme = url.scheme)
    (hauthority : other.authority = url.authority) :
    c.refusal? other.bared = if other.bared.text.utf8ByteSize ≤ Url.longest then none
      else some ("builder error for url (" ++ other.bared.text ++ ")") := by
  have hsame : other.bared.scheme = url.bared.scheme ∧
      other.bared.authority = url.bared.authority := by
    have hlogin : other.login? = url.login? := by rw [Url.login?, Url.login?, hauthority]
    rw [Url.bared, Url.bared, hlogin]
    split <;> simp [Url.withoutCredentials, hscheme, hauthority]
  have hhost : other.bared.host? = url.bared.host? := by rw [Url.host?, Url.host?, hsame.2]
  have hweb : other.bared.isWeb = url.bared.isWeb := by rw [Url.isWeb, Url.isWeb, hsame.1]
  obtain ⟨hnamed, hheader, hfit, hfits⟩ := refusal?_eq_none_iff.1 h
  rw [Url.fitsRequest, Bool.and_eq_true] at hfits
  simp only [refusal?, hhost, if_neg hnamed, if_neg hheader, hweb, hfit, Url.fitsRequest, hfits.2,
    Bool.true_and, Bool.and_true]
  by_cases hsize : other.bared.text.utf8ByteSize ≤ Url.longest <;> simp [hsize]

end Client

/-- A request comes to nothing: it has no answer, or one without success, or one that its reader
cannot read. -/
def Fails {σ α : Type} (read? : Json → Option α) : EStateM.Result StoreError σ Response → Prop
  | .error _ _ => True
  | .ok r _ => r.isSuccess = false ∨ r.json?.bind read? = none

namespace Response

/-- The body is JSON text for the value. -/
def Carries (r : Response) (v : Json) : Prop := ∃ cs, r.body = .chars cs ∧ Json.IsText cs v

theorem carries_json (status : Nat) (etag : Option String) (v : Json) :
    Carries ⟨status, etag, .json v⟩ v :=
  ⟨_, rfl, Json.isText_chars v⟩

/-- Just a value that does not nest too deep is read. -/
theorem Carries.json?_eq {r : Response} {v : Json} (h : r.Carries v) :
    r.json? = if v.depth ≤ Json.maxDepth then some v.reread else none := by
  obtain ⟨cs, hbody, htext⟩ := h
  rw [json?, hbody]
  exact Json.parseChars_of_isText htext

theorem Carries.json?_of_le {r : Response} {v : Json} (h : r.Carries v)
    (hdepth : v.depth ≤ Json.maxDepth) : r.json? = some v.reread := by
  rw [h.json?_eq, if_pos hdepth]

theorem Carries.json?_of_not_le {r : Response} {v : Json} (h : r.Carries v)
    (hdeep : ¬ v.depth ≤ Json.maxDepth) : r.json? = none := by
  rw [h.json?_eq, if_neg hdeep]

theorem Carries.json?_obj {r : Response} {name : String} {members : List (String × Json)}
    (h : r.Carries (.obj members)) (hflat : Json.FlatBut name members)
    (hdepth : ∀ v, SortedMap.lookup name members = some v → v.depth ≤ 126) :
    ∃ m : SortedMap Json, r.json? = some (.obj m.entries) ∧
      ∀ other, SortedMap.lookup other m.entries =
        (SortedMap.lookup other members).map Json.reread := by
  obtain ⟨m, hread, hmembers⟩ := hflat.exists_reread
  exact ⟨m, hread ▸ h.json?_of_le (hflat.depth_le_iff.2 hdepth), hmembers⟩

@[simp] theorem status_arriving (r : Response) (method : Method) :
    (r.arriving method).status = r.status := by
  unfold arriving
  split <;> rfl

@[simp] theorem etag_arriving (r : Response) (method : Method) :
    (r.arriving method).etag = r.etag := by
  unfold arriving
  split <;> rfl

theorem isSuccess_of_isNotFound {r : Response} (h : r.isNotFound = true) : r.isSuccess = false := by
  have hstatus : r.status = 404 := by simpa [isNotFound] using h
  simp [isSuccess, hstatus]

theorem isConflict_of_isNotFound {r : Response} (h : r.isNotFound = true) :
    r.isConflict = false := by
  have hstatus : r.status = 404 := by simpa [isNotFound] using h
  simp [isConflict, hstatus]

theorem isSuccess_of_isConflict {r : Response} (h : r.isConflict = true) : r.isSuccess = false := by
  have hstatus : r.status = 409 := by simpa [isConflict] using h
  simp [isSuccess, hstatus]

theorem isSuccess_arriving (r : Response) (method : Method) :
    (r.arriving method).isSuccess = r.isSuccess := by
  rw [isSuccess, status_arriving, isSuccess]

theorem isNotFound_arriving (r : Response) (method : Method) :
    (r.arriving method).isNotFound = r.isNotFound := by
  rw [isNotFound, status_arriving, isNotFound]

theorem isConflict_arriving (r : Response) (method : Method) :
    (r.arriving method).isConflict = r.isConflict := by
  rw [isConflict, status_arriving, isConflict]

theorem revision?_arriving (r : Response) (method : Method) :
    (r.arriving method).revision? = r.revision? := by
  rw [revision?, etag_arriving, revision?]

theorem arriving_eq {r : Response} (method : Method) (hmethod : method ≠ .head)
    (hstatus : r.status = 200 ∨ r.status = 201) : r.arriving method = r := by
  rw [arriving, if_neg]
  rintro (h | h | h)
  · exact hmethod h
  · omega
  · omega

theorem revision?_quoted {r : Response} {rev : String} (htag : r.etag = some ("\"" ++ rev ++ "\""))
    (hvisible : ∀ c ∈ rev.toList, 0x20 ≤ c.toNat ∧ c.toNat ≤ 0x7e ∧ c ≠ '"') :
    r.revision? = some rev := by
  have hlist : ("\"" ++ rev ++ "\"").toList = '"' :: (rev.toList ++ ['"']) := by
    simp [String.toList_append]
  have hall : ("\"" ++ rev ++ "\"").toList.all (fun c =>
      (0x20 ≤ c.toNat && c.toNat ≤ 0x7e) || c == '\t') = true := by
    rw [hlist, List.all_eq_true]
    intro c hc
    rcases List.mem_cons.1 hc with rfl | hc
    · rfl
    rcases List.mem_append.1 hc with hc | hc
    · have h := hvisible c hc
      simp [h.1, h.2.1]
    · rw [List.mem_singleton.1 hc]
      rfl
  have hquote : ∀ cs : List Char, (∀ c ∈ cs, c ∈ rev.toList) → cs.dropWhile (· == '"') = cs := by
    intro cs hcs
    cases cs with
    | nil => rfl
    | cons c cs =>
      have hc : c ≠ '"' := (hvisible c (hcs c List.mem_cons_self)).2.2
      simp [hc]
  rw [revision?, htag]
  dsimp only
  rw [if_pos hall, hlist, List.dropWhile_cons_of_pos (by decide), List.dropWhile_append,
    hquote rev.toList fun _ h => h]
  split
  · rename_i hempty
    rw [String.toList_eq_nil_iff.1 (List.isEmpty_iff.1 hempty)]
    decide
  · rw [List.reverse_append, List.reverse_singleton, List.singleton_append,
      List.dropWhile_cons_of_pos (by decide), hquote _ fun _ h => List.mem_reverse.1 h,
      List.reverse_reverse, String.ofList_toList]

end Response

namespace Script

variable {c : Client Script} {url : Url}

theorem send_answered (hc : c.network = network) (h : c.Takes url) (method : Method)
    (body : Option Json) (r : Response) (replies : List Reply) (requests : List Request) :
    c.send method url body ⟨true, .answered r :: replies, requests⟩ =
      .ok (r.arriving method) ⟨true, replies, requests ++ [c.request method url body]⟩ :=
  Client.send_run h (by rw [hc]; rfl)

theorem send_dropped (hc : c.network = network) (h : c.Takes url) (method : Method)
    (body : Option Json) (replies : List Reply) (requests : List Request) :
    c.send method url body ⟨true, .dropped :: replies, requests⟩ =
      .error (.transport ("error sending request for url (" ++ url.bared.text ++ ")"))
        ⟨true, replies, requests ++ [c.request method url body]⟩ := by
  have hreply : c.network.exchange (c.request method url body)
      ⟨true, .dropped :: replies, requests⟩ =
        (.dropped, ⟨true, replies, requests ++ [c.request method url body]⟩) := by
    rw [hc]
    rfl
  rw [Client.send_eq, h, hreply]

end Script

end Keyspace.Http
