import Keyspace.Proofs.Engine.CouchDb.Server

set_option autoImplicit false

namespace Keyspace.CouchDb

open Http (Response Reply Request Url)

structure Shelf where
  holdings : Holdings
  writes : UInt64

namespace Shelf

def empty : Shelf := ⟨SortedMap.empty, 0⟩

def token (writes : UInt64) : String := Nat.repr writes.toNat

def revision (rev : String) : Prop := ∃ writes, rev = token writes

def answer (status : Nat) (body : Json) (s : Shelf) : Reply × Shelf :=
  (.answered ⟨status, none, .json body⟩, s)

def refuse (status : Nat) (reason : String) (s : Shelf) : Reply × Shelf :=
  answer status (.obj [("error", .str reason)]) s

def place? (url : Url) : Option (List String) :=
  match url.path with
  | .segments encoded => encoded.mapM fun s => Text.percentDecode? s.toList
  | .rootless _ => none

def onDatabase (request : Request) (db : String) (s : Shelf) : Reply × Shelf :=
  match request.method, s.holdings.get? db with
  | .head, some _ => answer 200 .null s
  | .put, none =>
    answer 201 (.obj [("ok", .bool true)])
      { s with holdings := s.holdings.insert db SortedMap.empty }
  | .put, some _ => refuse 412 "file_exists" s
  | .head, none => refuse 404 "not_found" s
  | _, _ => refuse 405 "method_not_allowed" s

def onDocument (request : Request) (db id : String) (docs : SortedMap Document) (s : Shelf) :
    Reply × Shelf :=
  match request.method, docs.get? id with
  | .head, some doc | .get, some doc =>
    (.answered ⟨200, (revisionOf doc).map fun rev => "\"" ++ rev ++ "\"", .json doc.toJson⟩, s)
  | .put, current =>
    match request.body with
    | some (.obj members) =>
      let doc := SortedMap.ofList members
      if revisionOf doc = current.bind revisionOf then
        let rev := token s.writes
        answer 201 (.obj [("id", .str id), ("ok", .bool true), ("rev", .str rev)])
          ⟨s.holdings.insert db (docs.insert id (kept doc id rev)), s.writes + 1⟩
      else refuse 409 "conflict" s
    | _ => refuse 400 "bad_request" s
  | .delete, some doc =>
    if revisionOf doc = request.url.query.bind (Text.queryField? "rev") then
      answer 200 (.obj [("ok", .bool true)])
        { s with holdings := s.holdings.insert db (docs.erase id) }
    else refuse 409 "conflict" s
  | .head, none | .get, none | .delete, none => refuse 404 "not_found" s
  | _, _ => refuse 405 "method_not_allowed" s

def texts? : Json → Option (List (String × String))
  | .obj members => members.mapM fun e => e.2.text?.map fun text => (e.1, text)
  | _ => none

def fields? (members : List (String × Json)) : Option (Option (List String)) :=
  match SortedMap.lookup "fields" members with
  | none => some none
  | some names => (names.list? Json.text?).map some

def asked? (docs : SortedMap Document) (members : List (String × Json)) :
    Option (List Document) := do
  let texts ← (SortedMap.lookup "selector" members).bind texts?
  let fields ← fields? members
  let limit ← (SortedMap.lookup "limit" members).bind Json.nat64?
  return queried docs texts fields limit.toNat

def onQuery (request : Request) (docs : SortedMap Document) (s : Shelf) : Reply × Shelf :=
  match request.body with
  | some (.obj members) =>
    match asked? docs members with
    | some found =>
      answer 200 (.obj [("bookmark", .str "nil"), ("docs", .arr (found.map (·.toJson)))]) s
    | none => refuse 400 "bad_request" s
  | _ => refuse 400 "bad_request" s

def network : Http.Network Shelf where
  exchange request s :=
    match place? request.url with
    | some [db] => onDatabase request db s
    | some [db, name] =>
      match s.holdings.get? db with
      | none => refuse 404 "not_found" s
      | some docs =>
        if name = "_find" then onQuery request docs s
        else if name = "_index" then answer 200 (.obj [("result", .str "created")]) s
        else onDocument request db name docs s
    | _ => refuse 404 "not_found" s
  horizon _ := 1

theorem mapM_eq_some_of_map {α β : Type} {f : α → Option β} {l : List α} {r : List β}
    (h : l.map f = r.map some) : l.mapM f = some r := by
  induction l generalizing r with
  | nil =>
    cases r with
    | nil => rfl
    | cons b r => simp at h
  | cons a l ih =>
    cases r with
    | nil => simp at h
    | cons b r =>
      simp only [List.map_cons, List.cons.injEq] at h
      simp [List.mapM_cons, h.1, ih h.2]

theorem place?_of_names {url : Url} {place : List String} (h : url.Names [] place) :
    place? url.bared = some place := by
  obtain ⟨encoded, hpath, hplace⟩ := h
  rw [place?, Url.path_bared, hpath]
  exact mapM_eq_some_of_map hplace

theorem isDigit_of_mem_token {writes : UInt64} {ch : Char} (h : ch ∈ (token writes).toList) :
    48 ≤ ch.toNat ∧ ch.toNat ≤ 57 := by
  rw [token, Nat.repr_eq_ofList_toDigits, String.toList_ofList] at h
  have hdigit := Nat.isDigit_of_mem_toDigits (by decide) (by decide) h
  simpa [Char.isDigit, UInt32.le_iff_toNat_le] using hdigit

theorem visible_token (writes : UInt64) :
    ∀ ch ∈ (token writes).toList, 0x20 ≤ ch.toNat ∧ ch.toNat ≤ 0x7e ∧ ch ≠ '"' := by
  intro ch hch
  obtain ⟨hlow, hhigh⟩ := isDigit_of_mem_token hch
  refine ⟨by omega, by omega, ?_⟩
  rintro rfl
  exact absurd hlow (by decide)

theorem texts?_of_texts (texts : List (String × String)) :
    texts? (.obj (texts.map fun e => (e.1, .str e.2))) = some texts := by
  rw [texts?]
  refine mapM_eq_some_of_map ?_
  simp [Json.text?]

theorem fields?_of_names {members : List (String × Json)} {fields : Option (List String)}
    (h : SortedMap.lookup "fields" members = fields.map (fun names => .arr (names.map .str))) :
    fields? members = some fields := by
  rw [fields?, h]
  cases fields with
  | none => rfl
  | some names =>
    have hnames : (names.map Json.str).mapM Json.text? = some names :=
      mapM_eq_some_of_map (by simp [Json.text?])
    simp [Json.list?, hnames]

theorem asked?_of_lookup {docs : SortedMap Document} {members : List (String × Json)}
    {texts : List (String × String)} {fields : Option (List String)} {limit : UInt64}
    (htexts : SortedMap.lookup "selector" members =
      some (.obj (texts.map fun e => (e.1, .str e.2))))
    (hfields : SortedMap.lookup "fields" members = fields.map (fun names => .arr (names.map .str)))
    (hlimit : SortedMap.lookup "limit" members = some (.num (.natural limit))) :
    asked? docs members = some (queried docs texts fields limit.toNat) := by
  simp [asked?, htexts, texts?_of_texts, fields?_of_names hfields, hlimit, Json.nat64?,
    Json.Number.nat64?]

theorem showsFound_answer (found : List Document) :
    ShowsFound ⟨200, none,
      .json (.obj [("bookmark", .str "nil"), ("docs", .arr (found.map (·.toJson)))])⟩ found := by
  refine ⟨_, _, Response.carries_json .., ⟨by simp, ?_⟩, rfl, ?_, nofun⟩
  · simp [Json.depth]
  · exact List.forall₂_map_left_iff.2 (List.forall₂_same.2 fun doc _ => Json.spells_toJson doc)

theorem reports_answer (id rev : String) :
    Reports ⟨201, none, .json (.obj [("id", .str id), ("ok", .bool true), ("rev", .str rev)])⟩ id
      rev :=
  ⟨_, Response.carries_json .., ⟨by simp, by simp [Json.depth]⟩, rfl, rfl⟩

variable {c : CouchDb Shelf}

theorem exchange_database (hc : c.client.network = network) {method : Http.Method} {url : Url}
    {db : String} (hnames : url.Names [] [db]) (body : Option Json) (s : Shelf) :
    c.client.network.exchange (c.client.request method url body) s =
      onDatabase (c.client.request method url body) db s := by
  have hplace : place? (c.client.request method url body).url = some [db] := place?_of_names hnames
  simp only [hc, network, hplace]

theorem exchange_document (hc : c.client.network = network) {method : Http.Method} {url : Url}
    {db id : String} (hnames : url.Names [] [db, id]) (hid : id ∉ services) {s : Shelf}
    {docs : SortedMap Document} (hdocs : s.holdings.get? db = some docs) (body : Option Json) :
    c.client.network.exchange (c.client.request method url body) s =
      onDocument (c.client.request method url body) db id docs s := by
  have hplace : place? (c.client.request method url body).url = some [db, id] :=
    place?_of_names hnames
  simp only [services, List.mem_cons, List.not_mem_nil, or_false, not_or] at hid
  simp only [hc, network, hplace, hdocs, if_neg hid.2.1, if_neg hid.2.2]

theorem server (hc : c.client.network = network) : Server c [] Shelf.holdings revision where
  visible := by
    rintro rev ⟨writes, rfl⟩
    exact visible_token writes
  head_database url db s hnames _ := by
    rw [Http.Client.Answers, exchange_database hc hnames, onDatabase, Http.Client.request]
    cases hdb : s.holdings.get? db with
    | none => exact ⟨_, _, rfl, rfl, by simp [SortedMap.contains, hdb]⟩
    | some docs => exact ⟨_, _, rfl, rfl, by simp [SortedMap.contains, hdb]⟩
  put_database url db s hnames _ hnone := by
    rw [Http.Client.Answers, exchange_database hc hnames, onDatabase, Http.Client.request, hnone]
    exact ⟨_, _, rfl, rfl, rfl⟩
  head_document url db id docs s hnames _ hid hdocs := by
    rw [Http.Client.Answers, exchange_document hc hnames hid hdocs, onDocument, Http.Client.request]
    cases docs.get? id with
    | none => exact ⟨_, _, rfl, rfl, rfl⟩
    | some doc => exact ⟨_, _, rfl, rfl, rfl, rfl⟩
  get_document url db id docs s hnames _ hid hdocs := by
    rw [Http.Client.Answers, exchange_document hc hnames hid hdocs, onDocument, Http.Client.request]
    cases docs.get? id with
    | none => exact ⟨_, _, rfl, rfl, rfl⟩
    | some doc =>
      exact ⟨_, _, rfl, rfl, rfl, _, Response.carries_json .., Json.spells_toJson doc⟩
  put_document url db id docs members s hnames _ hid hdocs hrev := by
    rw [Http.Client.Answers, exchange_document hc hnames hid hdocs, onDocument, Http.Client.request]
    exact ⟨_, _, if_pos hrev, token s.writes, ⟨s.writes, rfl⟩, rfl, reports_answer .., rfl⟩
  delete_document url db id docs doc rev s hnames hid hdocs hdoc hrev hquery := by
    rw [Http.Client.Answers, exchange_document hc hnames hid hdocs, onDocument,
      Http.Client.request, hdoc]
    refine ⟨_, _, if_pos ?_, rfl, rfl⟩
    rw [Url.query_bared, hrev, hquery]
  find url db docs members texts fields limit s hnames hdocs hselector hfields hlimit := by
    have hplace : place? url.bared = some [db, "_find"] := place?_of_names hnames
    rw [Http.Client.Answers, hc]
    simp only [network, Http.Client.request, hplace, hdocs, if_true, onQuery,
      asked?_of_lookup hselector hfields hlimit]
    exact ⟨_, _, rfl, rfl, rfl, showsFound_answer _⟩
  index url db body s hnames := by
    have hplace : place? url.bared = some [db, "_index"] := place?_of_names hnames
    rw [hc]
    simp only [network, Http.Client.request, hplace]
    cases s.holdings.get? db <;> rfl

def root : Url :=
  ⟨"http", some ⟨none, some (.domain ⟨"localhost"⟩), some 5984⟩, .segments [""], none, none⟩

def connected : CouchDb Shelf := ⟨"http://localhost:5984", root, ⟨network, none⟩⟩

theorem isRoot : connected.root.IsRoot [] := ⟨rfl, rfl, rfl⟩

theorem bared_of_authority {url : Url} (h : url.authority = root.authority) : url.bared = url :=
  Url.bared_of_authority h

theorem takes_of_size {url : Url} (hscheme : url.scheme = root.scheme)
    (hauthority : url.authority = root.authority)
    (hsize : url.text.utf8ByteSize ≤ Url.longest) : connected.client.Takes url :=
  Http.Client.takes_of_size rfl (by simp [Url.isWeb, hscheme, root]) hauthority (by decide) hsize

theorem documentUrl_eq {db id : String} (hdb : db ≠ "." ∧ db ≠ "..") (hid : id ≠ "." ∧ id ≠ "..") :
    connected.documentUrl db id =
      { root with path := .segments [Text.encodeSegment db, Text.encodeSegment id] } :=
  isRoot.within_eq [db, id] (by simpa using ⟨hdb, hid⟩)

theorem bared_documentUrl {db id : String} (hdb : db ≠ "." ∧ db ≠ "..")
    (hid : id ≠ "." ∧ id ≠ "..") :
    (connected.documentUrl db id).bared = connected.documentUrl db id := by
  refine bared_of_authority ?_
  rw [documentUrl_eq hdb hid]

theorem text_documentUrl {db id : String} (hdb : db ≠ "." ∧ db ≠ "..")
    (hid : id ≠ "." ∧ id ≠ "..") :
    (connected.documentUrl db id).text =
      "http://localhost:5984/" ++ Text.encodeSegment db ++ "/" ++ Text.encodeSegment id := by
  have hplace : "http:" ++ ("//" ++ ("localhost" ++ (":" ++ Nat.repr 5984))) ++ "/" =
      "http://localhost:5984/" := by decide +kernel
  rw [documentUrl_eq hdb hid, ← hplace]
  simp [Url.text, root, Http.Authority.text, Http.Host.text, Http.Path.text, String.join,
    String.append_assoc]

theorem utf8ByteSize_token_le (writes : UInt64) : (token writes).utf8ByteSize ≤ 20 := by
  have hlength : (Nat.repr writes.toNat).length ≤ 20 :=
    (Nat.length_repr_le_iff (by decide)).2 (by have := writes.toNat_lt; omega)
  have hascii : ∀ ch ∈ (token writes).toList, ch.toNat < 128 := by
    intro ch hch
    have hhigh := (isDigit_of_mem_token hch).2
    omega
  rw [← String.ofList_toList (s := token writes), Text.utf8ByteSize_of_ascii hascii,
    String.length_toList]
  exact hlength

/-- A document whose id is not very long can be reached, whichever of its revisions is named. -/
theorem reaches_of_size {db id : String} (hdb : db ≠ "." ∧ db ≠ "..") (hid : id ≠ "." ∧ id ≠ "..")
    (hordinary : id ∉ services)
    (hsize : (Text.encodeSegment db).utf8ByteSize + (Text.encodeSegment id).utf8ByteSize ≤ 65000) :
    Reaches connected revision db id := by
  have htext : (connected.documentUrl db id).text.utf8ByteSize ≤ 65100 := by
    have hplace : "http://localhost:5984/".utf8ByteSize = 22 := by decide
    have hslash : "/".utf8ByteSize = 1 := by decide
    rw [text_documentUrl hdb hid]
    simp only [String.utf8ByteSize_append, hplace, hslash]
    omega
  refine ⟨hid, hordinary, takes_of_size ?_ ?_ ?_, ?_⟩
  · rw [documentUrl_eq hdb hid]
  · rw [documentUrl_eq hdb hid]
  · rw [Url.longest]
    omega
  · rintro rev ⟨writes, rfl⟩
    have hfield := Text.utf8ByteSize_encodeField_le (token writes)
    have htoken := utf8ByteSize_token_le writes
    have hrev : (Text.encodeField "rev").utf8ByteSize = 3 := by decide +kernel
    have hmark : "?".utf8ByteSize = 1 := by decide
    have hequals : "=".utf8ByteSize = 1 := by decide
    have hquery : (connected.documentUrl db id).query = none := by rw [documentUrl_eq hdb hid]; rfl
    have hfragment : (connected.documentUrl db id).fragment = none := by
      rw [documentUrl_eq hdb hid]
      rfl
    refine takes_of_size ?_ ?_ ?_
    · rw [Url.withField, documentUrl_eq hdb hid]
    · rw [Url.withField, documentUrl_eq hdb hid]
    · rw [Url.text_withField hquery hfragment, Url.longest]
      simp only [String.utf8ByteSize_append, hrev, hmark, hequals]
      omega

end Shelf

end Keyspace.CouchDb
