import Keyspace.Http.Url.Basic
import Keyspace.Json.Access
import Keyspace.Json.Parser
import Keyspace.Json.Printer
import Keyspace.StoreError
import Keyspace.Text.Base64

set_option autoImplicit false

namespace Keyspace.Http

inductive Method where
  | get
  | head
  | post
  | put
  | patch
  | delete
  deriving DecidableEq, Repr

def Method.name : Method → String
  | get => "GET"
  | head => "HEAD"
  | post => "POST"
  | put => "PUT"
  | patch => "PATCH"
  | delete => "DELETE"

structure Request where
  method : Method
  url : Url
  authorization : Option String
  body : Option Json
  deriving DecidableEq

/-- The body of a response: its characters, or none where it breaks off. -/
inductive Body where
  | chars (cs : List Char)
  | cut
  deriving DecidableEq

def Body.text (s : String) : Body := .chars s.toList

def Body.json (v : Json) : Body := .chars v.chars

structure Response where
  status : Nat
  etag : Option String
  body : Body
  deriving DecidableEq

inductive Reply where
  | dropped
  | answered (response : Response)
  deriving DecidableEq

def undecodable : StoreError := .serialization "error decoding response body"

namespace Response

def isSuccess (r : Response) : Bool := 200 ≤ r.status && r.status < 300

def isNotFound (r : Response) : Bool := r.status == 404

def isConflict (r : Response) : Bool := r.status == 409

def text? (r : Response) : Option String :=
  match r.body with
  | .chars ('\ufeff' :: cs) => some (String.ofList cs)
  | .chars cs => some (String.ofList cs)
  | .cut => none

def json? (r : Response) : Option Json :=
  match r.body with
  | .chars cs => Json.parseChars cs
  | .cut => none

def read {σ α : Type} (r : Response) (read? : Json → Option α) : EStateM StoreError σ α :=
  match r.json?.bind read? with
  | some a => pure a
  | none => throw undecodable

theorem read_of_some {σ α : Type} {r : Response} {read? : Json → Option α} {a : α}
    (h : r.json?.bind read? = some a) (s : σ) : r.read read? s = .ok a s := by
  simp only [read, h]
  rfl

theorem read_of_none {σ α : Type} {r : Response} {read? : Json → Option α}
    (h : r.json?.bind read? = none) (s : σ) : r.read read? s = .error undecodable s := by
  simp only [read, h]
  rfl

theorem read_eq_ok_iff {σ α : Type} {r : Response} {read? : Json → Option α} {a : α} {s s' : σ} :
    r.read read? s = .ok a s' ↔ r.json?.bind read? = some a ∧ s' = s := by
  cases h : r.json?.bind read? with
  | none => simp [read_of_none h]
  | some b => simp [read_of_some h, eq_comm]

def toError (r : Response) : StoreError :=
  .backend r.status (r.text?.getD "<unreadable body: error decoding response body>")

/-- The revision that the entity tag names, without its quotes. A tag is text only if it consists
of visible ASCII characters, spaces and tabs. -/
def revision? (r : Response) : Option String :=
  match r.etag with
  | none => none
  | some tag =>
    if tag.toList.all fun c => (0x20 ≤ c.toNat && c.toNat ≤ 0x7e) || c == '\t' then
      let cs := tag.toList.dropWhile (· == '"')
      some (String.ofList (cs.reverse.dropWhile (· == '"')).reverse)
    else none

/-- The response as it arrives: none to a HEAD request has a body, and none of these statuses. -/
def arriving (r : Response) (method : Method) : Response :=
  if method = .head ∨ r.status = 204 ∨ r.status = 304 then { r with body := .text "" } else r

end Response

/-- A network with states in `ν`. -/
structure Network (ν : Type) where
  exchange : Request → ν → Reply × ν
  /-- More pages than this no listing has from a state on. -/
  horizon : ν → Nat

def basicLogin (user password : String) : String :=
  "Basic " ++ Text.Base64.standard.encode (user ++ ":" ++ password)

structure Client (ν : Type) where
  network : Network ν
  authorization : Option String

namespace Client

variable {ν : Type}

def isHeaderText (s : String) : Bool :=
  (Text.utf8 s).all fun b => (32 ≤ b && b ≠ 127) || b = 9

def refusal? (c : Client ν) (url : Url) : Option String :=
  let unfit := "builder error for url (" ++ url.text ++ ")"
  if url.host?.isNone then some unfit
  else if (c.authorization.map isHeaderText) = some false then some "builder error"
  else if !(url.isWeb && url.fitsRequest) then some unfit
  else none

/-- Sends a request. Credentials in the URL go into the header. Without an answer it fails, with
the reason as its detail. -/
def send (c : Client ν) (method : Method) (url : Url) (body : Option Json) :
    EStateM StoreError ν Response := fun s =>
  let login? := url.login?.map fun (user, password) => basicLogin user (password.getD "")
  let url := if login?.isSome then url.withoutCredentials else url
  match c.refusal? url with
  | some reason => .error (.transport reason) s
  | none =>
    match c.network.exchange ⟨method, url, login? <|> c.authorization, body⟩ s with
    | (.answered r, s) => .ok (r.arriving method) s
    | (.dropped, s) => .error (.transport ("error sending request for url (" ++ url.text ++ ")")) s

def connect (c : Client ν) (failure : String) (method : Method) (url? : Option Url)
    (body : Option Json) : EStateM StoreError ν Response := fun s =>
  match url? with
  | none => .error (.transport (failure ++ "builder error")) s
  | some url =>
    match c.send method url body s with
    | .error (.transport reason) s => .error (.transport (failure ++ reason)) s
    | outcome => outcome

end Client

/-- The replies still to come, the requests that were received, and whether any are. -/
structure Script where
  reachable : Bool
  replies : List Reply
  requests : List Request

namespace Script

def unscripted : Response := ⟨500, none, .text "unscripted"⟩

def network : Network Script where
  exchange request s :=
    if s.reachable then
      let requests := s.requests ++ [request]
      match s.replies with
      | [] => (.answered unscripted, { s with requests := requests })
      | reply :: replies => (reply, { s with replies := replies, requests := requests })
    else (.dropped, s)
  horizon s := s.replies.length + 1

end Script

end Keyspace.Http
