import Keyspace.Proofs.Http.Client
import Keyspace.Proofs.Runs

set_option autoImplicit false

namespace Keyspace.Http

variable {ν : Type}

/-- A request with its reply, and the server's state before and after it. -/
structure Exchange (ν : Type) where
  request : Request
  before : ν
  reply : Reply
  after : ν

/-- The state of a server, and what one of its clients has exchanged with it. -/
structure Shared (ν : Type) where
  server : ν
  exchanges : List (Exchange ν)

/-- The network of a client whose server others use as well. Before each of the client's requests
they change the state as `others` says, which may depend on all that the client has exchanged. -/
def Network.shared (n : Network ν) (others : List (Exchange ν) → ν → ν) : Network (Shared ν) where
  exchange request s :=
    let before := others s.exchanges s.server
    let (reply, after) := n.exchange request before
    (reply, ⟨after, s.exchanges ++ [⟨request, before, reply, after⟩]⟩)
  horizon s := n.horizon s.server

def Client.shared (c : Client ν) (others : List (Exchange ν) → ν → ν) : Client (Shared ν) :=
  ⟨c.network.shared others, c.authorization⟩

namespace Exchange

def Of (n : Network ν) (e : Exchange ν) : Prop :=
  n.exchange e.request e.before = (e.reply, e.after)

/-- A client has sent a request, and this is the answer. -/
structure Answers {μ : Type} (c : Client μ) (method : Method) (url : Url) (body : Option Json)
    (r : Response) (e : Exchange ν) : Prop where
  request : e.request = c.request method url body
  reply : e.reply = .answered r

def ReportsMissing (e : Exchange ν) : Prop :=
  ∃ r, e.reply = .answered r ∧ r.isNotFound = true

def IsWrite (e : Exchange ν) : Prop := e.request.method = .put ∧ e.request.body ≠ none

end Exchange

namespace Shared

def record (s : Shared ν) (e : Exchange ν) : Shared ν := ⟨e.after, s.exchanges ++ [e]⟩

variable {n : Network ν} {others : List (Exchange ν) → ν → ν} {c : Client (Shared ν)}

def next (n : Network ν) (others : List (Exchange ν) → ν → ν) (s : Shared ν) (request : Request) :
    Exchange ν :=
  let before := others s.exchanges s.server
  ⟨request, before, (n.exchange request before).1, (n.exchange request before).2⟩

theorem exchange_shared (request : Request) (s : Shared ν) :
    (n.shared others).exchange request s =
      ((s.next n others request).reply, s.record (s.next n others request)) := rfl

/-- What comes of a request: it is refused, and nothing is exchanged; or it is one more exchange,
with an answer or without one. -/
inductive Sent (c : Client (Shared ν)) (n : Network ν) (method : Method) (url : Url)
    (body : Option Json) (s : Shared ν) : EStateM.Result StoreError (Shared ν) Response → Prop where
  | refused {e : StoreError} (plain : e.Plain) (unfit : ¬ c.Takes url) :
    Sent c n method url body s (.error e s)
  | dropped {x : Exchange ν} {e : StoreError} (of : x.Of n)
    (request : x.request = c.request method url body) (reply : x.reply = .dropped)
    (plain : e.Plain) : Sent c n method url body s (.error e (s.record x))
  | answered {x : Exchange ν} {r : Response} (of : x.Of n)
    (answers : x.Answers c method url body r) :
    Sent c n method url body s (.ok (r.arriving method) (s.record x))

theorem sent (hc : c.network = n.shared others) (method : Method) (url : Url) (body : Option Json)
    (s : Shared ν) : Sent c n method url body s (c.send method url body s) := by
  rw [Client.send_eq, hc]
  cases hrefusal : c.refusal? url.bared with
  | some reason => exact .refused ⟨rfl, rfl⟩ (by simp [Client.Takes, hrefusal])
  | none =>
    rw [exchange_shared]
    cases hreply : (s.next n others (c.request method url body)).reply with
    | answered r => exact .answered rfl ⟨rfl, hreply⟩
    | dropped => exact .dropped rfl rfl hreply ⟨rfl, rfl⟩

end Shared

end Keyspace.Http
