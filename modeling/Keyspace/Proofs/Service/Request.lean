import Keyspace.Proofs.Lockstep
import Keyspace.Service

set_option autoImplicit false

namespace Keyspace.Service

variable {σ τ : Type}

/-- The operations of the data store, with all that they are given but the user and the time. -/
inductive Operation where
  | get (space key : String) (agent : Option String)
  | set (space key : String) (value : Json) (agent : Option String) (metadata : Option Document)
  | delete (space key : String)
  | listKeys (space : String) (keyPrefix : Option String)
  | listSpaces
  | getAll (space : String) (agent : Option String)
  | getMany (space : String) (keys : List String) (agent : Option String)
  | setMany (items : List BatchItem) (agent : Option String)
  | clear (space : String)

def readCost (agent : Option String) : Nat := if agent.isSome then 1 else 0

def Operation.taggedReads : Operation → Nat
  | .get _ _ agent | .getAll _ agent => readCost agent
  | .getMany _ keys agent => keys.length * readCost agent
  | .set .. | .delete .. | .listKeys .. | .listSpaces | .setMany .. | .clear _ => 0

def Operation.listsWhole : Operation → Bool
  | .getAll .. => true
  | .get .. | .set .. | .delete .. | .listKeys .. | .listSpaces | .getMany .. | .setMany ..
  | .clear _ => false

def Operation.Writes (kind : Json → Prop) : Operation → Prop
  | .set _ _ value _ metadata => kind value ∧ ∀ m ∈ metadata, kind m.toJson
  | .setMany items _ => ∀ item ∈ items, kind item.value ∧ ∀ m ∈ item.metadata, kind m.toJson
  | .get .. | .delete .. | .listKeys .. | .listSpaces | .getAll .. | .getMany .. | .clear _ => True

theorem Operation.Writes.imp {kind kind' : Json → Prop} {o : Operation} (h : o.Writes kind)
    (hkind : ∀ v, kind v → kind' v) : o.Writes kind' := by
  cases o with
  | set => exact ⟨hkind _ h.1, fun m hm => hkind _ (h.2 m hm)⟩
  | setMany =>
    exact fun item hitem => ⟨hkind _ (h item hitem).1, fun m hm => hkind _ ((h item hitem).2 m hm)⟩
  | _ => trivial

structure Request where
  user : String
  now : Instant
  operation : Operation

inductive Answer where
  | record (r : Option Record)
  | written (r : Record)
  | deleted (found : Bool)
  | keys (keys : List String)
  | spaces (spaces : List String)
  | values (values : SortedMap Json)
  | count (n : Nat)

def perform (engine : Engine σ) (r : Request) : Run σ Answer :=
  match r.operation with
  | .get space key agent => return .record (← get engine r.now r.user space key agent)
  | .set space key value agent metadata =>
    return .written (← set engine r.now r.user space key value agent metadata)
  | .delete space key => return .deleted (← delete engine r.user space key)
  | .listKeys space keyPrefix => return .keys (← listKeys engine r.user space keyPrefix)
  | .listSpaces => return .spaces (← listSpaces engine r.user)
  | .getAll space agent => return .values (← getAll engine r.now r.user space agent)
  | .getMany space keys agent => return .values (← getMany engine r.now r.user space keys agent)
  | .setMany items agent => return .count (← setMany engine r.now r.user items agent)
  | .clear space => return .count (← clear engine r.user space)

def outcome (engine : Engine σ) (r : Request) (s : State σ) :
    Except Failure Answer × State σ :=
  match perform engine r s with
  | .ok a s => (.ok a, s)
  | .error e s => (.error e, s)

theorem state_outcome (engine : Engine σ) (r : Request) (s : State σ) :
    (outcome engine r s).2 = finalState (perform engine r s) := by
  rw [outcome]
  cases perform engine r s <;> rfl

theorem agree_outcome {e : Engine σ} {f : Engine τ} {r : Request}
    {R R' : State σ → State τ → Prop} {Q : Answer → Answer → Prop}
    (h : LockstepTo R R' Q (perform e r) (perform f r)) {s : State σ} {t : State τ} (hst : R s t) :
    Agree Q (outcome e r s).1 (outcome f r t).1 ∧ R' (outcome e r s).2 (outcome f r t).2 := by
  have hstep := h s t hst
  unfold outcome
  generalize perform e r s = x, perform f r t = y at hstep
  cases hstep with
  | ok hq hst' => exact ⟨.ok hq, hst'⟩
  | error hst' => exact ⟨.error, hst'⟩

def transcript (engine : Engine σ) : List Request → State σ → List (Request × Except Failure Answer)
  | [], _ => []
  | r :: rest, s => (r, (outcome engine r s).1) :: transcript engine rest (outcome engine r s).2

theorem map_fst_transcript (engine : Engine σ) (requests : List Request) (s : State σ) :
    (transcript engine requests s).map (·.1) = requests := by
  induction requests generalizing s with
  | nil => rfl
  | cons r rest ih => rw [transcript, List.map_cons, ih]

def after (engine : Engine σ) (requests : List Request) (s : State σ) : State σ :=
  requests.foldl (fun s r => (outcome engine r s).2) s

theorem after_append (engine : Engine σ) (requests : List Request) (r : Request) (s : State σ) :
    after engine (requests ++ [r]) s = (outcome engine r (after engine requests s)).2 :=
  List.foldl_append ..

end Keyspace.Service
