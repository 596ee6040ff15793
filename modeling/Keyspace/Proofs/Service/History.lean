import Keyspace.Proofs.Service.Observed

set_option autoImplicit false

namespace Keyspace.Service

/-- What happens to the record under an id. -/
inductive Event where
  | written (id : String) (agent : Option String)
  | read (id : String) (agent : String)
  | removed (id : String)

namespace Event

def id : Event → String
  | written id _ | read id _ | removed id => id

def isRead : Event → Bool
  | read .. => true
  | written .. | removed _ => false

def isRemoval : Event → Bool
  | removed _ => true
  | written .. | read .. => false

def agent? : Event → Option String
  | written _ agent => agent
  | read _ agent => some agent
  | removed _ => none

end Event

/-- What has happened to the record under an id since it was created. -/
def lifeOf (id : String) (events : List Event) : List Event :=
  events.foldl
    (fun life e => if e.id = id then if e.isRemoval then [] else life ++ [e] else life) []

def readsIn (life : List Event) : Nat := life.countP Event.isRead

def lastAgent (life : List Event) : Option String := (life.filterMap Event.agent?).getLast?

theorem lifeOf_append_other {id : String} {e : Event} (h : e.id ≠ id) (events : List Event) :
    lifeOf id (events ++ [e]) = lifeOf id events := by
  simp [lifeOf, h]

theorem lifeOf_append_self {id : String} {e : Event} (h : e.id = id) (hkept : e.isRemoval = false)
    (events : List Event) : lifeOf id (events ++ [e]) = lifeOf id events ++ [e] := by
  simp [lifeOf, h, hkept]

theorem lifeOf_append_removed (id : String) (events : List Event) :
    lifeOf id (events ++ [.removed id]) = [] := by
  simp [lifeOf, Event.id, Event.isRemoval]

theorem readsIn_append (life : List Event) (e : Event) :
    readsIn (life ++ [e]) = readsIn life + if e.isRead then 1 else 0 := by
  simp [readsIn, List.countP_append, List.countP_singleton]

theorem lastAgent_append (life : List Event) (e : Event) :
    lastAgent (life ++ [e]) = e.agent?.or (lastAgent life) := by
  cases h : e.agent? <;> simp [lastAgent, List.filterMap_append, h]

/-- The reads of documents that are written back one by one, each of them if its write reaches the
memory. -/
def trackedReads (agent : String) : List String → List (Option StoreError) → List Event
  | [], _ => []
  | id :: rest, faults =>
    (if NextWriteReaches faults then [.read id agent] else []) ++
      trackedReads agent rest faults.tail

def eventsAlong {α β : Type} (step : α → Run (Observed Memory) β)
    (events : α → WatchedState → List Event) : List α → WatchedState → List Event
  | [], _ => []
  | a :: rest, s => events a s ++
    match step a s with
    | .ok _ s' => eventsAlong step events rest s'
    | .error _ _ => []

def getEvents (user space key : String) (agent : Option String) (s : WatchedState) : List Event :=
  match agent with
  | none => []
  | some agent =>
    if ((docs (inMemory s)).get? (docId user space key)).isSome then
      trackedReads agent [docId user space key] (fates s)
    else []

def setEvents (now : Instant) (user space key : String) (value : Json) (agent : Option String)
    (metadata : Option Document) (s : WatchedState) : List Event :=
  match set watched now user space key value agent metadata s with
  | .ok _ _ => [.written (docId user space key) agent]
  | .error _ _ => []

def deleteEvents (user space key : String) (s : WatchedState) : List Event :=
  match delete watched user space key s with
  | .ok true _ => [.removed (docId user space key)]
  | _ => []

def returned (user space : String) (s : WatchedState) : List (String × StoredDocument) :=
  ((docs (inMemory s)).entries.filter fun e => (spaceSelector user space).accepts e.2.doc).take
    findLimit

/-- What happens to records in a request. -/
def eventsOf (r : Request) (s : WatchedState) : List Event :=
  match r.operation with
  | .get space key agent => getEvents r.user space key agent s
  | .set space key value agent metadata =>
    setEvents r.now r.user space key value agent metadata s
  | .delete space key => deleteEvents r.user space key s
  | .getAll space (some agent) =>
    trackedReads agent ((returned r.user space s).map (·.1)) (fates s)
  | .getMany space keys agent =>
    eventsAlong (fun key => get watched r.now r.user space key agent)
      (fun key => getEvents r.user space key agent) keys s
  | .setMany items agent =>
    eventsAlong
      (fun item : BatchItem =>
        set watched r.now r.user item.space item.key item.value agent item.metadata)
      (fun item => setEvents r.now r.user item.space item.key item.value agent item.metadata)
      items s
  | .clear space =>
    match listKeys watched r.user space none s with
    | .ok keys s' =>
      eventsAlong (fun key => delete watched r.user space key)
        (fun key => deleteEvents r.user space key) keys s'
    | .error _ _ => []
  | .listKeys .. | .listSpaces | .getAll _ none => []

def history : List Request → WatchedState → List Event
  | [], _ => []
  | r :: rest, s => eventsOf r s ++ history rest (outcome watched r s).2

end Keyspace.Service
