import Keyspace.Tool.DataStore

set_option autoImplicit false

namespace Keyspace.Tool.DataStore

structure Reply where
  success : Bool
  output : Json
  error : Option String
  deriving DecidableEq

def Reply.ok (output : Json) : Reply := ⟨true, output, none⟩

def Reply.failed (error : String) : Reply := ⟨false, .null, some error⟩

def replyOf (r : Result) : Reply := ⟨r.success, r.output, r.error⟩

/-- The values of a user: a map for each namespace. -/
structure PlainMap where
  spaces : SortedMap (SortedMap Json)

namespace PlainMap

def empty : PlainMap := ⟨SortedMap.empty⟩

def space (m : PlainMap) (name : String) : SortedMap Json :=
  (m.spaces.get? name).getD SortedMap.empty

def lookup (m : PlainMap) (name key : String) : Option Json := (m.space name).get? key

def put (m : PlainMap) (name key : String) (value : Json) : PlainMap :=
  ⟨m.spaces.insert name ((m.space name).insert key value)⟩

def remove (m : PlainMap) (name key : String) : PlainMap :=
  ⟨m.spaces.insert name ((m.space name).erase key)⟩

def clear (m : PlainMap) (name : String) : PlainMap := ⟨m.spaces.erase name⟩

def inhabited (m : PlainMap) : List String :=
  (m.spaces.filter fun _ values => !values.entries.isEmpty).keys

def run (m : PlainMap) (name : String) (parameters : Json) : Command → Reply × PlainMap
  | .get =>
    match textArgument parameters "key" with
    | none => (.failed "ERR:Invalid GET Syntax", m)
    | some key =>
      match (m.lookup name key).or (parameters.member? "default") with
      | some value => (.ok (.obj [("key", .str key), ("value", value)]), m)
      | none => (.failed "ERR:NOT_FOUND", m)
  | .set =>
    match textArgument parameters "key", parameters.member? "value" with
    | some key, some value => (.ok (.obj [("status", .str "OK")]), m.put name key value)
    | _, _ => (.failed "ERR:Invalid SET Syntax", m)
  | .delete =>
    match textArgument parameters "key" with
    | none => (.failed "ERR:Invalid DELETE Syntax", m)
    | some key =>
      if (m.lookup name key).isSome then (.ok (.obj [("status", .str "OK")]), m.remove name key)
      else (.failed "ERR:NOT_FOUND", m)
  | .listKeys =>
    let start := (textArgument parameters "prefix").getD ""
    let keys := (m.space name).keys.filter fun key => start.toList.isPrefixOf key.toList
    (.ok (.obj [("keys", .arr (keys.map .str))]), m)
  | .listSpaces => (.ok (.obj [("namespaces", .arr (m.inhabited.map .str))]), m)
  | .getAll => (.ok (.obj [("items", .obj (m.space name).entries)]), m)
  | .getMany =>
    match textsArgument parameters "keys" with
    | none => (.failed "ERR:Invalid GET_MANY Syntax", m)
    | some keys =>
      let items := (m.space name).filter fun key _ => keys.contains key
      (.ok (.obj [("items", .obj items.entries)]), m)
  | .setMany =>
    match mapArgument parameters "items" with
    | none => (.failed "ERR:Invalid SET_MANY Syntax", m)
    | some items =>
      (.ok (.obj [("written", Json.ofCount items.size)]),
        items.entries.foldl (fun m item => m.put name item.1 item.2) m)
  | .clear => (.ok (.obj [("deleted", Json.ofCount (m.space name).size)]), m.clear name)

def spaceFor (parameters : Json) : String :=
  match textArgument parameters "namespace" with
  | some name => if name.isEmpty then defaultSpace else name
  | none => defaultSpace

/-- What a call of the tool answers, and the map after it. -/
def call (m : PlainMap) (tool : String) (parameters : Json) : Except Error Reply × PlainMap :=
  if tool ≠ toolName then (.error (.notFound tool), m)
  else
    match textArgument parameters "command" with
    | none =>
      (.error (.invalidParameters
        "Missing 'command' field. Use e.g. \x7b\"command\": \"get\", \"key\": \"k\"\x7d"), m)
    | some text =>
      match Command.ofName? (Text.lowercase (Text.trim text)) with
      | some command =>
        let (reply, m) := m.run (spaceFor parameters) parameters command
        (.ok reply, m)
      | none => (.ok (.failed "ERR:Unknown Command"), m)

variable {m : PlainMap} {name key : String}

theorem lookup_put (value : Json) (name' key' : String) :
    (m.put name key value).lookup name' key' =
      if name' = name ∧ key' = key then some value else m.lookup name' key' := by
  unfold lookup space put
  rw [SortedMap.get?_insert]
  by_cases hname : name' = name
  · subst hname
    simp [SortedMap.get?_insert, space]
  · simp [hname]

theorem lookup_remove (name' key' : String) :
    (m.remove name key).lookup name' key' =
      if name' = name ∧ key' = key then none else m.lookup name' key' := by
  unfold lookup space remove
  rw [SortedMap.get?_insert]
  by_cases hname : name' = name
  · subst hname
    simp [SortedMap.get?_erase, space]
  · simp [hname]

theorem lookup_clear (name' key' : String) :
    (m.clear name).lookup name' key' = if name' = name then none else m.lookup name' key' := by
  unfold lookup space clear
  rw [SortedMap.get?_erase]
  split <;> rfl

theorem spaceFor_ne_empty (parameters : Json) : spaceFor parameters ≠ "" := by
  unfold spaceFor
  split
  · split
    · decide
    · simp_all
  · decide

end PlainMap

end Keyspace.Tool.DataStore
