import Keyspace.Document
import Keyspace.Json.Read
import Keyspace.Text.Base64
import Keyspace.Time.Reader

/-!
Records: what the data store keeps under a user's key in a namespace, and its form as a document.

Reading is lenient towards documents of other writers: a missing field has a default, a null counts
as missing where the type allows it, and fields that a record does not know are kept as they are.
`Record.ofDocument` reads the known fields in ascending order of their names, so that the first bad
one in that order is the one reported.
-/

set_option autoImplicit false

namespace Keyspace

def defaultSpace : String := "default"

/-- The id of a user's key in a namespace. Only the key is encoded, so that no colon in it can be
taken for a separator; user and namespace stay readable. -/
def docId (user space key : String) : String :=
  user ++ ":" ++ space ++ ":" ++ Text.Base64.urlSafe.encode key

/-- A stored value with what is known about it. `space` is the namespace, and `rev` the token of the
last write where the engine has one. -/
structure Record where
  id : String
  rev : Option String
  user : String
  space : String
  key : String
  value : Json
  metadata : Document
  createdByAgent : Option String
  lastAccessedByAgent : Option String
  accessCount : UInt64
  createdAt : Option Instant
  updatedAt : Option Instant
  lastAccessedAt : Option Instant
  /-- The fields that a record does not know. -/
  extra : Document
  deriving DecidableEq

namespace Record

def userField : String := "userId"

def spaceField : String := "namespace"

def keyField : String := "key"

def valueField : String := "value"

def metadataField : String := "metadata"

def createdByField : String := "createdByAgent"

def lastAccessedByField : String := "lastAccessedByAgent"

def accessCountField : String := "accessCount"

def createdAtField : String := "createdAt"

def updatedAtField : String := "updatedAt"

def lastAccessedAtField : String := "lastAccessedAt"

def knownFields : List String :=
  [Document.idField, Document.revField, accessCountField, createdAtField, createdByField, keyField,
    lastAccessedAtField, lastAccessedByField, metadataField, spaceField, updatedAtField, userField,
    valueField]

def fresh (user space key : String) (value : Json) (metadata : Document) (agent : Option String)
    (now : Instant) : Record where
  id := docId user space key
  rev := none
  user := user
  space := space
  key := key
  value := value
  metadata := metadata
  createdByAgent := agent
  lastAccessedByAgent := agent
  accessCount := 0
  createdAt := some now
  updatedAt := some now
  lastAccessedAt := agent.map fun _ => now
  extra := SortedMap.empty

def valueSize (r : Record) : Nat := r.value.byteSize

def instantJson : Option Instant → Json
  | some t => .str t.text
  | none => .null

/-- The fields of a record that it knows. The write token is left out where there is none. -/
def knownDocument (r : Record) : Document :=
  let doc := SortedMap.ofList
    [(Document.idField, .str r.id),
      (userField, .str r.user),
      (spaceField, .str r.space),
      (keyField, .str r.key),
      (valueField, r.value),
      (metadataField, r.metadata.toJson),
      (createdByField, Json.ofText? r.createdByAgent),
      (lastAccessedByField, Json.ofText? r.lastAccessedByAgent),
      (accessCountField, .num (.natural r.accessCount)),
      (createdAtField, instantJson r.createdAt),
      (updatedAtField, instantJson r.updatedAt),
      (lastAccessedAtField, instantJson r.lastAccessedAt)]
  match r.rev with
  | some rev => doc.insert Document.revField (.str rev)
  | none => doc

def toDocument (r : Record) : Document := r.knownDocument.extend r.extra.entries

def readField {α : Type} (doc : Document) (name : String) (missing : α)
    (read : Json → Except ReadError α) : Except ReadError α :=
  match doc.get? name with
  | none => .ok missing
  | some v => read v

/-- A namespace: null and the empty text stand for the default one. -/
def readSpace (v : Json) : Except ReadError String := do
  match ← v.readOption Json.readText with
  | none => return defaultSpace
  | some s => return if s.isEmpty then defaultSpace else s

def readInstant (v : Json) : Except ReadError (Option Instant) := do
  match ← v.readOption Json.readText with
  | none => return none
  | some s =>
    if s.isEmpty then return none
    else match Instant.ofText? s with
      | some t => return some t
      | none => throw (.invalidTimestamp s)

def ofDocument (doc : Document) : Except ReadError Record := do
  let id ← readField doc Document.idField "" Json.readText
  let rev ← readField doc Document.revField none fun v => v.readOption Json.readText
  let accessCount ← readField doc accessCountField 0 fun v =>
    return (← v.readOption Json.readNat64).getD 0
  let createdAt ← readField doc createdAtField none readInstant
  let createdByAgent ← readField doc createdByField none fun v => v.readOption Json.readText
  let key ← readField doc keyField "" Json.readText
  let lastAccessedAt ← readField doc lastAccessedAtField none readInstant
  let lastAccessedByAgent ← readField doc lastAccessedByField none fun v =>
    v.readOption Json.readText
  let metadata ← readField doc metadataField SortedMap.empty fun v =>
    return (← v.readOption Json.readMap).getD SortedMap.empty
  let space ← readField doc spaceField defaultSpace readSpace
  let updatedAt ← readField doc updatedAtField none readInstant
  let user ← readField doc userField "" Json.readText
  return {
    id, rev, user, space, key, metadata, createdByAgent, lastAccessedByAgent, accessCount,
    createdAt, updatedAt, lastAccessedAt
    value := doc.field valueField
    extra := doc.filter fun name _ => !knownFields.contains name }

/-- The count of reads that a document shows; anything but a natural number counts as none. -/
def readsOf (doc : Document) : UInt64 := ((doc.get? accessCountField).bind Json.nat64?).getD 0

/-- A document after one more read by an agent; none when its counter is at its maximum. -/
def countRead (doc : Document) (agent : String) (now : Instant) : Option Document :=
  let count := readsOf doc
  if count.toNat + 1 < 2 ^ 64 then
    some <| doc.extend
      [(lastAccessedByField, .str agent),
        (lastAccessedAtField, .str now.text),
        (accessCountField, .num (.natural (count + 1)))]
  else none

end Record

end Keyspace
