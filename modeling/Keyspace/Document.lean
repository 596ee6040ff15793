import Keyspace.Json.Access
import Keyspace.StoreError
import Keyspace.Text.CharClass

set_option autoImplicit false

namespace Keyspace

abbrev Document := SortedMap Json

namespace Document

def idField : String := "_id"

/-- The field that holds the token of a document's last write. -/
def revField : String := "_rev"

def toJson (doc : Document) : Json := .obj doc.entries

def field (doc : Document) (name : String) : Json := (doc.get? name).getD .null

def text? (doc : Document) (name : String) : Option String := (doc.get? name).bind Json.text?

/-- Only the given fields, and the id if there is one. A field that is missing comes as null. -/
def project (doc : Document) (fields : List String) : Document :=
  let base : Document := match doc.get? idField with
    | some id => SortedMap.empty.insert idField id
    | none => SortedMap.empty
  fields.foldl (fun (p : Document) name => p.insert name (field doc name)) base

end Document

abbrev Selector := SortedMap Json

namespace Selector

def validate (selector : Selector) : Except StoreError Unit :=
  if selector.keys.any Text.allBlank then
    .error (.invalidSelector "selector contains an empty field name")
  else .ok ()

def accepts (selector : Selector) (doc : Document) : Bool :=
  selector.entries.all fun e => doc.field e.1 == e.2

/-- At most `limit` of the documents that a selector accepts, in their order, each cut down to
`fields`. No fields, or an empty list of them, leaves the documents whole. -/
def select (selector : Selector) (fields : Option (List String)) (limit : Nat)
    (docs : List Document) : List Document :=
  let found := (docs.filter selector.accepts).take limit
  match fields with
  | none | some [] => found
  | some names => found.map fun doc => doc.project names

end Selector

structure Index where
  fields : List String
  name : Option String
  deriving DecidableEq, Repr

namespace Index

def resolvedName (index : Index) : String :=
  index.name.getD ("idx-" ++ "_".intercalate index.fields)

/-- The fields in ascending order: what two indexes have in common when they serve the same
queries. -/
def sortedFields (index : Index) : List String := index.fields.mergeSort

end Index

end Keyspace
