import Keyspace.Proofs.Engine.Firestore.Operations
import Keyspace.Proofs.Engine.Firestore.Resources
import Keyspace.Proofs.FieldPath
import Keyspace.Proofs.TypedValue.Equality

set_option autoImplicit false

namespace Keyspace.Firestore

def equalFilter (path : String) (value : Json) : Json :=
  .obj [("fieldFilter", .obj
    [("field", .obj [("fieldPath", .str path)]), ("op", .str "EQUAL"), ("value", value)])]

def nullFilter (path : String) : Json :=
  .obj [("unaryFilter", .obj [("field", .obj [("fieldPath", .str path)]), ("op", .str "IS_NULL")])]

def allFilter (filters : List Json) : Json :=
  .obj [("compositeFilter", .obj [("filters", .arr filters), ("op", .str "AND")])]

/-- A service decides so whether the fields of a document meet a filter. -/
structure Filters (meets : SortedMap Json → Json → Prop) : Prop where
  equal : ∀ {path name : String}, FieldPath.name? path = some name → ∀ fields value,
    meets fields (equalFilter path value) ↔
      ∃ w, fields.get? name = some w ∧ (w == value) = true
  isNull : ∀ {path name : String}, FieldPath.name? path = some name → ∀ fields,
    meets fields (nullFilter path) ↔
      ∃ payload, fields.get? name = some (TypedValue.typed .null payload)
  all : ∀ fields filters, meets fields (allFilter filters) ↔ ∀ x ∈ filters, meets fields x

def filter? (query : Json) : Option Json :=
  (query.member? "structuredQuery").bind fun q => q.member? "where"

def MeetsQuery (meets : SortedMap Json → Json → Prop) (fields : SortedMap Json) (query : Json) :
    Prop :=
  ∀ x ∈ filter? query, meets fields x

theorem filter?_toJson (q : StructuredQuery) :
    filter? q.toJson = Condition.allJson? q.conditions := by
  obtain ⟨collection, conditions, kept, limit⟩ := q
  cases kept <;> cases h : Condition.allJson? conditions <;>
    simp [filter?, StructuredQuery.toJson, Json.member?, SortedMap.lookup, h]

/-- What a condition says of fields. -/
def Holds (fields : SortedMap Json) : Condition → Prop
  | .isNull name => ∃ payload, fields.get? name = some (TypedValue.typed .null payload)
  | .equals name value => ∃ w, fields.get? name = some w ∧ (w == value) = true

section Service

variable {meets : SortedMap Json → Json → Prop} {fields : SortedMap Json}

theorem meets_toJson_iff (hservice : Filters meets) (c : Condition) :
    meets fields c.toJson ↔ Holds fields c := by
  cases c with
  | isNull name => exact hservice.isNull (FieldPath.name?_ofName name) fields
  | equals name value => exact hservice.equal (FieldPath.name?_ofName name) fields value

theorem meetsQuery_iff (hservice : Filters meets) (q : StructuredQuery) :
    MeetsQuery meets fields q.toJson ↔ ∀ c ∈ q.conditions, Holds fields c := by
  rw [MeetsQuery, filter?_toJson]
  match q.conditions with
  | [] => simp [Condition.allJson?]
  | [c] => simp [Condition.allJson?, meets_toJson_iff hservice]
  | c :: d :: rest =>
    have hall : Condition.allJson? (c :: d :: rest) =
        some (allFilter ((c :: d :: rest).map Condition.toJson)) := rfl
    rw [hall]
    simp only [Option.mem_some_iff, forall_eq', hservice.all, List.forall_mem_map,
      meets_toJson_iff hservice]

/-- Where a field is not stored, no query that names it finds the document. -/
theorem not_meetsQuery_of_absent (hservice : Filters meets) {selector : Selector} {name : String}
    (hname : name ∈ selector.keys) (habsent : fields.get? name = none) (db : String)
    (kept : Option (List String)) (limit : Nat) :
    ¬ MeetsQuery meets fields (StructuredQuery.ofSelector db selector kept limit).toJson := by
  rw [meetsQuery_iff hservice]
  intro h
  obtain ⟨e, he, rfl⟩ := List.mem_map.1 hname
  have hholds := h _ (List.mem_map.2 ⟨e, he, rfl⟩)
  generalize e.2 = v at hholds
  cases v <;> simp [Condition.ofValue, Holds, habsent] at hholds

end Service

theorem exists_encode_eq_null_iff {v : Json} :
    (∃ payload, TypedValue.encode v = TypedValue.typed .null payload) ↔ (v == .null) = true := by
  obtain ⟨payload, hencode⟩ := TypedValue.exists_encode_eq v
  simp only [hencode, TypedValue.typed_inj]
  cases v with
  | num n => cases h : n.int64?.isSome <;> simp [TypedValue.kindOf, h, BEq.beq, Json.sameValue]
  | _ => simp [TypedValue.kindOf, BEq.beq, Json.sameValue]

theorem holds_ofValue_iff {doc : Document} (hdoc : Document.Portable doc) {name : String} {v : Json}
    (hv : v.isPortable = true) :
    Holds (TypedValue.encodeFields doc) (Condition.ofValue name v) ↔
      ∃ x, doc.get? name = some x ∧ (x == v) = true := by
  have hequal : ∀ x, doc.get? name = some x →
      (TypedValue.encode x == TypedValue.encode v) = (x == v) := fun x hx =>
    TypedValue.encode_sameValue (hdoc name x hx) hv
  cases hx : doc.get? name with
  | none =>
    cases v <;>
      simp [Holds, Condition.ofValue, TypedValue.encodeFields, hx, SortedMap.get?_map]
  | some x =>
    have hx' := hequal x hx
    cases v with
    | null =>
      simp [Holds, Condition.ofValue, TypedValue.encodeFields, hx, SortedMap.get?_map,
        exists_encode_eq_null_iff]
    | _ =>
      simp [Holds, Condition.ofValue, TypedValue.encodeFields, hx, SortedMap.get?_map, hx']

theorem get?_id_bare (doc : Document) : (bare doc).get? Document.idField = none := by
  simp [bare, SortedMap.get?_erase]

theorem toDocument_of_stored {doc : Document} (hdoc : Document.Portable doc) {res : Resource}
    (hstored : res.fields = TypedValue.encodeFields (bare doc)) :
    res.toDocument = .ok ((bare doc).insert Document.idField (.str res.id)) := by
  have hbare : Document.Portable (bare doc) := (hdoc.erase _).erase _
  rw [Resource.toDocument, hstored, TypedValue.decodeFields_encodeFields, hbare.map_narrowed]

/-- A condition holds of what is stored when it holds of what is read back, and the field is stored.
The id is read back but not stored. -/
theorem holds_iff_read {doc : Document} (hdoc : Document.Portable doc)
    (hid : doc.get? Document.idField = none) (id : String) {name : String} {v : Json}
    (hv : v.isPortable = true) :
    Holds (TypedValue.encodeFields doc) (Condition.ofValue name v) ↔
      (Document.field (doc.insert Document.idField (.str id)) name == v) = true ∧
        ∃ w, (TypedValue.encodeFields doc).get? name = some w := by
  rw [holds_ofValue_iff hdoc hv, Document.field, SortedMap.get?_insert, TypedValue.encodeFields,
    SortedMap.get?_map]
  by_cases hname : name = Document.idField
  · subst hname
    simp [hid]
  · rw [if_neg hname]
    cases doc.get? name <;> simp

/-- The service finds a document by a selector's query exactly when the selector accepts what is
read back of it, and all fields that the selector names are stored. -/
theorem meets_iff_accepts {meets : SortedMap Json → Json → Prop} (hservice : Filters meets)
    (db : String) (fields : Option (List String)) (limit : Nat) {selector : Selector}
    {doc : Document} {res : Resource} (hselector : (Document.toJson selector).FitsSigned)
    (hdoc : doc.toJson.FitsSigned)
    (hstored : outgoing doc = .obj [("fields", .obj res.fields.entries)]) :
    ∃ read, res.toDocument = .ok read ∧
      (MeetsQuery meets res.fields (StructuredQuery.ofSelector db selector fields limit).toJson ↔
        selector.accepts read = true ∧
          ∀ name ∈ selector.keys, ∃ w, res.fields.get? name = some w) := by
  have hportable := Document.Portable.iff_toJson.2 (Json.isPortable_iff_fitsSigned.2 hdoc)
  have hvalues := SortedMap.All.iff_entries.1
    (Document.Portable.iff_toJson.2 (Json.isPortable_iff_fitsSigned.2 hselector))
  have hfields : res.fields = TypedValue.encodeFields (bare doc) := by
    simp only [outgoing, Json.obj.injEq, List.cons.injEq, Prod.mk.injEq, and_true, true_and]
      at hstored
    exact SortedMap.ext hstored.symm
  have hbare : Document.Portable (bare doc) := (hportable.erase _).erase _
  refine ⟨_, toDocument_of_stored hportable hfields, ?_⟩
  rw [meetsQuery_iff hservice, Selector.accepts, List.all_eq_true, SortedMap.keys]
  simp only [StructuredQuery.ofSelector, List.forall_mem_map, hfields]
  rw [← forall₂_and]
  exact forall₂_congr fun e he => holds_iff_read hbare (get?_id_bare doc) res.id (hvalues e he)

inductive Meets (fields : SortedMap Json) : Json → Prop where
  | equal {path name : String} {value w : Json} (named : FieldPath.name? path = some name)
    (stored : fields.get? name = some w) (same : (w == value) = true) :
    Meets fields (equalFilter path value)
  | isNull {path name : String} {payload : Json} (named : FieldPath.name? path = some name)
    (stored : fields.get? name = some (TypedValue.typed .null payload)) :
    Meets fields (nullFilter path)
  | all {filters : List Json} (each : ∀ x ∈ filters, Meets fields x) :
    Meets fields (allFilter filters)

theorem filters_meets : Filters Meets where
  equal {path name} hname fields value := by
    constructor
    · intro h
      generalize hx : equalFilter path value = x at h
      cases h with
      | equal hnamed hstored hsame =>
        simp only [equalFilter, Json.obj.injEq, List.cons.injEq, Prod.mk.injEq, Json.str.injEq,
          true_and, and_true] at hx
        obtain ⟨rfl, rfl⟩ := hx
        cases hname.symm.trans hnamed
        exact ⟨_, hstored, hsame⟩
      | isNull => simp [equalFilter, nullFilter] at hx
      | all => simp [equalFilter, allFilter] at hx
    · rintro ⟨w, hstored, hsame⟩
      exact .equal hname hstored hsame
  isNull {path name} hname fields := by
    constructor
    · intro h
      generalize hx : nullFilter path = x at h
      cases h with
      | equal => simp [equalFilter, nullFilter] at hx
      | isNull hnamed hstored =>
        simp only [nullFilter, Json.obj.injEq, List.cons.injEq, Prod.mk.injEq, Json.str.injEq,
          true_and, and_true] at hx
        subst hx
        cases hname.symm.trans hnamed
        exact ⟨_, hstored⟩
      | all => simp [nullFilter, allFilter] at hx
    · rintro ⟨payload, hstored⟩
      exact .isNull hname hstored
  all fields filters := by
    constructor
    · intro h
      generalize hx : allFilter filters = x at h
      cases h with
      | equal => simp [equalFilter, allFilter] at hx
      | isNull => simp [nullFilter, allFilter] at hx
      | all each =>
        simp only [allFilter, Json.obj.injEq, List.cons.injEq, Prod.mk.injEq, Json.arr.injEq,
          true_and, and_true] at hx
        exact hx ▸ each
    · exact .all

def storedAs (id : String) (doc : Document) : Resource :=
  ⟨"projects/demo/databases/(default)/documents/d/" ++ id, TypedValue.encodeFields (bare doc), none⟩

def sampleDocument : Document := SortedMap.ofList
  [("_rev", .str "r"), ("a b", .arr [.num (.natural 7), .obj []]), ("c", .null), ("x", .bool true)]

def sampleSelector : Selector := SortedMap.ofList
  [("a b", .arr [.num (.natural 7), .obj []]), ("c", .null)]

def queryFor (selector : Selector) : Json :=
  (StructuredQuery.ofSelector "d" selector none 10).toJson

theorem meets_iff_accepts_sample :
    ∃ read, (storedAs "k" sampleDocument).toDocument = .ok read ∧
      sampleSelector.accepts read = true ∧
      MeetsQuery Meets (storedAs "k" sampleDocument).fields (queryFor sampleSelector) := by
  have hselector : (Document.toJson sampleSelector).isPortable = true := by decide +kernel
  have hdoc : sampleDocument.toJson.isPortable = true := by decide +kernel
  have hstored : outgoing sampleDocument =
      .obj [("fields", .obj (storedAs "k" sampleDocument).fields.entries)] := rfl
  obtain ⟨read, hread, hmeets⟩ := meets_iff_accepts filters_meets "d" none 10
    (Json.isPortable_iff_fitsSigned.1 hselector) (Json.isPortable_iff_fitsSigned.1 hdoc) hstored
  have haccepts : ((storedAs "k" sampleDocument).toDocument.toOption.any fun read =>
      sampleSelector.accepts read) = true := by decide +kernel
  have hnames : ∀ name ∈ sampleSelector.keys,
      ((storedAs "k" sampleDocument).fields.get? name).isSome = true := by decide +kernel
  rw [hread] at haccepts
  exact ⟨read, hread, haccepts, hmeets.2
    ⟨haccepts, fun name hname => Option.isSome_iff_exists.1 (hnames name hname)⟩⟩

def absentSelectors : List Selector :=
  [SortedMap.ofList [("a", .null)], SortedMap.ofList [(Document.idField, .str "k")]]

/-- They accept a document without fields, and the service does not find it. -/
theorem not_meets_iff_accepts_absent :
    ∃ read, (storedAs "k" SortedMap.empty).toDocument = .ok read ∧
      ∀ selector ∈ absentSelectors, selector.validate = .ok () ∧ selector.accepts read = true ∧
        ¬ MeetsQuery Meets (storedAs "k" SortedMap.empty).fields (queryFor selector) := by
  refine ⟨SortedMap.empty.insert Document.idField (.str "k"), by decide +kernel, ?_⟩
  rw [absentSelectors, List.forall_mem_cons, List.forall_mem_singleton]
  refine ⟨⟨by decide +kernel, by decide +kernel, ?_⟩, by decide +kernel, by decide +kernel, ?_⟩
  · have hname : "a" ∈ SortedMap.keys (SortedMap.ofList [("a", Json.null)]) := by decide +kernel
    exact not_meetsQuery_of_absent filters_meets hname rfl "d" none 10
  · have hname : Document.idField ∈
        SortedMap.keys (SortedMap.ofList [(Document.idField, Json.str "k")]) := by decide +kernel
    exact not_meetsQuery_of_absent filters_meets hname rfl "d" none 10

end Keyspace.Firestore
