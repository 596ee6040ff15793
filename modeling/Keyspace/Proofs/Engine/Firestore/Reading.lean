import Keyspace.Proofs.Engine.Firestore.Server
import Keyspace.Proofs.TypedValue.Reread

set_option autoImplicit false

namespace Keyspace.Firestore

open Http (Response)
open SortedMap (lookup)

/-- A document as it is read from its typed fields, under its id if that has no slash. -/
def ReadAs (d : Document) (e : String × Document) : Prop :=
  ∃ name, d = e.2.restored.insert Document.idField (.str name) ∧ ('/' ∉ e.1.toList → name = e.1)

def ShowsDocument (v : Json) (e : String × Document) : Prop :=
  ShowsResource v (e.1, TypedValue.encodeFields e.2)

theorem eq_map_of_readAs {ds : List Document} {entries : List (String × Document)}
    (h : List.Forall₂ ReadAs ds entries) (hids : ∀ e ∈ entries, '/' ∉ e.1.toList) :
    ds = entries.map fun e => e.2.restored.insert Document.idField (.str e.1) := by
  induction h with
  | nil => rfl
  | @cons d e ds entries hd _ ih =>
    obtain ⟨name, rfl, hname⟩ := hd
    rw [List.map_cons, ← ih fun e he => hids e (List.mem_cons_of_mem _ he),
      hname (hids e List.mem_cons_self)]

theorem takeWhile_reverse_of_slash {id : String} (h : '/' ∉ id.toList) (parent : String) :
    (parent ++ "/" ++ id).toList.reverse.takeWhile (· != '/') = id.toList.reverse := by
  have hall : ∀ c ∈ id.toList.reverse, (c != '/') = true := by
    intro c hc
    rw [bne_iff_ne]
    rintro rfl
    exact h (List.mem_reverse.1 hc)
  have hslash : "/".toList = ['/'] := rfl
  rw [String.toList_append, String.toList_append, hslash, List.append_assoc, List.reverse_append,
    List.reverse_append, List.reverse_singleton, List.append_assoc,
    List.takeWhile_append_of_pos hall]
  simp

section Resources

variable {members : List (String × Json)} {fields : SortedMap Json}

theorem Spells.depth_le_iff (h : Spells members fields) (hflat : Json.FlatBut "fields" members)
    {n : Nat} : (Json.obj members).depth ≤ n + 2 ↔ (Document.toJson fields).depth ≤ n + 1 := by
  rw [hflat.depth_le_iff]
  unfold Spells at h
  cases hv : lookup "fields" members with
  | none =>
    rw [hv] at h
    simp [h, Document.toJson, Json.depth, Json.depthMembers, SortedMap.empty]
  | some v =>
    rw [hv] at h
    simp [h.depth_le_iff]

theorem Spells.ofJson?_reread (h : Spells members fields) (hflat : Json.FlatBut "fields" members)
    {name : String} (hname : lookup "name" members = some (.str name)) {time : Option String}
    (htime : lookup "updateTime" members = time.map .str) :
    Resource.ofJson? (Json.obj members).reread = some ⟨name, Document.reread fields, time⟩ := by
  obtain ⟨m, hread, hmembers⟩ := hflat.exists_reread
  have htimed : Json.optionalPart? (.obj m.entries) "updateTime" 2 Json.text? = some time := by
    rw [Json.optionalPart?, Json.part?, hmembers, htime]
    cases time <;> rfl
  unfold Spells at h
  rw [hread]
  cases hv : lookup "fields" members with
  | none =>
    rw [hv] at h
    subst h
    simp [Resource.ofJson?, Json.isStructure, Json.part?, hmembers, hname, Json.text?, hv, htimed]
    rfl
  | some v =>
    rw [hv] at h
    simp [Resource.ofJson?, Json.isStructure, Json.part?, hmembers, hname, Json.text?, hv, htimed,
      h.reread, Document.toJson]

theorem Shows.resource {id : String} (h : Shows members id fields) :
    ∃ r, Resource.ofJson? (Json.obj members).reread = some r ∧ r.fields = Document.reread fields ∧
      ('/' ∉ id.toList → r.id = id) := by
  obtain ⟨parent, hname⟩ := h.name
  obtain ⟨time, htime⟩ : ∃ time : Option String, lookup "updateTime" members = time.map .str := by
    cases hv : lookup "updateTime" members with
    | none => exact ⟨none, rfl⟩
    | some v =>
      obtain ⟨time, rfl⟩ := h.time v hv
      exact ⟨some time, rfl⟩
  refine ⟨_, h.spells.ofJson?_reread h.flat hname htime, rfl, fun hslash => ?_⟩
  rw [Resource.id, takeWhile_reverse_of_slash hslash, List.reverse_reverse, String.ofList_toList]

theorem Reports.resource {r : Response} (hbody : r.Carries (.obj members))
    (h : Reports members fields) (hdepth : (Document.toJson fields).depth ≤ 126) :
    ∃ res, r.json?.bind Resource.ofJson? = some res := by
  obtain ⟨name, hname⟩ := h.name
  obtain ⟨time, htime⟩ := h.time
  obtain ⟨written, hspells, hfits⟩ : ∃ written, Spells members written ∧
      (Document.toJson written).depth ≤ 126 := by
    rcases h.spells with hnone | hspells
    · exact ⟨SortedMap.empty, by rw [Spells, hnone], by decide⟩
    · exact ⟨fields, hspells, hdepth⟩
  have htimed : lookup "updateTime" members = (some time).map .str := htime
  exact ⟨_, by rw [hbody.json?_of_le ((hspells.depth_le_iff h.flat).2 hfits), Option.bind_some,
    hspells.ofJson?_reread h.flat hname htimed]⟩

end Resources

namespace ShowsDocument

variable {v : Json} {e : String × Document}

theorem depth_le_iff (h : ShowsDocument v e) {n : Nat} :
    v.depth ≤ n + 2 ↔ e.2.typedDepth ≤ n + 1 := by
  obtain ⟨members, rfl, hshows⟩ := h
  exact hshows.spells.depth_le_iff hshows.flat

theorem resource (h : ShowsDocument v e) :
    ∃ r d, Resource.ofJson? v.reread = some r ∧ r.toDocument = .ok d ∧ ReadAs d e := by
  obtain ⟨members, rfl, hshows⟩ := h
  obtain ⟨r, hread, hfields, hid⟩ := hshows.resource
  refine ⟨r, _, hread, ?_, r.id, rfl, hid⟩
  rw [Resource.toDocument, hfields, TypedValue.decodeFields_reread]

end ShowsDocument

theorem resources_of_shows {vs : List Json} {entries : List (String × Document)}
    (h : List.Forall₂ ShowsDocument vs entries) :
    ∃ rs docs, (vs.map Json.reread).mapM Resource.ofJson? = some rs ∧
      rs.mapM Resource.toDocument = .ok docs ∧ List.Forall₂ ReadAs docs entries := by
  induction h with
  | nil => exact ⟨[], [], rfl, rfl, .nil⟩
  | cons hv _ ih =>
    obtain ⟨r, d, hread, hdoc, hd⟩ := hv.resource
    obtain ⟨rs, docs, hreads, hdocs, hall⟩ := ih
    refine ⟨r :: rs, d :: docs, ?_, ?_, .cons hd hall⟩
    · simp [List.mapM_cons, hread, hreads]
    · rw [List.mapM_cons, hdoc, hdocs]
      rfl

theorem items_of_shows {items : List (List (String × Json))} {entries : List (String × Document)}
    (hflat : ∀ item ∈ items, Json.FlatBut "document" item)
    (h : List.Forall₂ ShowsDocument (items.filterMap (lookup "document")) entries) :
    ∃ found docs, ((items.map .obj).map Json.reread).mapM item? = some found ∧
      (found.filterMap fun item => item).mapM Resource.toDocument = .ok docs ∧
      List.Forall₂ ReadAs docs entries := by
  induction items generalizing entries with
  | nil =>
    cases h
    exact ⟨[], [], rfl, rfl, .nil⟩
  | cons item items ih =>
    obtain ⟨m, hread, hmembers⟩ := (hflat item List.mem_cons_self).exists_reread
    have hrest : ∀ item ∈ items, Json.FlatBut "document" item := fun item hitem =>
      hflat item (List.mem_cons_of_mem _ hitem)
    cases hmember : lookup "document" item with
    | none =>
      rw [List.filterMap_cons_none hmember] at h
      obtain ⟨found, docs, hfound, hdocs, hall⟩ := ih hrest h
      have hitem : item? (Json.obj item).reread = some none := by
        simp [hread, item?, Json.isStructure, Json.optionalPart?, Json.part?, hmembers, hmember]
      refine ⟨none :: found, docs, ?_, hdocs, hall⟩
      rw [List.map_cons, List.map_cons, List.mapM_cons, hitem, hfound]
      rfl
    | some v =>
      rw [List.filterMap_cons_some hmember] at h
      obtain ⟨e, entries', hv, htail, rfl⟩ := List.forall₂_cons_left_iff.1 h
      obtain ⟨r, d, hresource, hdoc, hd⟩ := hv.resource
      obtain ⟨found, docs, hfound, hdocs, hall⟩ := ih hrest htail
      have hitem : item? (Json.obj item).reread = some (some r) := by
        obtain ⟨members, rfl, -⟩ := hv
        rw [Json.reread_obj] at hresource
        rw [hread]
        simp [item?, Json.isStructure, Json.optionalPart?, Json.part?, hmembers, hmember,
          Json.reread_obj, hresource]
      refine ⟨some r :: found, d :: docs, ?_, ?_, .cons hd hall⟩
      · rw [List.map_cons, List.map_cons, List.mapM_cons, hitem, hfound]
        rfl
      · have hheld : (some r :: found).filterMap (fun item => item) =
            r :: found.filterMap fun item => item := rfl
        rw [hheld, List.mapM_cons, hdoc, hdocs]
        rfl

theorem ShowsFound.depth_le_iff {items : List (List (String × Json))}
    {entries : List (String × Document)} (hflat : ∀ item ∈ items, Json.FlatBut "document" item)
    (h : List.Forall₂ ShowsDocument (items.filterMap (lookup "document")) entries) {n : Nat} :
    (Json.arr (items.map .obj)).depth ≤ n + 3 + 1 ↔ ∀ e ∈ entries, e.2.typedDepth ≤ n + 1 := by
  have hall := Json.forall₂_depth_le_iff (h.imp fun _ _ hv => hv.depth_le_iff (n := n))
  rw [Json.depth_arr_le_iff, List.forall_mem_map, ← hall, Json.depth_arr_le_iff]
  simp only [List.mem_filterMap, forall_exists_index, and_imp]
  constructor
  · intro hitems v item hitem hv
    exact (hflat item hitem).depth_le_iff.1 (hitems item hitem) v hv
  · intro hvalues item hitem
    exact (hflat item hitem).depth_le_iff.2 fun v hv => hvalues v item hitem hv

def kept : Option (List String) → Option (List String)
  | none | some [] => none
  | some names => some (names.filter (· != Document.idField))

theorem toJson_of_plain {name : String} (h : Plain name) :
    FieldPath.toJson name = fieldJson name := by
  unfold Plain at h
  rw [FieldPath.toJson, FieldPath.ofName, if_pos h, fieldJson]

theorem condition_toJson {e : String × String} (h : Plain e.1) :
    (Condition.ofValue e.1 (.str e.2)).toJson = equalsJson e := by
  rw [Condition.ofValue, Condition.toJson, toJson_of_plain h, equalsJson]
  · rfl
  · simp

theorem allJson?_of_texts {texts : List (String × String)} (h : ∀ e ∈ texts, Plain e.1) :
    Condition.allJson? (texts.map fun e => Condition.ofValue e.1 (.str e.2)) =
      filterJson? texts := by
  match texts, h with
  | [], _ => rfl
  | [e], h =>
    rw [List.map_singleton, Condition.allJson?, condition_toJson (h e List.mem_cons_self),
      filterJson?]
  | e :: f :: rest, h =>
    have hall : ((e :: f :: rest).map fun e => Condition.ofValue e.1 (.str e.2)).map
        Condition.toJson = (e :: f :: rest).map equalsJson := by
      rw [List.map_map]
      exact List.map_congr_left fun e he => condition_toJson (h e he)
    rw [filterJson?, ← hall]
    · rfl
    · simp
    · simp

theorem lookup_optional (name other : String) (v : Option Json) :
    lookup other (v.map fun w => (name, w)).toList =
      if other = name then v else none := by
  cases v <;> simp [lookup]

theorem asks_ofSelector {selector : Selector} {texts : List (String × String)}
    (hselector : selector.entries = texts.map fun e => (e.1, .str e.2))
    (hplain : ∀ e ∈ texts, Plain e.1) (db : String) {fields : Option (List String)}
    (hkept : ∀ names ∈ fields, ∀ name ∈ names, Plain name) (limit : Nat) :
    ∃ members, (StructuredQuery.ofSelector db selector fields limit).toJson =
        .obj [("structuredQuery", .obj members)] ∧
      Asks members db texts (kept fields)
        (UInt64.ofNat (min limit StructuredQuery.maxLimit)) := by
  have hfilter : Condition.allJson? (selector.entries.map fun e => Condition.ofValue e.1 e.2) =
      filterJson? texts := by
    rw [hselector, List.map_map]
    exact allJson?_of_texts hplain
  have hnames : ∀ names ∈ kept fields, ∀ name ∈ names, Plain name := by
    intro names hnames name hname
    rcases fields with _ | _ | ⟨first, rest⟩
    · cases hnames
    · cases hnames
    · cases hnames
      exact hkept _ rfl name (List.mem_filter.1 hname).1
  have hselect : (StructuredQuery.ofSelector db selector fields limit).kept = kept fields := by
    rcases fields with _ | _ | ⟨first, rest⟩ <;> rfl
  have hjson : ((kept fields).map fun names =>
        Json.obj [("fields", .arr (names.map FieldPath.toJson))]) =
      (kept fields).map fun names => .obj [("fields", .arr (names.map fieldJson))] := by
    refine Option.map_congr fun names hmem => ?_
    rw [List.map_congr_left fun name hname => toJson_of_plain (hnames names hmem name hname)]
  refine ⟨_, rfl, rfl, ?_, ?_, rfl, hplain, hnames⟩
  · rw [SortedMap.lookup_append, SortedMap.lookup_append, lookup_optional, lookup_optional,
      ← hfilter]
    simp [lookup, StructuredQuery.ofSelector]
  · rw [SortedMap.lookup_append, SortedMap.lookup_append, lookup_optional, lookup_optional, hselect,
      hjson]
    simp [lookup]

end Keyspace.Firestore
