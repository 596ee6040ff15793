import Keyspace.Proofs.TypedValue.RoundTrip
import Mathlib.Data.List.Forall2

set_option autoImplicit false

namespace Keyspace.TypedValue

theorem typed_inj {kind kind' : Kind} {payload payload' : Json} :
    typed kind payload = typed kind' payload' ↔ kind = kind' ∧ payload = payload' := by
  refine ⟨fun h => ?_, fun ⟨hkind, hpayload⟩ => by rw [hkind, hpayload]⟩
  simp only [typed, Json.obj.injEq, List.cons.injEq, Prod.mk.injEq, and_true] at h
  have htag := congrArg Kind.ofTag? h.1
  rw [Kind.ofTag?_tag, Kind.ofTag?_tag] at htag
  exact ⟨Option.some.inj htag, h.2⟩

theorem integer?_range {payload : Json} {i : Int} (h : integer? payload = some i) :
    -2 ^ 63 ≤ i ∧ i < 2 ^ 63 := by
  cases payload with
  | num n => exact Json.Number.int64?_range h
  | str s => simpa using (Option.filter_eq_some_iff.1 h).2
  | _ => cases h

def items? (payload : Json) : Option (List Json) :=
  match payload.member? "values" with
  | none => some []
  | some v => v.items?

def fields? (payload : Json) : Option (List (String × Json)) :=
  match payload.member? "fields" with
  | none => some []
  | some (.obj fields) => some fields
  | some _ => none

theorem decodeValues_eq (payload : Json) (members : List (String × Json)) :
    decodeValues payload members = match items? (.obj members) with
      | some items => decodeItems items
      | none => .error (.malformed Kind.array.tag payload) := by
  induction members with
  | nil => rfl
  | cons member rest ih =>
    obtain ⟨name, v⟩ := member
    by_cases hname : name = "values"
    · subst hname
      cases v <;> rfl
    · have hother : items? (.obj ((name, v) :: rest)) = items? (.obj rest) := by
        simp [items?, Json.member?, SortedMap.lookup, Ne.symm hname]
      rw [hother, ← ih]
      cases v <;> simp [decodeValues, hname]

theorem decodeArray_eq (payload : Json) :
    decodeArray payload = match items? payload with
      | some items => decodeItems items
      | none => .error (.malformed Kind.array.tag payload) := by
  cases payload with
  | obj members => rw [decodeArray, decodeValues_eq]
  | _ => rfl

theorem decodeFieldsMember_eq (payload : Json) (members : List (String × Json)) :
    decodeFieldsMember payload members = match fields? (.obj members) with
      | some fields => decodeMembers fields
      | none => .error (.malformed Kind.map.tag payload) := by
  induction members with
  | nil => rfl
  | cons member rest ih =>
    obtain ⟨name, v⟩ := member
    by_cases hname : name = "fields"
    · subst hname
      cases v <;> rfl
    · have hother : fields? (.obj ((name, v) :: rest)) = fields? (.obj rest) := by
        simp [fields?, Json.member?, SortedMap.lookup, Ne.symm hname]
      rw [hother, ← ih]
      cases v <;> simp [decodeFieldsMember, hname]

theorem decodeMap_eq (payload : Json) :
    decodeMap payload = match fields? payload with
      | some fields => decodeMembers fields
      | none => .error (.malformed Kind.map.tag payload) := by
  cases payload with
  | obj members => rw [decodeMap, decodeFieldsMember_eq]
  | _ => rfl

abbrev Decodes (w v : Json) : Prop := decode w = .ok v

def DecodesField (e f : String × Json) : Prop := f.1 = e.1 ∧ Decodes e.2 f.2

theorem decodeItems_eq_ok_iff {xs vs : List Json} :
    decodeItems xs = .ok vs ↔ List.Forall₂ Decodes xs vs := by
  induction xs generalizing vs with
  | nil => simp [decodeItems, eq_comm]
  | cons x xs ih =>
    rw [decodeItems, List.forall₂_cons_left_iff]
    simp only [← ih, Decodes]
    cases decode x with
    | error e => simp [bind, Except.bind]
    | ok v => cases decodeItems xs <;> simp [bind, Except.bind, pure, Except.pure, eq_comm]

theorem decodeMembers_eq_ok_iff {ms vs : List (String × Json)} :
    decodeMembers ms = .ok vs ↔ List.Forall₂ DecodesField ms vs := by
  induction ms generalizing vs with
  | nil => simp [decodeMembers, eq_comm]
  | cons m ms ih =>
    obtain ⟨name, x⟩ := m
    rw [decodeMembers, List.forall₂_cons_left_iff]
    simp only [← ih, DecodesField, Decodes]
    cases decode x with
    | error e => simp [bind, Except.bind]
    | ok v =>
      cases decodeMembers ms with
      | error e => simp [bind, Except.bind]
      | ok rest =>
        simp only [bind, Except.bind, pure, Except.pure, Except.ok.injEq, Prod.exists]
        constructor
        · rintro rfl
          exact ⟨name, v, rest, ⟨rfl, rfl⟩, rfl, rfl⟩
        · rintro ⟨name', v', rest', ⟨rfl, rfl⟩, rfl, rfl⟩
          rfl

theorem decodeArray_eq_ok_iff {payload : Json} {vs : List Json} :
    decodeArray payload = .ok vs ↔
      ∃ items, items? payload = some items ∧ List.Forall₂ Decodes items vs := by
  rw [decodeArray_eq]
  cases items? payload with
  | none => simp
  | some items => simp [decodeItems_eq_ok_iff]

theorem decodeMap_eq_ok_iff {payload : Json} {vs : List (String × Json)} :
    decodeMap payload = .ok vs ↔
      ∃ fields, fields? payload = some fields ∧ List.Forall₂ DecodesField fields vs := by
  rw [decodeMap_eq]
  cases fields? payload with
  | none => simp
  | some fields => simp [decodeMembers_eq_ok_iff]

theorem rel_getElem? {xs vs : List Json} (h : List.Forall₂ Decodes xs vs) (i : Nat) :
    Option.Rel Decodes xs[i]? vs[i]? := by
  induction h generalizing i with
  | nil => exact .none
  | cons hx _ ih =>
    cases i with
    | zero => exact .some hx
    | succ i => exact ih i

theorem rel_lookup {ms vs : List (String × Json)} (h : List.Forall₂ DecodesField ms vs)
    (name : String) : Option.Rel Decodes (SortedMap.lookup name ms) (SortedMap.lookup name vs) := by
  induction h with
  | nil => exact .none
  | @cons m f ms vs hm _ ih =>
    obtain ⟨hname, hvalue⟩ := hm
    simp only [SortedMap.lookup, hname]
    split
    · exact .some hvalue
    · exact ih

theorem map_eq_ok_iff {α β ε : Type} {f : α → β} {result : Except ε α} {b : β} :
    result.map f = .ok b ↔ ∃ a, result = .ok a ∧ f a = b := by
  cases result <;> simp [Except.map]

theorem decodeFields_eq_ok_iff {fields : SortedMap Json} {doc : Document} :
    decodeFields fields = .ok doc ↔ List.Forall₂ DecodesField fields.entries doc.entries := by
  have hnames : ∀ {ms vs : List (String × Json)}, List.Forall₂ DecodesField ms vs →
      vs.map (·.1) = ms.map (·.1) := fun h => by
    induction h with
    | nil => rfl
    | cons hm _ ih => rw [List.map_cons, List.map_cons, hm.1, ih]
  rw [decodeFields, map_eq_ok_iff]
  constructor
  · rintro ⟨vs, hvs, rfl⟩
    rw [decodeMembers_eq_ok_iff] at hvs
    have hascending : vs.Pairwise fun a b => a.1 < b.1 := by
      rw [← List.pairwise_map (f := Prod.fst) (R := (· < ·)), hnames hvs, List.pairwise_map]
      exact fields.ascending
    have hofList : SortedMap.ofList vs = ⟨vs, hascending⟩ :=
      SortedMap.ofList_entries ⟨vs, hascending⟩
    rwa [hofList]
  · intro h
    exact ⟨doc.entries, decodeMembers_eq_ok_iff.2 h, SortedMap.ofList_entries doc⟩

theorem exists_forall₂ {α β : Type} {R : α → β → Prop} {l : List α} (h : ∀ a ∈ l, ∃ b, R a b) :
    ∃ bs, List.Forall₂ R l bs := by
  induction l with
  | nil => exact ⟨[], .nil⟩
  | cons a l ih =>
    obtain ⟨⟨b, hb⟩, hrest⟩ := List.forall_mem_cons.1 h
    obtain ⟨bs, hbs⟩ := ih hrest
    exact ⟨b :: bs, .cons hb hbs⟩

/-- What a payload of a kind stands for. -/
inductive StandsFor : Kind → Json → Json → Prop where
  | scalar {kind : Kind} {payload v : Json} (h : scalar? kind payload = some v) :
    StandsFor kind payload v
  | array {payload : Json} {items vs : List Json} (holds : items? payload = some items)
    (all : List.Forall₂ Decodes items vs) : StandsFor .array payload (.arr vs)
  | map {payload : Json} {fields vs : List (String × Json)} (holds : fields? payload = some fields)
    (all : List.Forall₂ DecodesField fields vs) : StandsFor .map payload (.obj vs)

theorem decode_typed_iff {kind : Kind} {payload v : Json} :
    decode (typed kind payload) = .ok v ↔ StandsFor kind payload v := by
  constructor
  · intro h
    rw [typed, decode, Kind.ofTag?_tag] at h
    cases kind with
    | array =>
      obtain ⟨vs, hvs, rfl⟩ := map_eq_ok_iff.1 h
      obtain ⟨items, hitems, hall⟩ := decodeArray_eq_ok_iff.1 hvs
      exact .array hitems hall
    | map =>
      obtain ⟨vs, hvs, rfl⟩ := map_eq_ok_iff.1 h
      obtain ⟨fields, hfields, hall⟩ := decodeMap_eq_ok_iff.1 hvs
      exact .map hfields hall
    | _ =>
      dsimp only at h
      split at h
      · rename_i hscalar
        cases h
        exact .scalar hscalar
      · cases h
  · intro h
    cases h with
    | scalar h => exact decode_scalar h
    | array hitems hall =>
      rw [typed, decode, Kind.ofTag?_tag]
      exact map_eq_ok_iff.2 ⟨_, decodeArray_eq_ok_iff.2 ⟨_, hitems, hall⟩, rfl⟩
    | map hfields hall =>
      rw [typed, decode, Kind.ofTag?_tag]
      exact map_eq_ok_iff.2 ⟨_, decodeMap_eq_ok_iff.2 ⟨_, hfields, hall⟩, rfl⟩

theorem Kind.tag_of_ofTag? {tag : String} {kind : Kind} (h : Kind.ofTag? tag = some kind) :
    kind.tag = tag := by
  simpa using List.find?_some h

theorem exists_typed_of_decode {w v : Json} (h : decode w = .ok v) :
    ∃ kind payload, w = typed kind payload := by
  unfold decode at h
  split at h
  · rename_i tag payload
    cases hkind : Kind.ofTag? tag with
    | none =>
      rw [hkind] at h
      cases h
    | some kind => exact ⟨kind, payload, by rw [typed, Kind.tag_of_ofTag? hkind]⟩
  · cases h

theorem decode_eq_ok_iff {w v : Json} :
    decode w = .ok v ↔ ∃ kind payload, w = typed kind payload ∧ StandsFor kind payload v := by
  constructor
  · intro h
    obtain ⟨kind, payload, rfl⟩ := exists_typed_of_decode h
    exact ⟨kind, payload, rfl, decode_typed_iff.1 h⟩
  · rintro ⟨kind, payload, rfl, h⟩
    exact decode_typed_iff.2 h

end Keyspace.TypedValue
