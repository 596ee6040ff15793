import Keyspace.Proofs.TypedValue.Decoding

set_option autoImplicit false

namespace Keyspace.TypedValue

inductive Step where
  | item (index : Nat)
  | field (name : String)
  deriving DecidableEq, Repr

def parts? : Json → Option (Kind × Json)
  | .obj [(tag, payload)] => (Kind.ofTag? tag).map fun kind => (kind, payload)
  | _ => none

@[simp] theorem parts?_typed (kind : Kind) (payload : Json) :
    parts? (typed kind payload) = some (kind, payload) := by
  simp [parts?, typed, Kind.ofTag?_tag]

def step? (w : Json) : Step → Option Json
  | .item i => match parts? w with
    | some (.array, payload) => (items? payload).bind fun items => items[i]?
    | _ => none
  | .field name => match parts? w with
    | some (.map, payload) => (fields? payload).bind fun fields => SortedMap.lookup name fields
    | _ => none

def at? (w : Json) (path : List Step) : Option Json := path.foldlM step? w

def kindAt? (w : Json) (path : List Step) : Option Kind := ((at? w path).bind parts?).map (·.1)

/-- On every path there is the same type in both values. -/
def SameTypes (w x : Json) : Prop := ∀ path, kindAt? w path = kindAt? x path

def Kind.plain : List Kind := [.null, .boolean, .integer, .double, .string, .array, .map]

def PlainHere (w : Json) : Prop := ∃ kind payload, w = typed kind payload ∧ kind ∈ Kind.plain ∧
  (kind = .double → ∃ n, payload = .num n)

/-- A double that is spelled as a signed 64-bit integer. -/
def IsWholeDouble (w : Json) : Prop :=
  ∃ n i, w = typed .double (.num n) ∧ n.integer? = some i ∧ -2 ^ 63 ≤ i ∧ i < 2 ^ 63

/-- A property of the value and everything inside it. -/
def Throughout (P : Json → Prop) (w : Json) : Prop := ∀ path x, at? w path = some x → P x

def Plain (w : Json) : Prop := Throughout PlainHere w

def NoWholeDouble (w : Json) : Prop := Throughout (fun x => ¬ IsWholeDouble x) w

def Reencodes (w w' : Json) : Prop := ∃ v, Decodes w v ∧ w' = encode v

theorem rel_encode {w v : Option Json} (h : Option.Rel Decodes w v) :
    Option.Rel Reencodes w (v.map encode) := by
  cases h with
  | none => exact .none
  | some h => exact .some ⟨_, h, rfl⟩

theorem exists_encode_arr (vs : List Json) :
    ∃ payload, encode (.arr vs) = typed .array payload ∧ items? payload = some (vs.map encode) := by
  refine ⟨_, encode_arr vs, ?_⟩
  cases vs <;> rfl

theorem exists_encode_obj (ms : List (String × Json)) :
    ∃ payload, encode (.obj ms) = typed .map payload ∧
      fields? payload = some (ms.map fun e => (e.1, encode e.2)) :=
  ⟨_, encode_obj ms, rfl⟩

theorem encodeNumber_eq (n : Json.Number) :
    ∃ payload, encodeNumber n =
      typed (if n.int64?.isSome then .integer else .double) payload := by
  unfold encodeNumber
  cases n.int64? with
  | some i => exact ⟨_, rfl⟩
  | none => cases n <;> exact ⟨_, rfl⟩

theorem isWholeDouble_typed_iff {kind : Kind} {payload : Json} :
    IsWholeDouble (typed kind payload) ↔
      kind = .double ∧ ∃ n, payload = .num n ∧ n.int64?.isSome = true := by
  simp only [IsWholeDouble, typed_inj, Option.isSome_iff_exists, Json.Number.int64?_eq_some_iff]
  constructor
  · rintro ⟨n, i, ⟨rfl, rfl⟩, hinteger⟩
    exact ⟨rfl, n, rfl, i, hinteger⟩
  · rintro ⟨rfl, n, rfl, i, hinteger⟩
    exact ⟨n, i, ⟨rfl, rfl⟩, hinteger⟩

theorem encode_scalar {kind : Kind} {payload v : Json} (h : scalar? kind payload = some v)
    (hkind : kind ∈ Kind.plain) (hnumber : kind = .double → ∃ n, payload = .num n) :
    ∃ kind' payload', encode v = typed kind' payload' ∧ kind' ≠ .array ∧ kind' ≠ .map ∧
      (kind' = kind ↔ ¬ IsWholeDouble (typed kind payload)) := by
  rw [isWholeDouble_typed_iff]
  cases kind with
  | null =>
    cases h
    exact ⟨.null, .null, by rw [encode], by decide, by decide, by simp⟩
  | boolean =>
    cases payload with
    | bool b =>
      cases h
      exact ⟨.boolean, .bool b, by rw [encode], by decide, by decide, by simp⟩
    | _ => cases h
  | integer =>
    obtain ⟨i, hi, hv⟩ := Option.bind_eq_some_iff.1 h
    obtain ⟨n, hn, rfl⟩ := Option.map_eq_some_iff.1 hv
    obtain ⟨payload', hencode⟩ := encodeNumber_eq n
    have hinteger : n.int64?.isSome = true :=
      Option.isSome_iff_exists.2 ⟨i, Json.Number.int64?_eq_some_iff.2
        ⟨Json.Number.integer?_of_ofInt? hn, integer?_range hi⟩⟩
    rw [if_pos hinteger] at hencode
    exact ⟨.integer, payload', by rw [encode, hencode], by decide, by decide, by simp⟩
  | double =>
    obtain ⟨n, rfl⟩ := hnumber rfl
    cases h
    obtain ⟨payload', hencode⟩ := encodeNumber_eq n
    refine ⟨_, payload', by rw [encode, hencode], ?_⟩
    cases hinteger : n.int64?.isSome <;> simp [hinteger]
  | string =>
    cases payload with
    | str s =>
      cases h
      exact ⟨.string, .str s, by rw [encode], by decide, by decide, by simp⟩
    | _ => cases h
  | array => cases h
  | map => cases h
  | _ => exact absurd hkind (by decide)

theorem step?_eq_none {kind : Kind} (harray : kind ≠ .array) (hmap : kind ≠ .map) (payload : Json)
    (step : Step) : step? (typed kind payload) step = none := by
  cases step <;> cases kind <;> simp_all [step?]

theorem step?_reencodes {w w' : Json} (h : Reencodes w w')
    (hroot : PlainHere w) (step : Step) :
    Option.Rel Reencodes (step? w step) (step? w' step) := by
  obtain ⟨v, hv, rfl⟩ := h
  obtain ⟨kind, payload, rfl, hkind, hnumber⟩ := hroot
  cases decode_typed_iff.1 hv with
  | scalar hscalar =>
    obtain ⟨kind', payload', hencode, harray, hmap, -⟩ := encode_scalar hscalar hkind hnumber
    rw [hencode, step?_eq_none harray hmap, step?_eq_none]
    · exact .none
    · rintro rfl
      cases hscalar
    · rintro rfl
      cases hscalar
  | @array _ items vs hitems hall =>
    obtain ⟨payload', hencode, hitems'⟩ := exists_encode_arr vs
    rw [hencode]
    cases step with
    | field name => simp [step?]
    | item i =>
      simp only [step?, parts?_typed, hitems, hitems', Option.bind_some, List.getElem?_map]
      exact rel_encode (rel_getElem? hall i)
  | @map _ fields vs hfields hall =>
    obtain ⟨payload', hencode, hfields'⟩ := exists_encode_obj vs
    rw [hencode]
    cases step with
    | item i => simp [step?]
    | field name =>
      simp only [step?, parts?_typed, hfields, hfields', Option.bind_some,
        SortedMap.lookup_map]
      exact rel_encode (rel_lookup hall name)

theorem at?_cons (w : Json) (step : Step) (path : List Step) :
    at? w (step :: path) = (step? w step).bind fun x => at? x path :=
  rfl

theorem throughout_iff {P : Json → Prop} {w : Json} :
    Throughout P w ↔ P w ∧ ∀ step x, step? w step = some x → Throughout P x := by
  constructor
  · intro h
    refine ⟨h [] w rfl, fun step x hstep path y hy => ?_⟩
    exact h (step :: path) y (by rw [at?_cons, hstep, Option.bind_some, hy])
  · rintro ⟨hroot, hinside⟩ path x hx
    cases path with
    | nil =>
      cases hx
      exact hroot
    | cons step path =>
      rw [at?_cons] at hx
      obtain ⟨y, hstep, hy⟩ := Option.bind_eq_some_iff.1 hx
      exact hinside step y hstep path x hy

theorem throughout_scalar {P : Json → Prop} {kind : Kind} {payload : Json} (harray : kind ≠ .array)
    (hmap : kind ≠ .map) (h : P (typed kind payload)) : Throughout P (typed kind payload) :=
  throughout_iff.2 ⟨h, fun step x hstep => by
    rw [step?_eq_none harray hmap] at hstep
    cases hstep⟩

theorem throughout_array {P : Json → Prop} {payload : Json} {items : List Json}
    (hitems : items? payload = some items) (h : P (typed .array payload))
    (hall : ∀ x ∈ items, Throughout P x) : Throughout P (typed .array payload) :=
  throughout_iff.2 ⟨h, fun step x hstep => by
    cases step with
    | item i =>
      simp only [step?, parts?_typed, hitems, Option.bind_some] at hstep
      exact hall x (List.mem_of_getElem? hstep)
    | field name => simp [step?] at hstep⟩

theorem at?_reencodes {w w' : Json} (h : Reencodes w w') (hplain : Plain w) (path : List Step) :
    Option.Rel Reencodes (at? w path) (at? w' path) := by
  induction path generalizing w w' with
  | nil => exact .some h
  | cons step path ih =>
    have hstep := step?_reencodes h (throughout_iff.1 hplain).1 step
    rw [at?_cons, at?_cons]
    cases hx : step? w step with
    | none =>
      rw [hx] at hstep
      generalize step? w' step = y at hstep
      cases hstep
      exact .none
    | some x =>
      rw [hx] at hstep
      generalize step? w' step = y at hstep
      cases hstep with
      | some hxy => exact ih hxy ((throughout_iff.1 hplain).2 step x hx)

theorem kind_eq_iff {w w' : Json} (h : Reencodes w w') (hroot : PlainHere w) :
    (parts? w').map (·.1) = (parts? w).map (·.1) ↔ ¬ IsWholeDouble w := by
  obtain ⟨v, hv, rfl⟩ := h
  obtain ⟨kind, payload, rfl, hkind, hnumber⟩ := hroot
  cases decode_typed_iff.1 hv with
  | scalar hscalar =>
    obtain ⟨kind', payload', hencode, -, -, hsame⟩ := encode_scalar hscalar hkind hnumber
    simp [hencode, hsame]
  | @array _ items vs hitems hall =>
    obtain ⟨payload', hencode, -⟩ := exists_encode_arr vs
    simp [hencode, isWholeDouble_typed_iff]
  | @map _ fields vs hfields hall =>
    obtain ⟨payload', hencode, -⟩ := exists_encode_obj vs
    simp [hencode, isWholeDouble_typed_iff]

theorem sameTypes_encode_iff {w v : Json} (h : decode w = .ok v) (hplain : Plain w) :
    SameTypes (encode v) w ↔ NoWholeDouble w := by
  have hpath : ∀ path, kindAt? (encode v) path = kindAt? w path ↔
      ∀ x, at? w path = some x → ¬ IsWholeDouble x := by
    intro path
    have hrel := at?_reencodes ⟨v, h, rfl⟩ hplain path
    have hroot := hplain path
    rw [kindAt?, kindAt?]
    generalize at? w path = x, at? (encode v) path = y at hrel hroot
    cases hrel with
    | none => simp
    | some hxy => simpa using kind_eq_iff hxy (hroot _ rfl)
  simp only [SameTypes, hpath, NoWholeDouble, Throughout]

end Keyspace.TypedValue
