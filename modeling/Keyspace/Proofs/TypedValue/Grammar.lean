import Keyspace.Proofs.TypedValue.Decoding
import Keyspace.Proofs.TypedValue.RoundTrip

set_option autoImplicit false

namespace Keyspace.TypedValue

def IsInt64Text (s : String) : Prop :=
  ∃ sign digits, s.toList = sign ++ digits ∧ digits ≠ [] ∧ (∀ c ∈ digits, c.isDigit = true) ∧
    (sign = ['-'] ∧ Text.decimal digits ≤ 2 ^ 63 ∨
      (sign = [] ∨ sign = ['+']) ∧ Text.decimal digits < 2 ^ 63)

inductive IsInt64 : Json → Prop where
  | number {n : Json.Number} {i : Int} (integer : n.integer? = some i)
    (range : -2 ^ 63 ≤ i ∧ i < 2 ^ 63) : IsInt64 (.num n)
  | text {s : String} (decimal : IsInt64Text s) : IsInt64 (.str s)

theorem numeral?_eq_some_iff {cs : List Char} {n : Nat} :
    Text.numeral? cs = some n ↔
      cs ≠ [] ∧ (∀ c ∈ cs, c.isDigit = true) ∧ Text.decimal cs = n := by
  unfold Text.numeral?
  split
  · rename_i h
    simp only [List.isEmpty_iff, List.all_eq_true] at h
    simp only [reduceCtorEq, false_iff]
    rintro ⟨hne, hall, -⟩
    exact h.elim hne fun hnot => hnot hall
  · rename_i h
    simp only [List.isEmpty_iff, List.all_eq_true, not_or, not_not] at h
    simp [h.1]
    exact fun _ => h.2

theorem exists_int64OfText?_iff {s : String} :
    (∃ i, int64OfText? s = some i) ↔ IsInt64Text s := by
  have hsigned : ∀ (negate : Int → Int) (ds : List Char) (i : Int),
      ((do let n ← Text.numeral? ds; pure (n : Int)).map negate = some i) ↔
        ds ≠ [] ∧ (∀ c ∈ ds, c.isDigit = true) ∧ negate (Text.decimal ds) = i := by
    intro negate ds i
    simp only [Option.map_eq_some_iff, Option.bind_eq_bind, Option.bind_eq_some_iff,
      Option.pure_def, Option.some.injEq, numeral?_eq_some_iff]
    constructor
    · rintro ⟨_, ⟨_, ⟨hne, hall, rfl⟩, rfl⟩, rfl⟩
      exact ⟨hne, hall, rfl⟩
    · rintro ⟨hne, hall, rfl⟩
      exact ⟨_, ⟨_, ⟨hne, hall, rfl⟩, rfl⟩, rfl⟩
  unfold int64OfText?
  simp only [Option.filter_eq_some_iff, decide_eq_true_eq]
  constructor
  · rintro ⟨i, hvalue, hrange⟩
    split at hvalue
    · rename_i ds hs
      obtain ⟨hne, hall, rfl⟩ := (hsigned (fun n => -n) ds i).1 hvalue
      exact ⟨['-'], ds, hs, hne, hall, .inl ⟨rfl, by omega⟩⟩
    · rename_i ds hs
      obtain ⟨hne, hall, rfl⟩ := (hsigned (fun n => n) ds i).1 hvalue
      exact ⟨['+'], ds, hs, hne, hall, .inr ⟨.inr rfl, by omega⟩⟩
    · obtain ⟨hne, hall, rfl⟩ := (hsigned (fun n => n) s.toList i).1 hvalue
      exact ⟨[], s.toList, rfl, hne, hall, .inr ⟨.inl rfl, by omega⟩⟩
  · rintro ⟨sign, ds, hs, hne, hall, hsign⟩
    rw [hs]
    rcases hsign with ⟨rfl, hle⟩ | ⟨rfl | rfl, hlt⟩
    · exact ⟨_, (hsigned (fun n => -n) ds _).2 ⟨hne, hall, rfl⟩, by omega⟩
    · obtain ⟨d, rest, rfl⟩ := List.exists_cons_of_ne_nil hne
      have hdigit := hall d List.mem_cons_self
      have hminus : d ≠ '-' := by
        rintro rfl
        exact absurd hdigit (by decide)
      have hplus : d ≠ '+' := by
        rintro rfl
        exact absurd hdigit (by decide)
      refine ⟨(Text.decimal (d :: rest) : Int), ?_, by omega⟩
      rw [List.nil_append]
      split
      · simp_all
      · simp_all
      · exact (hsigned (fun n => n) (d :: rest) _).2 ⟨hne, hall, rfl⟩
    · exact ⟨_, (hsigned (fun n => n) ds _).2 ⟨hne, hall, rfl⟩, by omega⟩

theorem exists_scalar?_integer_iff {payload : Json} :
    (∃ v, scalar? .integer payload = some v) ↔ IsInt64 payload := by
  constructor
  · rintro ⟨v, hv⟩
    obtain ⟨i, hi, -⟩ := Option.bind_eq_some_iff.1 hv
    cases payload with
    | num n =>
      obtain ⟨hinteger, hrange⟩ := Json.Number.int64?_eq_some_iff.1 hi
      exact .number hinteger hrange
    | str s => exact .text (exists_int64OfText?_iff.1 ⟨i, hi⟩)
    | _ => cases hi
  · intro h
    have hread : ∃ i, integer? payload = some i := by
      cases h with
      | number hinteger hrange =>
        exact ⟨_, Json.Number.int64?_eq_some_iff.2 ⟨hinteger, hrange⟩⟩
      | text hdecimal => exact exists_int64OfText?_iff.2 hdecimal
    obtain ⟨i, hi⟩ := hread
    obtain ⟨n, hn⟩ := Json.Number.exists_ofInt? (integer?_range hi)
    exact ⟨.num n, by rw [scalar?, hi, Option.bind_some, hn, Option.map_some]⟩

/-- A JSON value has the form of a typed value, at every depth. The payloads of points, arrays and
maps are among `Holder`. -/
inductive Formed (Holder : Json → Prop) : Json → Prop where
  | null (payload : Json) : Formed Holder (typed .null payload)
  | boolean (b : Bool) : Formed Holder (typed .boolean (.bool b))
  | integer {payload : Json} (h : IsInt64 payload) : Formed Holder (typed .integer payload)
  | number (n : Json.Number) : Formed Holder (typed .double (.num n))
  | notNumber (s : String) : Formed Holder (typed .double (.str s))
  | text {kind : Kind} (h : kind ∈ [.string, .timestamp, .reference, .bytes]) (s : String) :
    Formed Holder (typed kind (.str s))
  | point {payload : Json} (h : Holder payload) : Formed Holder (typed .geoPoint payload)
  | array {payload : Json} {items : List Json} (h : Holder payload)
    (holds : items? payload = some items) (all : ∀ x ∈ items, Formed Holder x) :
    Formed Holder (typed .array payload)
  | map {payload : Json} {fields : List (String × Json)} (h : Holder payload)
    (holds : fields? payload = some fields) (all : ∀ e ∈ fields, Formed Holder e.2) :
    Formed Holder (typed .map payload)

def IsObject (v : Json) : Prop := ∃ members, v = .obj members

/-- A typed value, with a payload of its type at every depth. -/
abbrev WellFormed (w : Json) : Prop := Formed IsObject w

/-- Somewhere in the value there is a point, an array or a map whose payload is no object. -/
inductive HasBare : Json → Prop where
  | here {kind : Kind} {payload : Json} (h : kind ∈ [.geoPoint, .array, .map])
    (bare : ¬ IsObject payload) : HasBare (typed kind payload)
  | item {payload x : Json} {items : List Json} (holds : items? payload = some items)
    (mem : x ∈ items) (h : HasBare x) : HasBare (typed .array payload)
  | field {payload : Json} {fields : List (String × Json)} {e : String × Json}
    (holds : fields? payload = some fields) (mem : e ∈ fields) (h : HasBare e.2) :
    HasBare (typed .map payload)

theorem formed_of_scalar? {kind : Kind} {payload v : Json} (h : scalar? kind payload = some v) :
    Formed (fun _ => True) (typed kind payload) := by
  cases kind with
  | null => exact .null payload
  | boolean =>
    cases payload with
    | bool b => exact .boolean b
    | _ => cases h
  | integer => exact .integer (exists_scalar?_integer_iff.1 ⟨v, h⟩)
  | double =>
    cases payload with
    | num n => exact .number n
    | str s => exact .notNumber s
    | _ => cases h
  | geoPoint => exact .point trivial
  | array => cases h
  | map => cases h
  | _ =>
    cases payload with
    | str s => exact .text (by decide) s
    | _ => cases h

mutual

theorem formed_of_decodes : ∀ (v : Json) {w : Json}, Decodes w v → Formed (fun _ => True) w
  | .arr vs, w, h => by
    obtain ⟨kind, payload, rfl, hstands⟩ := decode_eq_ok_iff.1 h
    cases hstands with
    | scalar hscalar => exact formed_of_scalar? hscalar
    | array hitems hall => exact .array trivial hitems (formed_of_decodesItems vs hall)
  | .obj vs, w, h => by
    obtain ⟨kind, payload, rfl, hstands⟩ := decode_eq_ok_iff.1 h
    cases hstands with
    | scalar hscalar => exact formed_of_scalar? hscalar
    | map hfields hall => exact .map trivial hfields (formed_of_decodesFields vs hall)
  | .null, w, h | .bool _, w, h | .num _, w, h | .str _, w, h => by
    obtain ⟨kind, payload, rfl, hstands⟩ := decode_eq_ok_iff.1 h
    cases hstands with
    | scalar hscalar => exact formed_of_scalar? hscalar

theorem formed_of_decodesItems :
    ∀ (vs : List Json) {xs : List Json}, List.Forall₂ Decodes xs vs →
      ∀ x ∈ xs, Formed (fun _ => True) x
  | [], _, .nil => by simp
  | v :: vs, _, .cons h hall =>
    List.forall_mem_cons.2 ⟨formed_of_decodes v h, formed_of_decodesItems vs hall⟩

theorem formed_of_decodesFields :
    ∀ (vs : List (String × Json)) {ms : List (String × Json)}, List.Forall₂ DecodesField ms vs →
      ∀ e ∈ ms, Formed (fun _ => True) e.2
  | [], _, .nil => by simp
  | (_, v) :: vs, _, .cons h hall =>
    List.forall_mem_cons.2 ⟨formed_of_decodes v h.2, formed_of_decodesFields vs hall⟩

end

theorem exists_decodes_of_formed {Holder : Json → Prop} {w : Json} (h : Formed Holder w) :
    ∃ v, Decodes w v := by
  induction h with
  | null payload => exact ⟨.null, decode_scalar rfl⟩
  | boolean b => exact ⟨.bool b, decode_scalar rfl⟩
  | integer hint =>
    obtain ⟨v, hv⟩ := exists_scalar?_integer_iff.2 hint
    exact ⟨v, decode_scalar hv⟩
  | number n => exact ⟨.num n, decode_scalar rfl⟩
  | notNumber s => exact ⟨.null, decode_scalar rfl⟩
  | @text kind hkind s =>
    refine ⟨.str s, decode_scalar ?_⟩
    cases kind <;> first | rfl | exact absurd hkind (by decide)
  | point => exact ⟨_, decode_scalar rfl⟩
  | array _ hitems _ ih =>
    obtain ⟨vs, hall⟩ := exists_forall₂ ih
    exact ⟨.arr vs, decode_typed_iff.2 (.array hitems hall)⟩
  | map _ hfields _ ih =>
    have hread : ∀ e ∈ _, ∃ f, DecodesField e f := fun e he => by
      obtain ⟨v, hv⟩ := ih e he
      exact ⟨(e.1, v), rfl, hv⟩
    obtain ⟨vs, hall⟩ := exists_forall₂ hread
    exact ⟨.obj vs, decode_typed_iff.2 (.map hfields hall)⟩

theorem decodes_iff_formed {w : Json} : (∃ v, Decodes w v) ↔ Formed (fun _ => True) w :=
  ⟨fun ⟨v, hv⟩ => formed_of_decodes v hv, exists_decodes_of_formed⟩

theorem Formed.parts {Holder : Json → Prop} {kind : Kind} {payload : Json}
    (h : Formed Holder (typed kind payload)) :
    (kind ∈ [.geoPoint, .array, .map] → Holder payload) ∧
      (kind = .array → ∃ items, items? payload = some items ∧ ∀ x ∈ items, Formed Holder x) ∧
      (kind = .map →
        ∃ fields, fields? payload = some fields ∧ ∀ e ∈ fields, Formed Holder e.2) := by
  generalize hw : typed kind payload = w at h
  cases h with
  | point hholder =>
    obtain ⟨rfl, rfl⟩ := typed_inj.1 hw
    exact ⟨fun _ => hholder, nofun, nofun⟩
  | array hholder hitems hall =>
    obtain ⟨rfl, rfl⟩ := typed_inj.1 hw
    exact ⟨fun _ => hholder, fun _ => ⟨_, hitems, hall⟩, nofun⟩
  | map hholder hfields hall =>
    obtain ⟨rfl, rfl⟩ := typed_inj.1 hw
    exact ⟨fun _ => hholder, nofun, fun _ => ⟨_, hfields, hall⟩⟩
  | text hkind =>
    obtain ⟨rfl, rfl⟩ := typed_inj.1 hw
    cases kind <;> simp_all
  | _ =>
    obtain ⟨rfl, rfl⟩ := typed_inj.1 hw
    exact ⟨fun h => absurd h (by decide), nofun, nofun⟩

theorem not_hasBare_of_wellFormed {w : Json} (h : WellFormed w) : ¬ HasBare w := by
  intro hbare
  induction hbare with
  | here hkind hno => exact hno (h.parts.1 hkind)
  | item hitems hmem _ ih =>
    obtain ⟨items, hitems', hall⟩ := h.parts.2.1 rfl
    cases hitems.symm.trans hitems'
    exact ih (hall _ hmem)
  | field hfields hmem _ ih =>
    obtain ⟨fields, hfields', hall⟩ := h.parts.2.2 rfl
    cases hfields.symm.trans hfields'
    exact ih (hall _ hmem)

theorem wellFormed_of_not_hasBare {w : Json} (h : Formed (fun _ => True) w) (hbare : ¬ HasBare w) :
    WellFormed w := by
  have hobject : ∀ {kind payload}, kind ∈ [Kind.geoPoint, .array, .map] →
      ¬ HasBare (typed kind payload) → IsObject payload :=
    fun hkind hno => not_not.1 fun hobject => hno (.here hkind hobject)
  induction h with
  | null payload => exact .null payload
  | boolean b => exact .boolean b
  | integer h => exact .integer h
  | number n => exact .number n
  | notNumber s => exact .notNumber s
  | text h s => exact .text h s
  | point => exact .point (hobject (by decide) hbare)
  | array _ hitems _ ih =>
    exact .array (hobject (by decide) hbare) hitems fun x hx =>
      ih x hx fun h => hbare (.item hitems hx h)
  | map _ hfields _ ih =>
    exact .map (hobject (by decide) hbare) hfields fun e he =>
      ih e he fun h => hbare (.field hfields he h)

/-- What is read as a typed value has the form of one, apart from payloads of points, arrays and
maps that are no objects. The typed values with payloads of their types are just those that are read
and have no such payload at any depth. -/
theorem decodes_iff (w : Json) :
    ((∃ v, decode w = .ok v) ↔ Formed (fun _ => True) w) ∧
      (WellFormed w ↔ (∃ v, decode w = .ok v) ∧ ¬ HasBare w) := by
  refine ⟨decodes_iff_formed,
    fun h => ⟨exists_decodes_of_formed h, not_hasBare_of_wellFormed h⟩, ?_⟩
  rintro ⟨hread, hbare⟩
  exact wellFormed_of_not_hasBare (decodes_iff_formed.1 hread) hbare

/-- Payloads that are no objects are read as if they had no members. -/
theorem not_wellFormed_bare :
    (decode (typed .array (.str "oops")) = .ok (.arr []) ∧
        ¬ WellFormed (typed .array (.str "oops"))) ∧
      (decode (typed .map (.num (.natural 5))) = .ok (.obj []) ∧
        ¬ WellFormed (typed .map (.num (.natural 5)))) ∧
      decode (typed .geoPoint .null) = .ok (.obj [("latitude", .null), ("longitude", .null)]) ∧
        ¬ WellFormed (typed .geoPoint .null) := by
  have hbare : ∀ {kind payload}, kind ∈ [Kind.geoPoint, .array, .map] → ¬ IsObject payload →
      ¬ WellFormed (typed kind payload) := fun hkind hno h => hno (h.parts.1 hkind)
  exact ⟨⟨rfl, hbare (by decide) nofun⟩, ⟨rfl, hbare (by decide) nofun⟩, rfl,
    hbare (by decide) nofun⟩

end Keyspace.TypedValue
