import Keyspace.Proofs.SortedMap
import Keyspace.TypedValue

set_option autoImplicit false

namespace Keyspace

namespace Json

def Number.isPortable : Number → Bool
  | natural n => n.toNat < 2 ^ 63
  | _ => true

/-- A number as it is read back: beyond the signed range, the double that is sent in its place. -/
def Number.narrowed : Number → Number
  | natural n =>
    if n.toNat < 2 ^ 63 then natural n
    else float ((Binary64.ofNat? n.toNat).getD (Binary64.zero false))
  | n => n

mutual

def isPortable : Json → Bool
  | num n => n.isPortable
  | arr xs => arePortable xs
  | obj ms => havePortable ms
  | null | bool _ | str _ => true

def arePortable : List Json → Bool
  | [] => true
  | x :: xs => isPortable x && arePortable xs

def havePortable : List (String × Json) → Bool
  | [] => true
  | (_, x) :: ms => isPortable x && havePortable ms

end

mutual

/-- A value as it is read back from its typed form. -/
def narrowed : Json → Json
  | num n => num n.narrowed
  | arr xs => arr (narrowedItems xs)
  | obj ms => obj (narrowedMembers ms)
  | null => null
  | bool b => bool b
  | str s => str s

def narrowedItems : List Json → List Json
  | [] => []
  | x :: xs => narrowed x :: narrowedItems xs

def narrowedMembers : List (String × Json) → List (String × Json)
  | [] => []
  | (k, x) :: ms => (k, narrowed x) :: narrowedMembers ms

end

theorem Number.narrowed_eq_self_iff {n : Number} : n.narrowed = n ↔ n.isPortable = true := by
  cases n with
  | natural n => by_cases h : n.toNat < 2 ^ 63 <;> simp [narrowed, isPortable, h]
  | negative n => simp [narrowed, isPortable]
  | float x => simp [narrowed, isPortable]

mutual

theorem narrowed_eq_self_iff : ∀ {v : Json}, v.narrowed = v ↔ v.isPortable = true
  | null | bool _ | str _ => by simp [narrowed, isPortable]
  | num n => by simp [narrowed, isPortable, Number.narrowed_eq_self_iff]
  | arr xs => by simp [narrowed, isPortable, narrowedItems_eq_self_iff xs]
  | obj ms => by simp [narrowed, isPortable, narrowedMembers_eq_self_iff ms]

theorem narrowedItems_eq_self_iff :
    ∀ xs : List Json, narrowedItems xs = xs ↔ arePortable xs = true
  | [] => by simp [narrowedItems, arePortable]
  | x :: xs => by
    simp [narrowedItems, arePortable, narrowed_eq_self_iff (v := x),
      narrowedItems_eq_self_iff xs]

theorem narrowedMembers_eq_self_iff :
    ∀ ms : List (String × Json), narrowedMembers ms = ms ↔ havePortable ms = true
  | [] => by simp [narrowedMembers, havePortable]
  | (k, x) :: ms => by
    simp [narrowedMembers, havePortable, narrowed_eq_self_iff (v := x),
      narrowedMembers_eq_self_iff ms]

end

theorem narrowed_eq_str_iff {v : Json} {s : String} : v.narrowed = str s ↔ v = str s := by
  cases v <;> simp [narrowed]

theorem narrowedMembers_eq_map (ms : List (String × Json)) :
    narrowedMembers ms = ms.map fun e => (e.1, e.2.narrowed) := by
  induction ms with
  | nil => rfl
  | cons e ms ih => rw [narrowedMembers, List.map_cons, ih]

theorem havePortable_iff {ms : List (String × Json)} :
    havePortable ms = true ↔ ∀ e ∈ ms, e.2.isPortable = true := by
  induction ms with
  | nil => simp [havePortable]
  | cons e ms ih => simp [havePortable, ih]

theorem Number.ofInt?_of_int64? {n : Number} {i : Int} (h : n.int64? = some i) :
    ofInt? i = some n := by
  cases n with
  | natural n =>
    simp only [int64?] at h
    split at h
    · cases h
      have hlt := n.toNat_lt
      simp [ofInt?, hlt]
    · cases h
  | negative n =>
    cases h
    have hint : -1 - (n.val : Int) = Int.negSucc n.val := by omega
    simp [hint, ofInt?, n.isLt]
  | float x => cases h

theorem Number.int64?_range {n : Number} {i : Int} (h : n.int64? = some i) :
    -2 ^ 63 ≤ i ∧ i < 2 ^ 63 := by
  cases n with
  | natural n =>
    simp only [int64?] at h
    split at h
    · cases h
      omega
    · cases h
  | negative n =>
    cases h
    omega
  | float x => cases h

end Json

namespace TypedValue

theorem toList_toString_ofNat (n : Nat) :
    (toString (Int.ofNat n)).toList = Nat.toDigits 10 n := by
  have htext : toString (Int.ofNat n) = Nat.repr n := rfl
  rw [htext, Nat.repr_eq_ofList_toDigits, String.toList_ofList]

theorem toList_toString_negSucc (n : Nat) :
    (toString (Int.negSucc n)).toList = '-' :: Nat.toDigits 10 (n + 1) := by
  have htext : toString (Int.negSucc n) = "-" ++ Nat.repr (n + 1) := rfl
  rw [htext, String.toList_append, Nat.repr_eq_ofList_toDigits]
  simp

theorem toDigits_eq_cons (n : Nat) :
    ∃ d ds, Nat.toDigits 10 n = d :: ds ∧ d ≠ '-' ∧ d ≠ '+' := by
  cases hdigits : Nat.toDigits 10 n with
  | nil => exact absurd hdigits Nat.toDigits_ne_nil
  | cons d ds =>
    have hdigit : d.isDigit = true :=
      Nat.isDigit_of_mem_toDigits (by decide) (by decide) (hdigits ▸ List.mem_cons_self)
    refine ⟨d, ds, rfl, ?_, ?_⟩
    · rintro rfl
      exact absurd hdigit (by decide)
    · rintro rfl
      exact absurd hdigit (by decide)

theorem int64OfText?_toString {i : Int} (hrange : -2 ^ 63 ≤ i ∧ i < 2 ^ 63) :
    int64OfText? (toString i) = some i := by
  have hkept : (some i).filter (fun i => decide (-2 ^ 63 ≤ i ∧ i < 2 ^ 63)) = some i := by
    rw [Option.filter_some, if_pos (by simpa using hrange)]
  cases i with
  | ofNat n =>
    obtain ⟨d, ds, hdigits, hminus, hplus⟩ := toDigits_eq_cons n
    rw [int64OfText?, toList_toString_ofNat, hdigits]
    split
    · simp_all
    · simp_all
    · rw [← hdigits, Text.numeral?_toDigits]
      exact hkept
  | negSucc n =>
    rw [int64OfText?, toList_toString_negSucc]
    simp only [Text.numeral?_toDigits]
    exact hkept

theorem decode_scalar {kind : Kind} {payload v : Json} (h : scalar? kind payload = some v) :
    decode (typed kind payload) = .ok v := by
  rw [typed, decode, Kind.ofTag?_tag]
  cases kind <;> simp_all [scalar?]

theorem decode_encodeNumber (n : Json.Number) :
    decode (encodeNumber n) = .ok (.num n.narrowed) := by
  unfold encodeNumber
  cases hint : n.int64? with
  | some i =>
    have hsame : n.narrowed = n := by
      refine Json.Number.narrowed_eq_self_iff.2 ?_
      cases n with
      | natural n =>
        simpa [Json.Number.int64?, Json.Number.isPortable] using congrArg Option.isSome hint
      | negative n => rfl
      | float x => rfl
    refine decode_scalar ?_
    rw [scalar?, integer?, int64OfText?_toString (Json.Number.int64?_range hint),
      Option.bind_some, Json.Number.ofInt?_of_int64? hint, Option.map_some, hsame]
  | none =>
    cases n with
    | natural n =>
      have hbig : ¬ n.toNat < 2 ^ 63 := by
        intro hlt
        simp [Json.Number.int64?, hlt] at hint
      refine decode_scalar ?_
      simp [scalar?, Json.Number.narrowed, hbig]
    | negative n => simp [Json.Number.int64?] at hint
    | float x => exact decode_scalar rfl

theorem decode_array_values (items : List Json) :
    decode (typed .array (.obj [("values", .arr items)])) = (decodeItems items).map .arr := by
  rw [typed, decode, Kind.ofTag?_tag]
  simp [decodeArray, decodeValues]

theorem decode_map_fields (members : List (String × Json)) :
    decode (typed .map (.obj [("fields", .obj members)])) = (decodeMembers members).map .obj := by
  rw [typed, decode, Kind.ofTag?_tag]
  simp [decodeMap, decodeFieldsMember]

mutual

/-- A value is read back from its typed form, with its greatest integers as doubles. -/
theorem decode_encode : ∀ v : Json, decode (encode v) = .ok v.narrowed
  | .null => by rw [encode, decode_scalar (v := .null) rfl, Json.narrowed]
  | .bool b => by rw [encode, decode_scalar (v := .bool b) rfl, Json.narrowed]
  | .num n => by rw [encode, decode_encodeNumber, Json.narrowed]
  | .str s => by rw [encode, decode_scalar (v := .str s) rfl, Json.narrowed]
  | .arr [] => by
    rw [encode, typed, decode, Kind.ofTag?_tag]
    simp [decodeArray, decodeValues, Except.map, Json.narrowed, Json.narrowedItems]
  | .arr (x :: xs) => by
    rw [encode, decode_array_values, ← encodeItems, decodeItems_encodeItems (x :: xs),
      Json.narrowed]
    rfl
  | .obj ms => by
    rw [encode, decode_map_fields, decodeMembers_encodeMembers ms, Json.narrowed]
    rfl

theorem decodeItems_encodeItems :
    ∀ xs : List Json, decodeItems (encodeItems xs) = .ok (Json.narrowedItems xs)
  | [] => rfl
  | x :: xs => by
    rw [encodeItems, decodeItems, decode_encode x, decodeItems_encodeItems xs, Json.narrowedItems]
    rfl

theorem decodeMembers_encodeMembers :
    ∀ ms : List (String × Json), decodeMembers (encodeMembers ms) = .ok (Json.narrowedMembers ms)
  | [] => rfl
  | (k, x) :: ms => by
    rw [encodeMembers, decodeMembers, decode_encode x, decodeMembers_encodeMembers ms,
      Json.narrowedMembers]
    rfl

end

/-- Only a text has the typed form of a text. -/
theorem encode_eq_text_iff {v : Json} {s : String} :
    encode v = typed .string (.str s) ↔ v = .str s := by
  have hnumber : ∀ n, encodeNumber n ≠ typed .string (.str s) := by
    intro n
    unfold encodeNumber
    split
    · simp [typed, Kind.tag]
    · split <;> simp [typed, Kind.tag]
  cases v with
  | num n => simpa [encode] using hnumber n
  | arr xs => cases xs <;> simp [encode, typed, Kind.tag]
  | null | bool | str | obj => simp [encode, typed, Kind.tag]

theorem encodeMembers_eq_map (ms : List (String × Json)) :
    encodeMembers ms = ms.map fun e => (e.1, encode e.2) := by
  induction ms with
  | nil => rfl
  | cons e ms ih => rw [encodeMembers, List.map_cons, ih]

theorem encodeItems_eq_map (xs : List Json) : encodeItems xs = xs.map encode := by
  induction xs with
  | nil => rfl
  | cons x xs ih => rw [encodeItems, ih, List.map_cons]

theorem encode_arr (xs : List Json) : encode (.arr xs) =
    typed .array (.obj (if xs = [] then [] else [("values", .arr (xs.map encode))])) := by
  cases xs with
  | nil => rfl
  | cons x xs => rw [encode, encodeItems_eq_map, if_neg (List.cons_ne_nil x xs), List.map_cons]

theorem encode_obj (ms : List (String × Json)) : encode (.obj ms) =
    typed .map (.obj [("fields", .obj (ms.map fun e => (e.1, encode e.2)))]) := by
  rw [encode, encodeMembers_eq_map]

theorem decodeFields_encodeFields (doc : Document) :
    decodeFields (encodeFields doc) = .ok (doc.map Json.narrowed) := by
  have hentries : (encodeFields doc).entries = encodeMembers doc.entries :=
    (encodeMembers_eq_map doc.entries).symm
  have hnarrowed : Json.narrowedMembers doc.entries = (doc.map Json.narrowed).entries :=
    Json.narrowedMembers_eq_map doc.entries
  rw [decodeFields, hentries, decodeMembers_encodeMembers, hnarrowed, Except.map,
    SortedMap.ofList_entries]

theorem get?_encodeFields_eq_text_iff {doc : Document} {name s : String} :
    (encodeFields doc).get? name = some (typed .string (.str s)) ↔
      doc.get? name = some (.str s) := by
  rw [encodeFields, SortedMap.get?_map]
  simp [encode_eq_text_iff]

end TypedValue

def Document.Portable (doc : Document) : Prop := doc.All fun v => v.isPortable = true

theorem Document.Portable.iff_toJson {doc : Document} :
    doc.Portable ↔ doc.toJson.isPortable = true := by
  rw [Portable, SortedMap.All.iff_entries, Document.toJson, Json.isPortable, Json.havePortable_iff]

theorem Document.Portable.map_narrowed {doc : Document} (h : doc.Portable) :
    doc.map Json.narrowed = doc :=
  SortedMap.All.map_eq_self (h.imp fun _ => Json.narrowed_eq_self_iff.2)

end Keyspace
