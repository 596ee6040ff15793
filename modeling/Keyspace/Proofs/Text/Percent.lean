import Keyspace.Text.Percent

set_option autoImplicit false

namespace Keyspace.Text

theorem ofUtf8?_utf8 (s : String) : ofUtf8? (utf8 s) = some s := by
  have hbytes : (⟨(utf8 s).toArray⟩ : ByteArray) = s.toByteArray := by simp [utf8]
  rw [ofUtf8?, hbytes, String.fromUTF8?, dif_pos s.isValidUTF8]
  rfl

theorem length_utf8 (s : String) : (utf8 s).length = s.utf8ByteSize := by
  rw [utf8, Array.length_toList]
  rfl

theorem utf8_ascii {b : UInt8} (h : b < 128) :
    utf8 (String.singleton (Char.ofNat b.toNat)) = [b] := by
  have all : ∀ n : Fin 128, utf8 (String.singleton (Char.ofNat n)) = [UInt8.ofNat n] := by
    decide +kernel
  have hb : b.toNat < 128 := UInt8.lt_iff_toNat_lt.1 h
  have hthis := all ⟨b.toNat, hb⟩
  simpa using hthis

theorem percentBytes_cons {c : Char} (h : c ≠ '%') (rest : List Char) :
    percentBytes (c :: rest) = utf8 (String.singleton c) ++ percentBytes rest := by
  rw [percentBytes]
  rintro high low rest' rfl
  exact absurd rfl h

theorem percentBytes_flatMap {write : UInt8 → List Char}
    (h : ∀ b rest, percentBytes (write b ++ rest) = b :: percentBytes rest) (bytes : List UInt8) :
    percentBytes (bytes.flatMap write) = bytes := by
  induction bytes with
  | nil => rfl
  | cons b bytes ih => rw [List.flatMap_cons, h, ih]

theorem percentDecode?_percentEncode {plain : Char → Bool} (h : plain '%' = false) (s : String) :
    percentDecode? (percentEncode plain s).toList = some s := by
  rw [percentDecode?, percentEncode, String.toList_ofList, percentBytes_flatMap, ofUtf8?_utf8]
  intro b rest
  dsimp only
  split
  · rename_i hplain
    simp only [Bool.and_eq_true, decide_eq_true_eq] at hplain
    have hne : Char.ofNat b.toNat ≠ '%' := by
      intro heq
      rw [heq, h] at hplain
      exact absurd hplain.2 (by decide)
    rw [List.singleton_append, percentBytes_cons hne, utf8_ascii hplain.1, List.singleton_append]
  · exact percentBytes_percentByte b rest

theorem percentDecode?_segment (s : String) : percentDecode? (encodeSegment s).toList = some s :=
  percentDecode?_percentEncode (by decide) s

def formDecode? (cs : List Char) : Option String :=
  percentDecode? (cs.map fun c => if c = '+' then ' ' else c)

def queryField? (name query : String) : Option String :=
  (query.toList.splitOnP (· == '&')).findSome? fun field =>
    if formDecode? (field.takeWhile (· != '=')) = some name then
      formDecode? ((field.dropWhile (· != '=')).drop 1)
    else none

theorem hexDigit_isAlphanum {n : Nat} (h : n < 16) : (hexDigit n).isAlphanum = true := by
  have all : ∀ n : Fin 16, (hexDigit n).isAlphanum = true := by decide
  exact all ⟨n, h⟩

theorem lt_of_isAlphanum {c : Char} (h : c.isAlphanum = true) : c.toNat < 128 := by
  have hparts : (c.isUpper || c.isLower || c.isDigit) = true := h
  have hle : ∀ d : Char, c.val ≤ d.val → c.toNat ≤ d.toNat := fun _ hd =>
    UInt32.le_iff_toNat_le.1 hd
  rw [Bool.or_eq_true, Bool.or_eq_true] at hparts
  rcases hparts with (hupper | hlower) | hdigit
  · have hZ := hle 'Z' (of_decide_eq_true hupper).2
    exact Nat.lt_of_le_of_lt hZ (by decide)
  · have hz := hle 'z' (of_decide_eq_true (Bool.and_eq_true_iff.1 hlower).2)
    exact Nat.lt_of_le_of_lt hz (by decide)
  · have h9 := hle '9' (of_decide_eq_true (Bool.and_eq_true_iff.1 hdigit).2)
    exact Nat.lt_of_le_of_lt h9 (by decide)

theorem lt_of_isFormPlain {c : Char} (h : isFormPlain c = true) : c.toNat < 128 := by
  simp only [isFormPlain, Bool.or_eq_true, beq_iff_eq] at h
  rcases h with (((h | rfl) | rfl) | rfl) | rfl
  · exact lt_of_isAlphanum h
  · decide
  · decide
  · decide
  · decide

theorem mem_encodeField {s : String} {c : Char} (h : c ∈ (encodeField s).toList) :
    isFormPlain c = true ∨ c = '+' ∨ c = '%' := by
  rw [encodeField, String.toList_ofList, List.mem_flatMap] at h
  obtain ⟨b, _, hc⟩ := h
  have hb : b.toNat < 256 := b.toNat_lt
  dsimp only at hc
  split at hc
  · exact .inr (.inl (List.mem_singleton.1 hc))
  · split at hc
    · rename_i hplain
      simp only [Bool.and_eq_true] at hplain
      exact .inl (List.mem_singleton.1 hc ▸ hplain.2)
    · simp only [percentByte, List.mem_cons, List.not_mem_nil, or_false] at hc
      rcases hc with rfl | rfl | rfl
      · exact .inr (.inr rfl)
      · exact .inl (by simp [isFormPlain, hexDigit_isAlphanum (show b.toNat / 16 < 16 by omega)])
      · exact .inl (by simp [isFormPlain, hexDigit_isAlphanum (show b.toNat % 16 < 16 by omega)])

theorem formDecode?_field (s : String) : formDecode? (encodeField s).toList = some s := by
  rw [formDecode?, percentDecode?, encodeField, String.toList_ofList, List.map_flatMap,
    percentBytes_flatMap, ofUtf8?_utf8]
  intro b rest
  dsimp only
  split
  · rename_i hspace
    subst hspace
    exact percentBytes_cons (by decide) rest
  · split
    · rename_i hplain
      simp only [Bool.and_eq_true, decide_eq_true_eq] at hplain
      have hne : ∀ c, isFormPlain c = false → Char.ofNat b.toNat ≠ c := by
        rintro c hc rfl
        rw [hc] at hplain
        exact absurd hplain.2 (by decide)
      rw [List.map_singleton, if_neg (hne '+' (by decide)), List.singleton_append,
        percentBytes_cons (hne '%' (by decide)), utf8_ascii hplain.1, List.singleton_append]
    · have hb : b.toNat < 256 := b.toNat_lt
      have hdigit : ∀ n, n < 16 → hexDigit n ≠ '+' := by
        intro n hn heq
        have halnum := hexDigit_isAlphanum hn
        rw [heq] at halnum
        exact absurd halnum (by decide)
      have hmap : (percentByte b).map (fun c => if c = '+' then ' ' else c) = percentByte b := by
        simp [percentByte, hdigit _ (show b.toNat / 16 < 16 by omega),
          hdigit _ (show b.toNat % 16 < 16 by omega)]
      rw [hmap, percentBytes_percentByte]

theorem ne_of_mem_encodeField {s : String} {c : Char} (h : c ∈ (encodeField s).toList) :
    c ≠ '&' ∧ c ≠ '=' := by
  rcases mem_encodeField h with h | rfl | rfl
  · constructor
    · rintro rfl
      exact absurd h (by decide)
    · rintro rfl
      exact absurd h (by decide)
  · decide
  · decide

def field (name value : String) : String := encodeField name ++ "=" ++ encodeField value

theorem ne_of_mem_field {name value : String} :
    ∀ c ∈ (field name value).toList, (c == '&') = false := by
  intro c hc
  simp only [field, String.toList_append, List.mem_append] at hc
  rcases hc with (hc | hc) | hc
  · exact beq_false_of_ne (ne_of_mem_encodeField hc).1
  · rw [List.mem_singleton.1 hc]
    decide
  · exact beq_false_of_ne (ne_of_mem_encodeField hc).1

theorem field_sides (name value : String) :
    (field name value).toList.takeWhile (· != '=') = (encodeField name).toList ∧
      (field name value).toList.dropWhile (· != '=') = '=' :: (encodeField value).toList := by
  have hname : ∀ c ∈ (encodeField name).toList, (c != '=') = true := fun c hc =>
    bne_iff_ne.2 (ne_of_mem_encodeField hc).2
  have hsplit : (field name value).toList =
      (encodeField name).toList ++ '=' :: (encodeField value).toList := by
    simp [field, String.toList_append]
  rw [hsplit, List.takeWhile_append_of_pos hname, List.dropWhile_append_of_pos hname]
  simp

theorem queryField?_field (name other value : String) :
    queryField? other (field name value) = if name = other then some value else none := by
  obtain ⟨hname, hvalue⟩ := field_sides name value
  rw [queryField?, List.splitOnP_eq_singleton ne_of_mem_field, List.findSome?_singleton, hname,
    hvalue]
  simp [formDecode?_field]

def lastField? (name query : String) : Option String :=
  queryField? name (String.ofList (query.toList.reverse.takeWhile (· != '&')).reverse)

theorem takeWhile_reverse_field (name value : String) (rest : List Char) :
    ((field name value).toList.reverse ++ rest).takeWhile (· != '&') =
      (field name value).toList.reverse ++ rest.takeWhile (· != '&') :=
  List.takeWhile_append_of_pos fun c hc => by
    simp [bne, ne_of_mem_field c (List.mem_reverse.1 hc)]

theorem lastField?_field (name other value : String) :
    lastField? other (field name value) = if name = other then some value else none := by
  have hwhole := takeWhile_reverse_field name value []
  rw [List.takeWhile_nil, List.append_nil] at hwhole
  rw [lastField?, hwhole, List.reverse_reverse, String.ofList_toList, queryField?_field]

theorem lastField?_append (query name other value : String) :
    lastField? other (query ++ "&" ++ field name value) = lastField? other (field name value) := by
  have hchars : (query ++ "&" ++ field name value).toList.reverse =
      (field name value).toList.reverse ++ '&' :: query.toList.reverse := by
    simp [String.toList_append]
  have hwhole := takeWhile_reverse_field name value []
  rw [List.append_nil] at hwhole
  rw [lastField?, lastField?, hchars, takeWhile_reverse_field, hwhole,
    List.takeWhile_cons_of_neg (by decide), List.takeWhile_nil]

theorem queryField?_single (name value : String) :
    queryField? name (encodeField name ++ "=" ++ encodeField value) = some value :=
  (queryField?_field name name value).trans (if_pos rfl)

theorem length_le_utf8ByteSize (cs : List Char) : cs.length ≤ (String.ofList cs).utf8ByteSize := by
  induction cs with
  | nil => simp
  | cons c cs ih =>
    have hc : 0 < c.utf8Size := c.utf8Size_pos
    rw [← List.singleton_append, String.ofList_append, String.utf8ByteSize_append,
      List.length_append]
    have hone : (String.ofList [c]).utf8ByteSize = c.utf8Size := String.utf8ByteSize_singleton
    simp only [List.length_singleton]
    omega

theorem utf8ByteSize_of_ascii {cs : List Char} (h : ∀ c ∈ cs, c.toNat < 128) :
    (String.ofList cs).utf8ByteSize = cs.length := by
  induction cs with
  | nil => simp
  | cons c cs ih =>
    have hbound : c.val.toNat < 128 := h c List.mem_cons_self
    have hc : c.utf8Size = 1 := Char.utf8Size_eq_one_iff.2 (UInt32.le_iff_toNat_le.2 (by
      simp only [UInt32.reduceToNat]
      omega))
    have hone : (String.ofList [c]).utf8ByteSize = c.utf8Size := String.utf8ByteSize_singleton
    rw [← List.singleton_append, String.ofList_append, String.utf8ByteSize_append,
      ih fun d hd => h d (List.mem_cons_of_mem c hd), hone, hc, List.length_append,
      List.length_singleton]

theorem utf8ByteSize_encodeField_le (s : String) :
    (encodeField s).utf8ByteSize ≤ 3 * s.utf8ByteSize := by
  have hascii : ∀ c ∈ (encodeField s).toList, c.toNat < 128 := by
    intro c hc
    rcases mem_encodeField hc with h | rfl | rfl
    · exact lt_of_isFormPlain h
    · decide
    · decide
  rw [← String.ofList_toList (s := encodeField s), utf8ByteSize_of_ascii hascii, encodeField,
    String.toList_ofList, ← length_utf8]
  induction utf8 s with
  | nil => simp
  | cons b bytes ih =>
    rw [List.flatMap_cons, List.length_append, List.length_cons]
    have hone : (if b = 32 then ['+'] else if (decide (b < 128) && isFormPlain (Char.ofNat b.toNat))
        then [Char.ofNat b.toNat] else percentByte b).length ≤ 3 := by
      split
      · decide
      · split
        · simp
        · exact Nat.le_refl 3
    dsimp only at ih ⊢
    omega

theorem utf8ByteSize_le_flatMap {spell : UInt8 → List Char} (h : ∀ b, spell b ≠ []) (s : String) :
    s.utf8ByteSize ≤ (String.ofList ((utf8 s).flatMap spell)).utf8ByteSize := by
  refine Nat.le_trans ?_ (length_le_utf8ByteSize _)
  rw [← length_utf8]
  induction utf8 s with
  | nil => simp
  | cons b bytes ih =>
    rw [List.flatMap_cons, List.length_append, List.length_cons, Nat.add_comm]
    exact Nat.add_le_add (List.length_pos_iff.2 (h b)) ih

theorem utf8ByteSize_le_percentEncode (plain : Char → Bool) (s : String) :
    s.utf8ByteSize ≤ (percentEncode plain s).utf8ByteSize := by
  refine utf8ByteSize_le_flatMap (fun b => ?_) s
  dsimp only
  split <;> simp [percentByte]

theorem utf8ByteSize_le_encodeField (s : String) :
    s.utf8ByteSize ≤ (encodeField s).utf8ByteSize := by
  refine utf8ByteSize_le_flatMap (fun b => ?_) s
  dsimp only
  split
  · simp
  · split <;> simp [percentByte]

end Keyspace.Text
