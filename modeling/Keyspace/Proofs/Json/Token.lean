import Keyspace.Json.Parser
import Keyspace.Json.Printer
import Keyspace.Proofs.Binary64

set_option autoImplicit false

namespace Keyspace.Json

inductive WritesChar (c : Char) : List Char → List Char → Prop where
  | plain {t : List Char} (h : 0x20 ≤ c.toNat) (hquote : c ≠ '"') (hslash : c ≠ '\\') :
    WritesChar c (c :: t) t
  | short {e : Char} {t : List Char} (h : shortEscape? e = some c) :
    WritesChar c ('\\' :: e :: t) t
  | unit {h₁ h₂ h₃ h₄ : Char} {t : List Char} (h : codeUnit? h₁ h₂ h₃ h₄ = some c.toNat) :
    WritesChar c ('\\' :: 'u' :: h₁ :: h₂ :: h₃ :: h₄ :: t) t
  | pair {h₁ h₂ h₃ h₄ l₁ l₂ l₃ l₄ : Char} {high low : Nat} {t : List Char}
    (hhigh : codeUnit? h₁ h₂ h₃ h₄ = some high) (hlow : codeUnit? l₁ l₂ l₃ l₄ = some low)
    (isHigh : isHighSurrogate high = true) (isLow : isLowSurrogate low = true)
    (h : c = Char.ofNat (0x10000 + (high - 0xD800) * 0x400 + (low - 0xDC00))) :
    WritesChar c ('\\' :: 'u' :: h₁ :: h₂ :: h₃ :: h₄ ::
      '\\' :: 'u' :: l₁ :: l₂ :: l₃ :: l₄ :: t) t

def WritesChars : List Char → List Char → List Char → Prop
  | [], t, rest => t = '"' :: rest
  | c :: cs, t, rest => ∃ t', WritesChar c t t' ∧ WritesChars cs t' rest

theorem not_isSurrogate (c : Char) : isLowSurrogate c.toNat = false ∧
    isHighSurrogate c.toNat = false := by
  have hvalid := c.valid
  simp only [UInt32.isValidChar, Nat.isValidChar] at hvalid
  simp only [isLowSurrogate, isHighSurrogate, Bool.and_eq_false_iff, decide_eq_false_iff_not]
  change c.toNat < 0xd800 ∨ 0xdfff < c.toNat ∧ c.toNat < 0x110000 at hvalid
  omega

theorem WritesChar.readString {c : Char} {t t' : List Char} (h : WritesChar c t t')
    (acc : List Char) : readString acc t = Json.readString (c :: acc) t' := by
  cases h with
  | plain h hquote hslash =>
    rw [Json.readString, if_neg (Nat.not_lt.2 h)]
    · exact hquote
    · exact fun _ _ _ _ _ h => absurd h hslash
    · exact fun _ _ h => absurd h hslash
  | @short e _ h =>
    have hunit : e ≠ 'u' := by
      rintro rfl
      cases h
    rw [Json.readString, h]
    rintro _ _ _ _ _ rfl
    exact absurd rfl hunit
  | unit h =>
    have hplain := not_isSurrogate c
    simp only [Json.readString, h, hplain.1, hplain.2, Bool.false_eq_true, if_false,
      Char.ofNat_toNat]
  | @pair _ _ _ _ _ _ _ _ high low _ hhigh hlow isHigh isLow h =>
    have hnot : isLowSurrogate high = false := by
      simp only [isHighSurrogate, isLowSurrogate, Bool.and_eq_true, decide_eq_true_eq,
        Bool.and_eq_false_iff, decide_eq_false_iff_not] at isHigh ⊢
      omega
    simp only [Json.readString, hhigh, hlow, isHigh, isLow, hnot, Bool.false_eq_true, if_false,
      if_true, h]

theorem WritesChars.readString {cs t rest : List Char} (h : WritesChars cs t rest)
    (acc : List Char) :
    readString acc t = some (String.ofList (acc.reverse ++ cs), rest) := by
  induction cs generalizing acc t with
  | nil =>
    rw [WritesChars] at h
    simp [h, Json.readString]
  | cons c cs ih =>
    obtain ⟨t', hc, hcs⟩ := h
    rw [hc.readString, ih hcs]
    simp

theorem writesChar_escapedChar (c : Char) (t : List Char) :
    WritesChar c (escapedChar c ++ t) t := by
  unfold escapedChar
  split
  · subst_vars; exact .short rfl
  split
  · subst_vars; exact .short rfl
  split
  · subst_vars; exact .short rfl
  split
  · subst_vars; exact .short rfl
  split
  · subst_vars; exact .short rfl
  split
  · subst_vars; exact .short rfl
  split
  · subst_vars; exact .short rfl
  split
  · rename_i hlow
    have hall : ∀ n < 0x20, codeUnit? '0' '0' (if n < 0x10 then '0' else '1')
        (Nat.digitChar (n % 16)) = some n := by decide
    exact .unit (hall c.toNat hlow)
  · rename_i hquote hslash _ _ _ _ _ hplain
    exact .plain (Nat.not_lt.1 hplain) hquote hslash

theorem writesChars_escaped (cs rest : List Char) :
    WritesChars cs (cs.flatMap escapedChar ++ '"' :: rest) rest := by
  induction cs with
  | nil => rfl
  | cons c cs ih =>
    rw [List.flatMap_cons, List.append_assoc]
    exact ⟨_, writesChar_escapedChar c _, ih⟩

/-- Nothing that could go on with a number comes next. -/
def EndsNumber (rest : List Char) : Prop :=
  ∀ c ∈ rest.head?, c.isDigit = false ∧ c ≠ '.' ∧ c ≠ 'e' ∧ c ≠ 'E'

theorem span_digits {ds rest : List Char} (hds : ∀ c ∈ ds, c.isDigit = true)
    (hrest : ∀ c ∈ rest.head?, c.isDigit = false) :
    (ds ++ rest).takeWhile Char.isDigit = ds ∧ (ds ++ rest).dropWhile Char.isDigit = rest := by
  rw [List.takeWhile_append_of_pos hds, List.dropWhile_append_of_pos hds]
  cases rest with
  | nil => simp
  | cons c rest => simp [hrest c rfl]

def Digits (ds : List Char) : Prop := ds ≠ [] ∧ ∀ c ∈ ds, c.isDigit = true

namespace Digits

variable {ds : List Char}

theorem length_pos (h : Digits ds) : 0 < ds.length := List.length_pos_iff.2 h.1

theorem toDigits (n : Nat) : Digits (Nat.toDigits 10 n) :=
  ⟨Nat.toDigits_ne_nil, fun _ => Nat.isDigit_of_mem_toDigits (by decide) (by decide)⟩

theorem zero : Digits ['0'] := ⟨by decide, List.forall_mem_singleton.2 (by decide)⟩

theorem isDigit_of_mem_zeros {n : Nat} {c : Char} (h : c ∈ List.replicate n '0') :
    c.isDigit = true := by
  rw [List.eq_of_mem_replicate h]
  decide

theorem append_zeros (h : Digits ds) (n : Nat) : Digits (ds ++ List.replicate n '0') :=
  ⟨List.append_ne_nil_of_left_ne_nil h.1 _,
    fun c hc => (List.mem_append.1 hc).elim (h.2 c) isDigit_of_mem_zeros⟩

theorem zeros_append (h : Digits ds) (n : Nat) : Digits (List.replicate n '0' ++ ds) :=
  ⟨List.append_ne_nil_of_right_ne_nil _ h.1,
    fun c hc => (List.mem_append.1 hc).elim isDigit_of_mem_zeros (h.2 c)⟩

theorem take (h : Digits ds) {n : Nat} (hn : 0 < n) : Digits (ds.take n) := by
  refine ⟨?_, fun c hc => h.2 c (List.mem_of_mem_take hc)⟩
  have hpos := h.length_pos
  rw [← List.length_pos_iff, List.length_take]
  omega

theorem drop (h : Digits ds) {n : Nat} (hn : n < ds.length) : Digits (ds.drop n) := by
  refine ⟨?_, fun c hc => h.2 c (List.mem_of_mem_drop hc)⟩
  rw [← List.length_pos_iff, List.length_drop]
  omega

end Digits

/-- The parts of a number's text. The exponent has a sign, and is negative if that says so. -/
structure Numeral where
  negative : Bool
  whole : List Char
  fraction : Option (List Char)
  exponent : Option (Bool × List Char)

namespace Numeral

def fractionText : Option (List Char) → List Char
  | none => []
  | some ds => '.' :: ds

def exponentText : Option (Bool × List Char) → List Char
  | none => []
  | some (negative, ds) => 'e' :: (if negative then '-' else '+') :: ds

def unsigned (p : Numeral) : List Char :=
  p.whole ++ fractionText p.fraction ++ exponentText p.exponent

def text (p : Numeral) : List Char := (if p.negative then ['-'] else []) ++ p.unsigned

structure Valid (p : Numeral) : Prop where
  whole : Digits p.whole
  fraction : ∀ ds ∈ p.fraction, Digits ds
  exponent : ∀ e ∈ p.exponent, Digits e.2

def value? (p : Numeral) : Option Number :=
  if p.whole.head? = some '0' ∧ p.whole.length ≠ 1 then none
  else Number.ofParts p.negative p.whole p.fraction (p.exponent.map fun e =>
    if e.1 then -(Text.decimal e.2 : Int) else Text.decimal e.2)

/-- Few digits before the point, and no exponent; or one digit and an exponent, and the parts of the
decimal. -/
def Spells (p : Numeral) (d : Binary64.Decimal) : Prop :=
  p.exponent = none ∧ p.fraction.isSome ∧ p.whole.length ≤ 16 ∨
    ∃ e, p.exponent = some e ∧ p.whole.length = 1 ∧
      Nat.ofDigitChars 10 (p.whole ++ p.fraction.getD []) 0 = d.digits ∧
      (if e.1 then -(Text.decimal e.2 : Int) else Text.decimal e.2) -
        (p.fraction.getD []).length = d.exponent

variable {rest : List Char}

theorem readExponent_append {e : Option (Bool × List Char)}
    (he : ∀ p ∈ e, Digits p.2) (hrest : EndsNumber rest) :
    readExponent (exponentText e ++ rest) = some (e.map fun p =>
      if p.1 then -(Text.decimal p.2 : Int) else Text.decimal p.2, rest) := by
  cases e with
  | none =>
    cases rest with
    | nil => rfl
    | cons c rest =>
      obtain ⟨-, -, hlower, hupper⟩ := hrest c rfl
      simp [exponentText, readExponent, hlower, hupper]
  | some p =>
    obtain ⟨negative, ds⟩ := p
    obtain ⟨hne, hds⟩ := he _ rfl
    obtain ⟨htaken, hleft⟩ := span_digits hds fun c hc => (hrest c hc).1
    cases negative <;> simp [exponentText, readExponent, htaken, hleft, hne]

theorem readFraction_append {f : Option (List Char)}
    (hf : ∀ ds ∈ f, Digits ds)
    (hrest : ∀ c ∈ rest.head?, c.isDigit = false ∧ c ≠ '.') :
    readFraction (fractionText f ++ rest) = some (f, rest) := by
  cases f with
  | none =>
    rw [fractionText, List.nil_append, readFraction]
    rintro tail rfl
    exact (hrest '.' rfl).2 rfl
  | some ds =>
    obtain ⟨hne, hds⟩ := hf ds rfl
    obtain ⟨htaken, hleft⟩ := span_digits hds fun c hc => (hrest c hc).1
    simp [fractionText, readFraction, htaken, hleft, hne]

/-- A numeral that nothing goes on with is read as its parts. -/
theorem readNumber_append {p : Numeral} (h : p.Valid) (hrest : EndsNumber rest) :
    readNumber (p.text ++ rest) = p.value?.map fun n => (n, rest) := by
  obtain ⟨hwhole, hdigits⟩ := h.whole
  have hexponent : ∀ c ∈ (exponentText p.exponent ++ rest).head?, c.isDigit = false ∧ c ≠ '.' := by
    cases p.exponent with
    | none => exact fun c hc => ⟨(hrest c hc).1, (hrest c hc).2.1⟩
    | some e =>
      rintro c ⟨⟩
      decide
  have hfraction : ∀ c ∈ (fractionText p.fraction ++ (exponentText p.exponent ++ rest)).head?,
      c.isDigit = false := by
    cases p.fraction with
    | none => exact fun c hc => (hexponent c hc).1
    | some ds =>
      rintro c ⟨⟩
      decide
  obtain ⟨htaken, hleft⟩ := span_digits hdigits hfraction
  -- The sign comes off first; without one, the text starts with a digit.
  have hsign : readMinus (p.text ++ rest) = (p.negative, p.whole ++
      (fractionText p.fraction ++ (exponentText p.exponent ++ rest))) := by
    cases hneg : p.negative with
    | true => simp [text, unsigned, hneg, readMinus]
    | false =>
      obtain ⟨c, tail, hcons⟩ := List.exists_cons_of_ne_nil hwhole
      have hc : c ≠ '-' := by
        rintro rfl
        exact absurd (hdigits '-' (by simp [hcons])) (by decide)
      simp [text, unsigned, hneg, hcons, hc, readMinus]
  rw [readNumber, hsign]
  simp only [htaken, hleft, value?]
  by_cases hzero : p.whole.head? = some '0' ∧ p.whole.length ≠ 1
  · simp [hzero.1, hzero.2]
  · have hplain : (p.whole.isEmpty || (p.whole.head? == some '0' && p.whole.length ≠ 1)) =
        false := by
      rw [List.isEmpty_eq_false_iff.2 hwhole, Bool.false_or, Bool.eq_false_iff]
      simpa using hzero
    rw [hplain, if_neg hzero]
    simp [readFraction_append h.fraction hexponent, readExponent_append h.exponent hrest,
      Option.map_eq_bind]

end Numeral

open Numeral (fractionText exponentText)

namespace Number

def plain (negative : Bool) (n : Nat) : Numeral := ⟨negative, Nat.toDigits 10 n, none, none⟩

theorem valid_plain (negative : Bool) (n : Nat) : (plain negative n).Valid where
  whole := .toDigits n
  fraction _ h := by cases h
  exponent _ h := by cases h

theorem head?_toDigits_ne (n : Nat) (h : (Nat.toDigits 10 n).head? = some '0') : n = 0 := by
  induction n using Nat.strongRecOn with
  | _ n ih =>
    by_cases hsmall : n < 10
    · rw [Nat.toDigits_of_lt_base hsmall] at h
      simpa using h
    · rw [Nat.toDigits_of_base_le (by decide) (Nat.not_lt.1 hsmall),
        List.head?_append, Option.or_of_isSome (by simp [Nat.toDigits_ne_nil])] at h
      have hzero := ih (n / 10) (by omega) h
      omega

theorem absorbDigits_of_lt {ds : List Char} {significand : Nat}
    (h : Nat.ofDigitChars 10 ds significand < 2 ^ 64) :
    absorbDigits significand ds = (Nat.ofDigitChars 10 ds significand, ds.length) := by
  induction ds generalizing significand with
  | nil => rfl
  | cons d ds ih =>
    have hcons : Nat.ofDigitChars 10 (d :: ds) significand =
        Nat.ofDigitChars 10 ds (significand * 10 + (d.toNat - 48)) := by
      rw [Nat.ofDigitChars_cons, Nat.mul_comm]
      rfl
    rw [hcons] at h ⊢
    have hle : significand * 10 + (d.toNat - 48) ≤
        Nat.ofDigitChars 10 ds (significand * 10 + (d.toNat - 48)) := by
      rw [Nat.ofDigitChars_eq_ofDigitChars_zero]
      exact Nat.le_trans (Nat.le_mul_of_pos_left _ (Nat.pow_pos (by decide))) (Nat.le_add_right ..)
    simp only [absorbDigits, if_pos (Nat.lt_of_le_of_lt hle h), ih h, List.length_cons]

theorem absorbDigits_lt {ds : List Char} {significand : Nat} (h : significand < 2 ^ 64) :
    (absorbDigits significand ds).1 < 2 ^ 64 := by
  induction ds generalizing significand with
  | nil => exact h
  | cons d ds ih =>
    simp only [absorbDigits]
    split
    · exact ih ‹_›
    · exact h

/-- The first digit, the others behind a point, and the exponent of the first one's place. -/
def scientific (negative : Bool) (ds : List Char) (point : Int) : Numeral :=
  ⟨negative, ds.take 1, if ds.length = 1 then none else some (ds.drop 1),
    some (decide ¬ 0 < point, Nat.toDigits 10 (point - 1).natAbs)⟩

section Scientific

variable (negative : Bool) {ds : List Char}

theorem valid_scientific (h : Digits ds) (point : Int) : (scientific negative ds point).Valid where
  whole := h.take Nat.one_pos
  fraction tail htail := by
    have hpos := h.length_pos
    simp only [scientific] at htail
    split at htail
    · cases htail
    · cases htail
      exact h.drop (by omega)
  exponent e he := by
    cases he
    exact .toDigits _

theorem unsigned_scientific (ds : List Char) (point : Int) :
    (scientific negative ds point).unsigned =
      ds.take 1 ++ (if ds.length = 1 then [] else '.' :: ds.drop 1) ++
        'e' :: (if 0 < point then '+' else '-') :: Nat.toDigits 10 (point - 1).natAbs := by
  have hsign : (if (decide ¬ 0 < point) = true then '-' else '+') =
      if 0 < point then '+' else '-' := by
    by_cases hpoint : 0 < point <;> simp [hpoint]
  rw [Numeral.unsigned, scientific, exponentText, hsign]
  by_cases hlength : ds.length = 1 <;> simp [fractionText, hlength]

theorem getD_fraction_scientific (ds : List Char) (point : Int) :
    (scientific negative ds point).fraction.getD [] = ds.drop 1 := by
  simp only [scientific]
  split
  · rw [List.drop_eq_nil_of_le (by omega)]
    rfl
  · rfl

theorem spells_scientific (h : Digits ds) {d : Binary64.Decimal}
    (hnumber : Nat.ofDigitChars 10 ds 0 = d.digits) :
    (scientific negative ds (ds.length + d.exponent)).Spells d := by
  have hpos := h.length_pos
  refine .inr ⟨_, rfl, ?_, ?_, ?_⟩
  · rw [scientific, List.length_take]
    omega
  · rw [getD_fraction_scientific, scientific, List.take_append_drop, hnumber]
  · rw [getD_fraction_scientific, Text.decimal, Nat.ofDigitChars_ten_toDigits, List.length_drop]
    by_cases hpoint : 0 < ds.length + d.exponent
    · simp only [hpoint, not_true, decide_false, Bool.false_eq_true, if_false]
      omega
    · simp only [hpoint, not_false_eq_true, decide_true, if_true]
      omega

end Scientific

/-- Without an exponent: zeros behind the digits or before them, or the point between them. With
one: the digits as they are. -/
theorem exists_numeral_decimal (negative : Bool) (d : Binary64.Decimal) :
    ∃ p : Numeral, p.Valid ∧ p.negative = negative ∧ p.unsigned = (decimalText d).toList ∧
      p.Spells d ∧ ((d.digits = 0 → d.exponent = 0) →
        ¬ (p.whole.head? = some '0' ∧ p.whole.length ≠ 1)) := by
  have hds : Digits (Nat.toDigits 10 d.digits) := .toDigits _
  have hhead := head?_toDigits_ne d.digits
  have hzero : d.digits = 0 → (Nat.toDigits 10 d.digits).length = 1 := fun h => by rw [h]; rfl
  have hnumber : Nat.ofDigitChars 10 (Nat.toDigits 10 d.digits) 0 = d.digits :=
    Nat.ofDigitChars_ten_toDigits
  simp only [decimalText, String.toList_ofList]
  generalize Nat.toDigits 10 d.digits = ds at hds hhead hzero hnumber
  have hpos := hds.length_pos
  split
  · refine ⟨⟨negative, ds ++ List.replicate d.exponent.toNat '0', some ['0'], none⟩,
      ⟨hds.append_zeros _, fun _ h => Option.some.inj h ▸ .zero, nofun⟩, rfl,
      by simp [Numeral.unsigned, fractionText, exponentText], .inl ⟨rfl, rfl, ?_⟩, ?_⟩
    · simp only [List.length_append, List.length_replicate]
      omega
    · rintro hexponent ⟨hfirst, hlength⟩
      rw [List.head?_append_of_ne_nil _ hds.1] at hfirst
      have hnone := hhead hfirst
      rw [List.length_append, hzero hnone, hexponent hnone] at hlength
      exact hlength rfl
  split
  · refine ⟨⟨negative, ds.take (ds.length + d.exponent).toNat,
      some (ds.drop (ds.length + d.exponent).toNat), none⟩,
      ⟨hds.take (by omega), fun _ h => Option.some.inj h ▸ hds.drop (by omega), nofun⟩, rfl,
      by simp [Numeral.unsigned, fractionText, exponentText], .inl ⟨rfl, rfl, ?_⟩, ?_⟩
    · simp only [List.length_take]
      omega
    · rintro hexponent ⟨hfirst, -⟩
      rw [List.head?_take, if_neg (by omega)] at hfirst
      have hnone := hexponent (hhead hfirst)
      omega
  split
  · exact ⟨⟨negative, ['0'], some (List.replicate (-(ds.length + d.exponent)).toNat '0' ++ ds),
      none⟩, ⟨.zero, fun _ h => Option.some.inj h ▸ hds.zeros_append _, nofun⟩, rfl,
      by simp [Numeral.unsigned, fractionText, exponentText], .inl ⟨rfl, rfl, by simp⟩,
      fun _ h => h.2 rfl⟩
  · refine ⟨scientific negative ds (ds.length + d.exponent), valid_scientific negative hds _, rfl,
      unsigned_scientific .., spells_scientific negative hds hnumber, fun _ h => h.2 ?_⟩
    rw [scientific, List.length_take]
    omega

theorem text_plain (negative : Bool) (n : Nat) :
    (plain negative n).text = (if negative then ['-'] else []) ++ (toString n).toList := by
  cases negative <;>
    simp [plain, Numeral.text, Numeral.unsigned, fractionText, exponentText, Nat.toList_repr]

theorem isSome_value?_of_spells {p : Numeral} {d : Binary64.Decimal} (h : p.Spells d)
    (hhead : ¬ (p.whole.head? = some '0' ∧ p.whole.length ≠ 1)) (hdigits : d.digits < 2 ^ 64)
    (hread : (Binary64.ofDecimal p.negative d.digits d.exponent).isSome) :
    ∃ x, p.value? = some (.float x) := by
  rw [Numeral.value?, if_neg hhead, ofParts]
  rcases h with ⟨hexponent, hfraction, hlength⟩ | ⟨e, hexponent, hlength, hnumber, hplaces⟩
  · have hnone : p.fraction.isNone = false := by simpa using hfraction
    simp only [hnone, Bool.false_and, Bool.false_eq_true, if_false, hexponent, Option.map_none,
      Option.getD_none]
    have hlimit : (absorbDigits (absorbDigits 0 p.whole).1 (p.fraction.getD [])).1 < 2 ^ 64 :=
      absorbDigits_lt (absorbDigits_lt (by decide))
    have hread : (Binary64.ofDecimal p.negative
        (absorbDigits (absorbDigits 0 p.whole).1 (p.fraction.getD [])).1
        (((p.whole.length - (absorbDigits 0 p.whole).2 : Nat) : Int) -
          (absorbDigits (absorbDigits 0 p.whole).1 (p.fraction.getD [])).2 + 0)).isSome :=
      Binary64.isSome_ofDecimal hlimit (.inl (by omega))
    obtain ⟨x, hx⟩ := Option.isSome_iff_exists.1 hread
    exact ⟨x, by rw [hx]; rfl⟩
  · rw [Nat.ofDigitChars_append] at hnumber
    have hfirst : Nat.ofDigitChars 10 p.whole 0 ≤ d.digits := by
      rw [← hnumber, Nat.ofDigitChars_eq_ofDigitChars_zero (l := p.fraction.getD [])]
      exact Nat.le_trans (Nat.le_mul_of_pos_left _ (Nat.pow_pos (by decide))) (Nat.le_add_right ..)
    have hwhole : absorbDigits 0 p.whole = (Nat.ofDigitChars 10 p.whole 0, p.whole.length) :=
      absorbDigits_of_lt (by omega)
    have hrest : absorbDigits (Nat.ofDigitChars 10 p.whole 0) (p.fraction.getD []) =
        (d.digits, (p.fraction.getD []).length) := by
      rw [absorbDigits_of_lt (by omega), hnumber]
    obtain ⟨x, hx⟩ := Option.isSome_iff_exists.1 hread
    refine ⟨x, ?_⟩
    simp only [hexponent, Option.map_some, Option.isNone_some, Bool.and_false, Bool.false_and,
      Bool.false_eq_true, if_false, hwhole, hrest, Option.getD_some, Nat.sub_self]
    rw [← hplaces] at hx
    rw [show ((0 : Nat) : Int) - (p.fraction.getD []).length +
      (if e.1 then -(Text.decimal e.2 : Int) else Text.decimal e.2) =
      (if e.1 then -(Text.decimal e.2 : Int) else Text.decimal e.2) -
        (p.fraction.getD []).length by omega, hx]
    rfl

theorem exists_numeral_float (x : Binary64) : ∃ p : Numeral, p.Valid ∧
    p.text = (text (.float x)).toList ∧ ∃ y, p.value? = some (.float y) := by
  by_cases hzero : x.rank = 0
  · refine ⟨⟨x.negative, ['0'], some ['0'], none⟩,
      ⟨.zero, fun _ h => Option.some.inj h ▸ .zero, nofun⟩, ?_, ?_⟩
    · cases hneg : x.negative <;>
        simp [Numeral.text, Numeral.unsigned, fractionText, exponentText, text, floatText, hzero,
          hneg]
    · cases x.negative
      · exact ⟨Binary64.zero false, by decide +kernel⟩
      · exact ⟨Binary64.zero true, by decide +kernel⟩
  · obtain ⟨p, hp, hnegative, htext, hspells, hhead⟩ :=
      exists_numeral_decimal x.negative (Binary64.shortest x.rank)
    obtain ⟨hdigits, hexponent, hread⟩ :=
      Binary64.isSome_ofDecimal_shortest x (by omega) x.negative
    refine ⟨p, hp, ?_, isSome_value?_of_spells hspells (hhead hexponent) (by omega)
      (by rwa [hnegative])⟩
    cases hneg : x.negative <;> simp [Numeral.text, hnegative, htext, text, floatText, hzero, hneg]

theorem value?_plain {n : Nat} (h : n < 2 ^ 64) (negative : Bool) :
    (plain negative n).value? =
      if !negative then some (.natural (UInt64.ofNat n))
      else if h : 0 < n ∧ n ≤ 2 ^ 63 then some (.negative ⟨n - 1, by omega⟩)
      else (Binary64.ofDecimal true n 0).map .float := by
  have hlead : ¬ ((Nat.toDigits 10 n).head? = some '0' ∧ (Nat.toDigits 10 n).length ≠ 1) := by
    rintro ⟨hhead, hlength⟩
    rw [head?_toDigits_ne n hhead] at hlength
    exact hlength rfl
  have habsorb : absorbDigits 0 (Nat.toDigits 10 n) = (n, (Nat.toDigits 10 n).length) := by
    rw [absorbDigits_of_lt (by rwa [Nat.ofDigitChars_ten_toDigits]), Nat.ofDigitChars_ten_toDigits]
  rw [Numeral.value?, plain, if_neg hlead]
  simp only [Option.map_none, ofParts, habsorb, Option.isNone_none, Bool.true_and, beq_self_eq_true,
    if_true]

theorem exists_value? (n : Number) :
    ∃ p : Numeral, p.Valid ∧ p.text = n.text.toList ∧ p.value?.isSome := by
  cases n with
  | natural n =>
    exact ⟨_, valid_plain false n.toNat, text_plain .., by simp [value?_plain n.toNat_lt]⟩
  | negative n =>
    have hlt := n.isLt
    refine ⟨_, valid_plain true (n.val + 1), by simp [text_plain, text], ?_⟩
    rw [value?_plain (by omega)]
    simp [Nat.succ_le_of_lt hlt]
  | float x =>
    obtain ⟨p, hp, htext, y, hread⟩ := exists_numeral_float x
    exact ⟨p, hp, htext, by rw [hread]; rfl⟩

/-- The number that the reader makes of a number's text. -/
def reread (n : Number) : Number := ((readNumber n.text.toList).map (·.1)).getD n

theorem readNumber_text (n : Number) {rest : List Char} (hrest : EndsNumber rest) :
    readNumber (n.text.toList ++ rest) = some (n.reread, rest) := by
  obtain ⟨p, hp, htext, hread⟩ := exists_value? n
  obtain ⟨m, hm⟩ := Option.isSome_iff_exists.1 hread
  have hend : EndsNumber [] := fun c hc => by cases hc
  have hself := Numeral.readNumber_append hp hend
  rw [List.append_nil, htext, hm] at hself
  rw [reread, hself, ← htext, Numeral.readNumber_append hp hrest, hm]
  rfl

theorem reread_eq_of_value? {n m : Number} {p : Numeral} (hp : p.Valid)
    (htext : p.text = n.text.toList) (h : p.value? = some m) : n.reread = m := by
  have hend : EndsNumber [] := fun c hc => by cases hc
  have hself := Numeral.readNumber_append hp hend
  rw [htext, h, readNumber_text n hend] at hself
  simpa using hself

/-- A double is read as a double. -/
theorem exists_reread_float (x : Binary64) : ∃ y, reread (.float x) = .float y := by
  obtain ⟨p, hp, htext, y, hread⟩ := exists_numeral_float x
  exact ⟨y, reread_eq_of_value? hp htext hread⟩

theorem reread_natural (n : UInt64) : reread (.natural n) = .natural n :=
  reread_eq_of_value? (valid_plain false n.toNat) (text_plain ..)
    (by simp [value?_plain n.toNat_lt])

theorem reread_negative (n : Fin (2 ^ 63)) : reread (.negative n) = .negative n := by
  have hlt := n.isLt
  refine reread_eq_of_value? (valid_plain true (n.val + 1)) (by simp [text_plain, text]) ?_
  rw [value?_plain (by omega)]
  simp [Nat.succ_le_of_lt hlt]

end Number

end Keyspace.Json
