import Keyspace.Time.Reader

set_option autoImplicit false

namespace Keyspace

open Text (padded decimal)

theorem Text.length_padded {width n : Nat} (hw : 0 < width) (h : n < 10 ^ width) :
    (padded width n).length = width := by
  have hlen := (Nat.length_toDigits_le_iff (by decide : 1 < 10) hw).2 h
  simp only [padded, List.length_append, List.length_replicate]
  omega

theorem Text.padded_ne_nil {width n : Nat} : padded width n ≠ [] := by
  simp [padded, Nat.toDigits_ne_nil]

theorem Text.isBlank_of_isDigit {c : Char} (h : c.isDigit = true) : Text.isBlank c = false := by
  simp only [Char.isDigit, Bool.and_eq_true, decide_eq_true_eq, ge_iff_le] at h
  have h1 : 48 ≤ c.toNat := h.1
  have h2 : c.toNat ≤ 57 := h.2
  rw [← Bool.not_eq_true, Text.isBlank, Text.CharClass.contains_iff]
  rintro ⟨r, hr, hl, hu⟩
  simp only [Text.CharClass.blank, List.mem_cons, List.not_mem_nil, or_false] at hr
  rcases hr with rfl | rfl | rfl | rfl | rfl | rfl | rfl | rfl | rfl | rfl <;> omega

theorem Text.dropWhile_isBlank_padded {width n : Nat} (rest : List Char) :
    (padded width n ++ rest).dropWhile Text.isBlank = padded width n ++ rest := by
  cases h : padded width n with
  | nil => exact absurd h Text.padded_ne_nil
  | cons c cs =>
    have hc : c.isDigit = true := Text.isDigit_of_mem_padded (h ▸ List.mem_cons_self)
    simp [Text.isBlank_of_isDigit hc]

namespace Instant

theorem fixed_padded {width n : Nat} (rest : List Char) (hw : 0 < width) (h : n < 10 ^ width) :
    fixed width (padded width n ++ rest) = some (n, rest) := by
  have hlen := Text.length_padded hw h
  have htake : (padded width n ++ rest).take width = padded width n := List.take_left' hlen
  have hdrop : (padded width n ++ rest).drop width = rest := List.drop_left' hlen
  have hdigits : (padded width n).all Char.isDigit = true :=
    List.all_eq_true.2 fun _ => Text.isDigit_of_mem_padded
  rw [fixed, htake, hdrop]
  simp only [hlen, hdigits, Text.decimal_padded, and_self, if_true]

/-- The text goes on with no digit, so the digits of a number end where the number does. -/
def NoDigit (rest : List Char) : Prop := ∀ c ∈ rest.head?, c.isDigit = false

theorem NoDigit.takeWhile_eq {rest : List Char} (h : NoDigit rest) :
    rest.takeWhile Char.isDigit = [] := by
  cases rest with
  | nil => rfl
  | cons c rest => simp [h c rfl]

theorem NoDigit.dropWhile_eq {rest : List Char} (h : NoDigit rest) :
    rest.dropWhile Char.isDigit = rest := by
  cases rest with
  | nil => rfl
  | cons c rest => simp [h c rfl]

theorem NoDigit.take {rest : List Char} (h : NoDigit rest) (n : Nat) : NoDigit (rest.take n) := by
  intro c hc
  rw [List.head?_take] at hc
  split at hc
  · cases hc
  · exact h c hc

theorem upTo_padded {width limit n : Nat} {rest : List Char}
    (hlen : (padded width n).length ≤ limit) (hrest : NoDigit rest) :
    upTo limit (padded width n ++ rest) = some (n, rest) := by
  have hdigits : ∀ c ∈ padded width n, c.isDigit = true := fun _ => Text.isDigit_of_mem_padded
  have hspan : ((padded width n ++ rest).take limit).takeWhile Char.isDigit = padded width n := by
    rw [List.take_append, List.take_of_length_le hlen, List.takeWhile_append_of_pos hdigits,
      (hrest.take _).takeWhile_eq, List.append_nil]
  have hne : (padded width n).isEmpty = false := by simp [Text.padded_ne_nil]
  simp [upTo, hspan, hne, Text.decimal_padded]

theorem laxNumber_padded {n : Nat} {rest : List Char} (h : n < 100) (hrest : NoDigit rest) :
    laxNumber (padded 2 n ++ rest) = some (n, rest) := by
  rw [laxNumber, Text.dropWhile_isBlank_padded]
  exact upTo_padded (Nat.le_of_eq (Text.length_padded (by decide) h)) hrest

theorem expect_cons (c : Char) (rest : List Char) : expect c (c :: rest) = some rest := by
  simp [expect]

theorem fraction_padded {width n : Nat} {rest : List Char} (hw : 0 < width) (hw' : width ≤ 9)
    (h : n < 10 ^ width) (hrest : NoDigit rest) :
    fraction ('.' :: (padded width n ++ rest)) = some (n * 10 ^ (9 - width), rest) := by
  have hlen := Text.length_padded hw h
  have hdigits : ∀ c ∈ padded width n, c.isDigit = true := fun _ => Text.isDigit_of_mem_padded
  have htake : (padded width n).take 9 = padded width n := List.take_of_length_le (by omega)
  have hne : (padded width n).isEmpty = false := by simp [Text.padded_ne_nil]
  rw [fraction, List.takeWhile_append_of_pos hdigits, List.dropWhile_append_of_pos hdigits,
    hrest.takeWhile_eq, hrest.dropWhile_eq, List.append_nil]
  simp [htake, hlen, Text.decimal_padded, Text.padded_ne_nil]

theorem fraction_fractionText {nano : Nat} (h : nano < 1000000000) :
    fraction (fractionText nano ++ ['Z']) = some (nano, ['Z']) := by
  have hz : NoDigit ['Z'] := by simp [NoDigit]
  unfold fractionText
  split
  · rename_i h0
    subst h0
    rfl
  · split
    · rw [List.cons_append, fraction_padded (by decide) (by decide) (by omega) hz]
      simp; omega
    · split
      · rw [List.cons_append, fraction_padded (by decide) (by decide) (by omega) hz]
        simp; omega
      · rw [List.cons_append, fraction_padded (by decide) (by decide) (by omega) hz]
        simp

/-- The years that a text gives in four digits. -/
def InRange (t : Instant) : Prop := 0 ≤ t.date.year ∧ t.date.year ≤ 9999

instance (t : Instant) : Decidable t.InRange := inferInstanceAs (Decidable (_ ∧ _))

def epoch : Instant := (of? 1970 1 1 0 0 0 0).get (by decide)

def tailChars (month day hour minute second nano : Nat) : List Char :=
  '-' :: (padded 2 month ++ '-' :: (padded 2 day ++ 'T' :: (padded 2 hour ++ ':' ::
    (padded 2 minute ++ ':' :: (padded 2 second ++ (fractionText nano ++ ['Z']))))))

def charsFromMonth (t : Instant) : List Char :=
  tailChars t.date.month t.date.day (t.second / 3600) (t.second / 60 % 60)
    (t.second % 60 + t.nano / 1000000000) (t.nano % 1000000000)

theorem chars_eq (t : Instant) : t.chars = yearText t.date.year ++ t.charsFromMonth := by
  simp [chars, charsFromMonth, tailChars]

theorem day_lt (d : Date) : d.day < 100 := by
  have h := d.day_le
  unfold daysInMonth at h
  repeat' split at h
  all_goals omega

theorem of?_clock (t : Instant) :
    of? t.date.year t.date.month t.date.day (t.second / 3600) (t.second / 60 % 60)
      (t.second % 60 + t.nano / 1000000000) (t.nano % 1000000000) = some t := by
  obtain ⟨date, second, nano, hs, hn⟩ := t
  have hdate : Date.of? date.year date.month date.day = some date := by
    simp [Date.of?, date.one_le_day, date.day_le]
  have hclock : second / 3600 < 24 ∧ second / 60 % 60 < 60 ∧
      second % 60 + nano / 1000000000 < 61 ∧ nano % 1000000000 < 1000000000 := by omega
  simp only [of?, hdate, hclock, Option.bind_eq_bind, Option.bind_some]
  by_cases hleap : second % 60 + nano / 1000000000 = 60
  · simp [hleap]
    omega
  · simp [hleap]
    omega

theorem noDigit_fraction (nano : Nat) : NoDigit (fractionText nano ++ ['Z']) := by
  unfold fractionText
  repeat' split
  all_goals simp [NoDigit]

theorem bind_of_eq_some {α β : Type} {x : Option α} {f : α → Option β} {a : α} (h : x = some a) :
    (x >>= f) = f a := by
  rw [h, Option.bind_eq_bind, Option.bind_some]

theorem ofStrict?_tailChars {year month day hour minute second nano : Nat} (hyear : year < 10 ^ 4)
    (hmonth : month < 10 ^ 2) (hday : day < 10 ^ 2) (hhour : hour < 10 ^ 2)
    (hminute : minute < 10 ^ 2) (hsecond : second < 10 ^ 2) (hnano : nano < 1000000000) :
    ofStrict? (padded 4 year ++ tailChars month day hour minute second nano) =
      of? year month day hour minute second nano := by
  refine (bind_of_eq_some (fixed_padded _ (by decide) hyear)).trans ?_
  refine (bind_of_eq_some (expect_cons _ _)).trans ?_
  refine (bind_of_eq_some (fixed_padded _ (by decide) hmonth)).trans ?_
  refine (bind_of_eq_some (expect_cons _ _)).trans ?_
  refine (bind_of_eq_some (fixed_padded _ (by decide) hday)).trans ?_
  refine (bind_of_eq_some rfl).trans ?_
  refine (bind_of_eq_some (fixed_padded _ (by decide) hhour)).trans ?_
  refine (bind_of_eq_some (expect_cons _ _)).trans ?_
  refine (bind_of_eq_some (fixed_padded _ (by decide) hminute)).trans ?_
  refine (bind_of_eq_some (expect_cons _ _)).trans ?_
  refine (bind_of_eq_some (fixed_padded _ (by decide) hsecond)).trans ?_
  refine (bind_of_eq_some (fraction_fractionText hnano)).trans ?_
  refine (bind_of_eq_some (rfl : offset ['Z'] = some _)).trans ?_
  dsimp only
  rw [List.isEmpty_nil, if_pos rfl]
  cases of? year month day hour minute second nano with
  | none => rfl
  | some t => exact congrArg some (fromOffset_zero t)

theorem ofStrict?_chars {t : Instant} (h : t.InRange) : ofStrict? t.chars = some t := by
  have hmonth := t.date.month_bounds
  have hday := day_lt t.date
  have hsecond := t.second_lt
  have hnano := t.nano_lt
  have hyear : yearText t.date.year = padded 4 t.date.year.toNat := if_pos h
  have hy : (t.date.year.toNat : Int) = t.date.year := Int.toNat_of_nonneg h.1
  have hlt : t.date.year.toNat < 10 ^ 4 := by have := h.2; omega
  rw [chars_eq, hyear, charsFromMonth, ofStrict?_tailChars hlt (by omega) (by omega) (by omega)
    (by omega) (by omega) (Nat.mod_lt _ (by decide)), hy, of?_clock]

theorem ofText?_text {t : Instant} (h : t.InRange) : ofText? t.text = some t := by
  simp [ofText?, text, ofStrict?_chars h]

theorem yearText_of_not_inRange {t : Instant} (h : ¬ t.InRange) :
    ∃ sign, (sign = '-' ∨ sign = '+') ∧
      yearText t.date.year = sign :: padded 4 t.date.year.natAbs := by
  refine ⟨if t.date.year < 0 then '-' else '+', ?_, if_neg h⟩
  split <;> simp

theorem ofStrict?_chars_of_not_inRange {t : Instant} (h : ¬ t.InRange) :
    ofStrict? t.chars = none := by
  obtain ⟨sign, hsign, hyear⟩ := yearText_of_not_inRange h
  have hfixed : fixed 4 t.chars = none := by
    rw [chars_eq, hyear, fixed]
    rcases hsign with rfl | rfl <;> simp
  rw [ofStrict?, hfixed, Option.bind_eq_bind, Option.bind_none]

theorem laxYear_chars_of_not_inRange {t : Instant} (h : ¬ t.InRange) :
    ∃ year, laxYear t.chars = some (year, t.charsFromMonth) := by
  obtain ⟨sign, hsign, hyear⟩ := yearText_of_not_inRange h
  have hrest : NoDigit t.charsFromMonth := by simp [NoDigit, charsFromMonth, tailChars]
  have hread : upTo (padded 4 t.date.year.natAbs ++ t.charsFromMonth).length
      (padded 4 t.date.year.natAbs ++ t.charsFromMonth) =
        some (t.date.year.natAbs, t.charsFromMonth) := upTo_padded (by simp) hrest
  rw [chars_eq, hyear]
  rcases hsign with rfl | rfl
  · refine ⟨-(t.date.year.natAbs : Int), ?_⟩
    rw [laxYear, List.cons_append, List.dropWhile_cons_of_neg (by decide)]
    simp only [hread, Option.map_some]
  · refine ⟨t.date.year.natAbs, ?_⟩
    rw [laxYear, List.cons_append, List.dropWhile_cons_of_neg (by decide)]
    simp only [hread, Option.map_some]

theorem ofLax?_tailChars {cs : List Char} {year : Int}
    {month day hour minute second nano : Nat}
    (hyear : laxYear cs = some (year, tailChars month day hour minute second nano))
    (hmonth : month < 100) (hday : day < 100) (hhour : hour < 100) (hminute : minute < 100)
    (hsecond : second < 100) (hnano : nano < 1000000000) : ofLax? cs = none := by
  have hmark {c : Char} {rest : List Char} (hc : c.isDigit = false) : NoDigit (c :: rest) := by
    simpa [NoDigit] using hc
  refine (bind_of_eq_some hyear).trans ?_
  refine (bind_of_eq_some (expect_cons _ _)).trans ?_
  refine (bind_of_eq_some (laxNumber_padded hmonth (hmark (by decide)))).trans ?_
  refine (bind_of_eq_some (expect_cons _ _)).trans ?_
  refine (bind_of_eq_some (laxNumber_padded hday (hmark (by decide)))).trans ?_
  refine (bind_of_eq_some (expect_cons _ _)).trans ?_
  refine (bind_of_eq_some (laxNumber_padded hhour (hmark (by decide)))).trans ?_
  refine (bind_of_eq_some (expect_cons _ _)).trans ?_
  refine (bind_of_eq_some (laxNumber_padded hminute (hmark (by decide)))).trans ?_
  refine (bind_of_eq_some (expect_cons _ _)).trans ?_
  refine (bind_of_eq_some (laxNumber_padded hsecond (noDigit_fraction _))).trans ?_
  refine (bind_of_eq_some (fraction_fractionText hnano)).trans ?_
  simp

theorem ofLax?_chars_of_not_inRange {t : Instant} (h : ¬ t.InRange) : ofLax? t.chars = none := by
  have hmonth := t.date.month_bounds
  have hday := day_lt t.date
  have hsecond := t.second_lt
  have hnano := t.nano_lt
  obtain ⟨year, hyear⟩ := laxYear_chars_of_not_inRange h
  exact ofLax?_tailChars hyear (by omega) hday (by omega) (by omega) (by omega)
    (Nat.mod_lt _ (by decide))

theorem ofText?_text_of_not_inRange {t : Instant} (h : ¬ t.InRange) : ofText? t.text = none := by
  simp [ofText?, text, ofStrict?_chars_of_not_inRange h, ofLax?_chars_of_not_inRange h]

end Instant

end Keyspace
