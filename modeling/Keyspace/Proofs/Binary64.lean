import Keyspace.Binary64.Shortest
import Mathlib.Algebra.Order.Field.Power
import Mathlib.Data.Nat.Cast.Order.Field
import Mathlib.Data.Rat.Cast.Order
import Mathlib.Tactic.FieldSimp
import Mathlib.Tactic.Linarith
import Mathlib.Tactic.Positivity
import Mathlib.Tactic.Ring

set_option autoImplicit false

namespace Keyspace.Binary64

def magnitude (rank : Nat) : ℚ := significand rank * 2 ^ exponent rank

theorem magnitude_nonneg (rank : Nat) : 0 ≤ magnitude rank := by
  unfold magnitude
  positivity

theorem zpow_toNat (b : ℚ) (e : ℤ) : b ^ e = b ^ e.toNat / b ^ (-e).toNat := by
  rcases le_total 0 e with h | h
  · lift e to ℕ using h
    simp
  · obtain ⟨n, rfl⟩ : ∃ n : ℕ, e = -(n : ℤ) := ⟨(-e).toNat, by omega⟩
    simp

theorem ratio_eq_magnitude (rank : Nat) :
    0 < (ratio rank).2 ∧ ((ratio rank).1 / (ratio rank).2 : ℚ) = magnitude rank := by
  refine ⟨Nat.pow_pos (by decide), ?_⟩
  rw [magnitude, zpow_toNat]
  simp only [ratio]
  push_cast
  ring

theorem floorLog2_spec {num den : Nat} (hnum : 0 < num) (hden : 0 < den) :
    (2 : ℚ) ^ floorLog2 num den ≤ num / den ∧ (num / den : ℚ) < 2 ^ (floorLog2 num den + 1) := by
  have hn : (0 : ℚ) < num := by exact_mod_cast hnum
  have hd : (0 : ℚ) < den := by exact_mod_cast hden
  have hnlow : (2 : ℚ) ^ (num.log2 : ℤ) ≤ num := by
    exact_mod_cast Nat.log2_self_le hnum.ne'
  have hdlow : (2 : ℚ) ^ (den.log2 : ℤ) ≤ den := by
    exact_mod_cast Nat.log2_self_le hden.ne'
  have hnhigh : (num : ℚ) < 2 ^ ((num.log2 : ℤ) + 1) := by
    exact_mod_cast Nat.lt_log2_self
  have hdhigh : (den : ℚ) < 2 ^ ((den.log2 : ℤ) + 1) := by
    exact_mod_cast Nat.lt_log2_self
  have hcond : den * 2 ^ ((num.log2 : ℤ) - den.log2).toNat ≤
      num * 2 ^ (-((num.log2 : ℤ) - den.log2)).toNat ↔
      (2 : ℚ) ^ ((num.log2 : ℤ) - den.log2) ≤ num / den := by
    rw [zpow_toNat, div_le_div_iff₀ (by positivity) hd, ← Nat.cast_le (α := ℚ)]
    push_cast
    rw [mul_comm (den : ℚ)]
  have hhigh : (num / den : ℚ) < 2 ^ ((num.log2 : ℤ) - den.log2 + 1) := by
    rw [div_lt_iff₀ hd, show (num.log2 : ℤ) - den.log2 + 1 = num.log2 + 1 - den.log2 by ring,
      zpow_sub₀ (by norm_num), div_mul_eq_mul_div, lt_div_iff₀ (by positivity)]
    exact mul_lt_mul hnhigh hdlow (by positivity) (by positivity)
  have hlow : (2 : ℚ) ^ ((num.log2 : ℤ) - den.log2 - 1) ≤ num / den := by
    rw [le_div_iff₀ hd, show (num.log2 : ℤ) - den.log2 - 1 = num.log2 - (den.log2 + 1) by ring,
      zpow_sub₀ (by norm_num), div_mul_eq_mul_div, div_le_iff₀ (by positivity)]
    exact mul_le_mul hnlow hdhigh.le hd.le hn.le
  unfold floorLog2
  dsimp only
  split
  · rename_i h
    exact ⟨hcond.1 h, hhigh⟩
  · rename_i h
    rw [hcond, not_le] at h
    exact ⟨hlow, by rwa [sub_add_cancel]⟩

theorem roundDiv_bounds {num den : Nat} (hden : 0 < den) :
    num / den ≤ roundDiv num den ∧ (roundDiv num den : ℚ) ≤ num / den + 1 / 2 := by
  have hd : (0 : ℚ) < den := by exact_mod_cast hden
  have hdiv : (num : ℚ) = den * (num / den : ℕ) + (num % den : ℕ) := by
    exact_mod_cast (Nat.div_add_mod num den).symm
  have hq : (num / den : ℚ) = (num / den : ℕ) + (num % den : ℕ) / den := by
    rw [div_eq_iff hd.ne', add_mul, div_mul_cancel₀ _ hd.ne', mul_comm]
    exact hdiv
  have hpos : (0 : ℚ) ≤ (num % den : ℕ) / den := by positivity
  unfold roundDiv
  dsimp only
  rw [hq]
  split
  · exact ⟨le_rfl, by linarith⟩
  · rename_i hhalf
    have hr : (1 / 2 : ℚ) ≤ (num % den : ℕ) / den := by
      rw [div_le_div_iff₀ (by norm_num) hd]
      have : den ≤ 2 * (num % den) := not_lt.1 hhalf
      have : (den : ℚ) ≤ 2 * (num % den : ℕ) := by exact_mod_cast this
      linarith
    split
    · refine ⟨Nat.le_succ _, ?_⟩
      push_cast
      linarith
    · have hodd : ((num / den % 2 : ℕ) : ℚ) ≤ 1 := by
        exact_mod_cast Nat.le_of_lt_succ (Nat.mod_lt _ (by decide))
      refine ⟨Nat.le_add_right .., ?_⟩
      push_cast at hodd ⊢
      linarith

/-- The exponent of the last place of the rank that is nearest to a quotient. -/
def placeOf (num den : Nat) : ℤ := max (floorLog2 num den - 52) (-1074)

def overflow : Nat := (2 ^ 54 - 1) * 2 ^ 970

theorem cast_two_pow (n : Nat) : ((2 ^ n : ℕ) : ℚ) = 2 ^ (n : ℤ) := by
  rw [Nat.cast_pow, Nat.cast_ofNat, zpow_natCast]

theorem cast_overflow : (overflow : ℚ) = (2 ^ 53 - 1 / 2) * 2 ^ (971 : ℤ) := by
  have hpow : (2 : ℚ) ^ (971 : ℤ) = 2 * 2 ^ (970 : ℤ) := zpow_one_add₀ two_ne_zero 970
  rw [overflow]
  simp only [Nat.cast_mul, cast_two_pow, Nat.cast_ofNat, hpow]
  generalize (2 : ℚ) ^ (970 : ℤ) = p
  norm_num
  ring

section Nearest

variable {num den : Nat} (hnum : 0 < num) (hden : 0 < den)

include hnum hden

theorem exists_nearest : ∃ m : Nat,
    nearestRank num den = (placeOf num den + 1074).toNat * 2 ^ 52 + m ∧
      m = roundDiv (num * 2 ^ (-placeOf num den).toNat) (den * 2 ^ (placeOf num den).toNat) ∧
      (m : ℚ) ≤ num / den * 2 ^ (-placeOf num den) + 1 / 2 ∧
      (num / den * 2 ^ (-placeOf num den) : ℚ) < 2 ^ 53 := by
  have hplace : 0 < den * 2 ^ (placeOf num den).toNat := Nat.mul_pos hden (Nat.pow_pos (by decide))
  have hscaled : ((num * 2 ^ (-placeOf num den).toNat : ℕ) / (den * 2 ^ (placeOf num den).toNat : ℕ)
      : ℚ) = num / den * 2 ^ (-placeOf num den) := by
    rw [zpow_toNat 2 (-placeOf num den), neg_neg]
    push_cast
    rw [mul_div_mul_comm]
  refine ⟨_, by rw [nearestRank, if_neg hnum.ne']; rfl, rfl, ?_, ?_⟩
  · rw [← hscaled]
    exact (roundDiv_bounds hplace).2
  · have hpow : (2 : ℚ) ^ (floorLog2 num den + 1) ≤ 2 ^ (placeOf num den + 53) :=
      zpow_le_zpow_right₀ (by norm_num) (by unfold placeOf; omega)
    have hhigh := (floorLog2_spec hnum hden).2.trans_le hpow
    rw [zpow_neg, ← div_eq_mul_inv, div_lt_iff₀ (by positivity)]
    rw [zpow_add₀ (by norm_num)] at hhigh
    calc (num / den : ℚ) < 2 ^ placeOf num den * 2 ^ (53 : ℤ) := hhigh
      _ = 2 ^ 53 * 2 ^ placeOf num den := by norm_num; ring

theorem nearestRank_lt (h : (num / den : ℚ) < overflow) :
    nearestRank num den < 2047 * 2 ^ 52 := by
  obtain ⟨m, hrank, -, hm, hscaled⟩ := exists_nearest hnum hden
  have hlog : floorLog2 num den < 1024 := by
    refine (zpow_lt_zpow_iff_right₀ (by norm_num : (1 : ℚ) < 2)).1 ?_
    refine (floorLog2_spec hnum hden).1.trans_lt (h.trans ?_)
    rw [cast_overflow, show (1024 : ℤ) = 53 + 971 from rfl, zpow_add₀ (by norm_num)]
    exact mul_lt_mul_of_pos_right (by norm_num) (by positivity)
  have hplace : placeOf num den ≤ 971 := by unfold placeOf; omega
  rcases hplace.lt_or_eq with hless | heq
  · have hsmall : m ≤ 2 ^ 53 := by
      have hlt : (m : ℚ) < 2 ^ 53 + 1 := by linarith
      exact Nat.lt_succ_iff.1 (by exact_mod_cast hlt)
    rw [hrank]
    omega
  · have hsmall : m < 2 ^ 53 := by
      have hle : (num / den * 2 ^ (-placeOf num den) : ℚ) < 2 ^ 53 - 1 / 2 := by
        rw [heq, zpow_neg, ← div_eq_mul_inv, div_lt_iff₀ (by positivity)]
        exact h.trans_eq cast_overflow
      have hlt : (m : ℚ) < 2 ^ 53 := by linarith
      exact_mod_cast hlt
    rw [hrank, heq]
    omega

end Nearest

theorem magnitude_place {e : ℤ} (he : -1074 ≤ e) {m : Nat} (hlow : 2 ^ 52 ≤ m)
    (hhigh : m ≤ 2 ^ 53) :
    magnitude ((e + 1074).toNat * 2 ^ 52 + m) = m * 2 ^ e := by
  obtain ⟨n, rfl⟩ : ∃ n : ℕ, e = n - 1074 := ⟨(e + 1074).toNat, by omega⟩
  rw [show ((n : ℤ) - 1074 + 1074).toNat = n by omega]
  rcases hhigh.lt_or_eq with hlt | rfl
  · have hdiv : (n * 2 ^ 52 + m) / 2 ^ 52 = n + 1 := by omega
    have hmod : (n * 2 ^ 52 + m) % 2 ^ 52 = m - 2 ^ 52 := by omega
    have hsig : significand (n * 2 ^ 52 + m) = m := by
      rw [significand, if_neg (by omega), hmod]
      omega
    have hexp : exponent (n * 2 ^ 52 + m) = n - 1074 := by
      rw [exponent, hdiv]
      omega
    rw [magnitude, hsig, hexp]
  · have hdiv : (n * 2 ^ 52 + 2 ^ 53) / 2 ^ 52 = n + 2 := by omega
    have hmod : (n * 2 ^ 52 + 2 ^ 53) % 2 ^ 52 = 0 := by omega
    have hsig : significand (n * 2 ^ 52 + 2 ^ 53) = 2 ^ 52 := by
      rw [significand, if_neg (by omega), hmod]
    have hexp : exponent (n * 2 ^ 52 + 2 ^ 53) = (n - 1074) + 1 := by
      rw [exponent, hdiv]
      omega
    rw [magnitude, hsig, hexp, zpow_add₀ (by norm_num)]
    push_cast
    ring

theorem floorLog2_nonneg {n : Nat} (hn : 0 < n) : 0 ≤ floorLog2 n 1 := by
  have hhigh := (floorLog2_spec hn Nat.one_pos).2
  rw [Nat.cast_one, div_one] at hhigh
  by_contra hneg
  have hone : (2 : ℚ) ^ (floorLog2 n 1 + 1) ≤ 2 ^ (0 : ℤ) :=
    zpow_le_zpow_right₀ (by norm_num) (by omega)
  have hpos : (1 : ℚ) ≤ n := by exact_mod_cast hn
  rw [zpow_zero] at hone
  linarith

theorem magnitude_nearestRank_le {n : Nat} (hn : 0 < n) :
    magnitude (nearestRank n 1) ≤ n + (n / 2 ^ 53 : ℕ) := by
  obtain ⟨m, hrank, hround, hm, hscaled⟩ := exists_nearest hn Nat.one_pos
  have hlow := (floorLog2_spec hn Nat.one_pos).1
  rw [Nat.cast_one, div_one] at hlow hscaled hm
  have hlog := floorLog2_nonneg hn
  have hplace : placeOf n 1 = floorLog2 n 1 - 52 := by unfold placeOf; omega
  have hbig : 2 ^ 52 ≤ m := by
    have hquotient : (2 : ℚ) ^ 52 ≤ n * 2 ^ (-placeOf n 1) := by
      rw [zpow_neg, ← div_eq_mul_inv, le_div_iff₀ (by positivity)]
      refine le_trans (le_of_eq ?_) hlow
      rw [← zpow_natCast, ← zpow_add₀ (by norm_num), hplace]
      norm_num
    refine Nat.le_trans ?_ (hround ▸ (roundDiv_bounds (Nat.mul_pos Nat.one_pos (Nat.pow_pos
      (by decide)))).1)
    rw [zpow_neg, ← div_eq_mul_inv, zpow_toNat, div_div_eq_mul_div, le_div_iff₀ (by positivity)]
      at hquotient
    rw [Nat.one_mul, Nat.le_div_iff_mul_le (Nat.pow_pos (by decide))]
    exact_mod_cast hquotient
  have hsmall : m ≤ 2 ^ 53 := by
    have hlt : (m : ℚ) < 2 ^ 53 + 1 := by linarith
    exact Nat.lt_succ_iff.1 (by exact_mod_cast hlt)
  rw [hrank, magnitude_place (by omega) hbig hsmall]
  -- A natural number below 2^53 is its own significand. Above that, rounding moves it by half a
  -- place at most, and half a place is no more than the number's share of 2^53.
  rcases le_or_gt (placeOf n 1) 0 with hpos | hpos
  · have hexact : m = n * 2 ^ (-placeOf n 1).toNat := by
      rw [hround, Int.toNat_of_nonpos hpos]
      simp [roundDiv, Nat.mod_one]
    have hcancel : (2 : ℚ) ^ (-placeOf n 1).toNat * 2 ^ placeOf n 1 = 1 := by
      rw [zpow_toNat 2 (placeOf n 1), Int.toNat_of_nonpos hpos, pow_zero]
      exact mul_one_div_cancel (by positivity)
    rw [hexact]
    push_cast
    rw [mul_assoc, hcancel, mul_one]
    exact le_add_of_nonneg_right (Nat.cast_nonneg _)
  · obtain ⟨p, hp⟩ : ∃ p : ℕ, placeOf n 1 = p + 1 := ⟨(placeOf n 1 - 1).toNat, by omega⟩
    have hshare : 2 ^ p ≤ n / 2 ^ 53 := by
      rw [Nat.le_div_iff_mul_le (by decide), ← Nat.pow_add]
      rw [show floorLog2 n 1 = (p + 53 : ℕ) by omega, zpow_natCast] at hlow
      exact_mod_cast hlow
    have hshare : (2 : ℚ) ^ p ≤ (n / 2 ^ 53 : ℕ) := by exact_mod_cast hshare
    have hplace : (2 : ℚ) ^ placeOf n 1 = 2 ^ p * 2 := by
      rw [hp, zpow_add₀ (by norm_num), zpow_natCast, zpow_one]
    rw [zpow_neg, hplace] at hm
    rw [hplace]
    have hpos : (0 : ℚ) < 2 ^ p := by positivity
    generalize (2 : ℚ) ^ p = w at hm hshare hpos ⊢
    calc (m : ℚ) * (w * 2) ≤ (n * (w * 2)⁻¹ + 1 / 2) * (w * 2) := by gcongr
      _ = n + w := by field_simp
      _ ≤ n + (n / 2 ^ 53 : ℕ) := by linarith

theorem magnitude_lt (x : Binary64) : magnitude x.rank < overflow := by
  have hrank := x.rank_lt
  have hsig : significand x.rank + 1 ≤ 2 ^ 53 := by
    unfold significand
    split <;> omega
  have hexp : exponent x.rank ≤ 971 := by
    unfold exponent
    omega
  have hsig : (significand x.rank : ℚ) + 1 ≤ 2 ^ 53 := by exact_mod_cast hsig
  rw [cast_overflow]
  calc magnitude x.rank ≤ significand x.rank * 2 ^ (971 : ℤ) :=
        mul_le_mul_of_nonneg_left (zpow_le_zpow_right₀ (by norm_num) hexp) (Nat.cast_nonneg _)
    _ < (2 ^ 53 - 1 / 2) * 2 ^ (971 : ℤ) :=
        mul_lt_mul_of_pos_right (by linarith) (by positivity)

theorem isSome_ofRatio {num den : Nat} (negative : Bool) (hden : 0 < den)
    (h : (num / den : ℚ) < overflow) : (ofRatio negative num den).isSome := by
  rcases Nat.eq_zero_or_pos num with rfl | hnum
  · simp [ofRatio, nearestRank]
  · simp [ofRatio, nearestRank_lt hnum hden h]

abbrev powerRank (k : Nat) : Nat := nearestRank (10 ^ k) 1

theorem timesPowerOfTen_eq (x : Binary64) (k : Nat) :
    x.timesPowerOfTen k = ofRatio x.negative ((ratio x.rank).1 * (ratio (powerRank k)).1)
      ((ratio x.rank).2 * (ratio (powerRank k)).2) := rfl

theorem overPowerOfTen_eq (x : Binary64) (k : Nat) :
    x.overPowerOfTen k = ofRatio x.negative ((ratio x.rank).1 * (ratio (powerRank k)).2)
      ((ratio x.rank).2 * (ratio (powerRank k)).1) := rfl

theorem powerRatio_ge (k : Nat) (hk : k < 309) :
    0 < (ratio (powerRank k)).2 ∧ (ratio (powerRank k)).2 ≤ (ratio (powerRank k)).1 := by
  revert k
  decide +kernel

theorem isSome_overPowerOfTen (x : Binary64) {k : Nat} (hk : k < 309) :
    (x.overPowerOfTen k).isSome := by
  obtain ⟨hden, hx⟩ := ratio_eq_magnitude x.rank
  obtain ⟨hpos, hone⟩ := powerRatio_ge k hk
  have hresult := Nat.mul_pos hden (Nat.lt_of_lt_of_le hpos hone)
  have hpos : (0 : ℚ) < (ratio (powerRank k)).2 := by exact_mod_cast hpos
  have hone : ((ratio (powerRank k)).2 : ℚ) ≤ (ratio (powerRank k)).1 := by exact_mod_cast hone
  have hquotient : ((ratio (powerRank k)).2 / (ratio (powerRank k)).1 : ℚ) ≤ 1 :=
    div_le_one_of_le₀ hone (hpos.le.trans hone)
  rw [overPowerOfTen_eq]
  refine isSome_ofRatio x.negative hresult ?_
  rw [Nat.cast_mul, Nat.cast_mul, mul_div_mul_comm, hx]
  exact (mul_le_of_le_one_right (magnitude_nonneg _) hquotient).trans_lt (magnitude_lt x)

theorem isSome_timesPowerOfTen {x : Binary64} {k : Nat}
    (h : magnitude x.rank * magnitude (powerRank k) < overflow) :
    (x.timesPowerOfTen k).isSome := by
  obtain ⟨hden, hx⟩ := ratio_eq_magnitude x.rank
  obtain ⟨hden', hp⟩ := ratio_eq_magnitude (powerRank k)
  rw [timesPowerOfTen_eq]
  refine isSome_ofRatio x.negative (Nat.mul_pos hden hden') ?_
  rwa [Nat.cast_mul, Nat.cast_mul, mul_div_mul_comm, hx, hp]

def readLimit : Nat := (2 ^ 54 - 3) * 2 ^ 970

theorem readLimit_lt : readLimit < 10 ^ 154 * 10 ^ 155 := by decide +kernel

def significandBound (k : Nat) : Nat :=
  min (if k ≤ 16 then 2 ^ 64 else 10 ^ 17) (readLimit / 10 ^ k)

/-- Both roundings together stay below the end of the doubles. -/
theorem headroom (k : Nat) (hk : k < 309) :
    (significandBound k + significandBound k / 2 ^ 53) * (ratio (powerRank k)).1 <
      (overflow) * (ratio (powerRank k)).2 := by
  revert k
  decide +kernel

theorem power_lt_of_le_readLimit {significand power : Nat} (hpos : 0 < significand)
    (h : significand * 10 ^ power ≤ readLimit) : power < 309 := by
  by_contra hbig
  obtain ⟨n, hn⟩ : ∃ n, power = 154 + (155 + n) := ⟨power - 309, by omega⟩
  rw [hn, Nat.pow_add, Nat.pow_add, ← Nat.mul_assoc (10 ^ 154)] at h
  have hle := (Nat.le_mul_of_pos_right _ (Nat.pow_pos (n := n) (by decide))).trans
    ((Nat.le_mul_of_pos_left _ hpos).trans h)
  exact absurd hle (Nat.not_le.2 readLimit_lt)

theorem nearestRank_lt_of_lt {significand : Nat} (hpos : 0 < significand)
    (h : significand < 2 ^ 64) : nearestRank significand 1 < 2047 * 2 ^ 52 := by
  refine nearestRank_lt hpos Nat.one_pos ?_
  have hcast : (significand : ℚ) < 2 ^ 64 := by exact_mod_cast h
  rw [Nat.cast_one, div_one, cast_overflow]
  refine hcast.trans_le ?_
  calc (2 ^ 64 : ℚ) ≤ (2 ^ 53 - 1 / 2) * 2 ^ (12 : ℤ) := by norm_num
    _ ≤ (2 ^ 53 - 1 / 2) * 2 ^ (971 : ℤ) := by
      refine mul_le_mul_of_nonneg_left ?_ (by norm_num)
      exact zpow_le_zpow_right₀ (by norm_num) (by decide)

theorem le_significandBound {significand power : Nat} (hlimit : significand < 2 ^ 64)
    (h : power ≤ 16 ∨ significand ≤ 10 ^ 17 ∧ significand * 10 ^ power ≤ readLimit) :
    significand ≤ significandBound power := by
  rw [significandBound, Nat.le_min, Nat.le_div_iff_mul_le (Nat.pow_pos (by decide))]
  rcases h with h | ⟨hdigits, h⟩
  · refine ⟨by rw [if_pos h]; exact hlimit.le, ?_⟩
    refine (Nat.mul_le_mul hlimit.le (Nat.pow_le_pow_right (by decide) h)).trans ?_
    decide +kernel
  · refine ⟨?_, h⟩
    split
    · omega
    · exact hdigits

theorem isSome_timesPowerOfTen_of_le {x : Binary64} {significand k : Nat} (hpos : 0 < significand)
    (hx : x.rank = nearestRank significand 1) (hk : k < 309)
    (h : significand ≤ significandBound k) : (x.timesPowerOfTen k).isSome := by
  obtain ⟨hden, hp⟩ := ratio_eq_magnitude (powerRank k)
  refine isSome_timesPowerOfTen ?_
  have hgrown : significand + significand / 2 ^ 53 ≤
      significandBound k + significandBound k / 2 ^ 53 :=
    Nat.add_le_add h (Nat.div_le_div_right h)
  have hproduct : (significand + significand / 2 ^ 53) * (ratio (powerRank k)).1 <
      overflow * (ratio (powerRank k)).2 :=
    (Nat.mul_le_mul_right _ hgrown).trans_lt (headroom k hk)
  have hpower : (0 : ℚ) < (ratio (powerRank k)).2 := by exact_mod_cast hden
  have hcast : ((significand : ℚ) + (significand / 2 ^ 53 : ℕ)) * (ratio (powerRank k)).1 <
      overflow * (ratio (powerRank k)).2 := by
    have hproduct := (Nat.cast_lt (α := ℚ)).2 hproduct
    rwa [Nat.cast_mul, Nat.cast_mul, Nat.cast_add] at hproduct
  rw [← hp, ← mul_div_assoc, div_lt_iff₀ hpower, hx]
  refine lt_of_le_of_lt ?_ hcast
  exact mul_le_mul_of_nonneg_right (magnitude_nearestRank_le hpos) (Nat.cast_nonneg _)

theorem isSome_ofDecimal {negative : Bool} {significand : Nat} {power : Int}
    (hlimit : significand < 2 ^ 64)
    (h : power ≤ 16 ∨ significand ≤ 10 ^ 17 ∧ significand * 10 ^ power.toNat ≤ readLimit) :
    (ofDecimal negative significand power).isSome := by
  rcases Nat.eq_zero_or_pos significand with rfl | hpos
  · simp [ofDecimal, ofRatio, nearestRank]
  have hpower : power.toNat < 309 := by
    rcases h with h | ⟨-, h⟩
    · omega
    · exact power_lt_of_le_readLimit hpos h
  have hbound := le_significandBound hlimit (h.imp_left fun h => show power.toNat ≤ 16 by omega)
  have hrank := nearestRank_lt_of_lt hpos hlimit
  rw [ofDecimal, ofRatio, dif_pos hrank]
  dsimp only
  split
  · rfl
  rw [if_neg (by omega)]
  split
  · exact isSome_timesPowerOfTen_of_le hpos rfl hpower hbound
  split
  · exact isSome_overPowerOfTen _ (by omega)
  split
  · obtain ⟨y, hy⟩ := Option.isSome_iff_exists.1
      (isSome_overPowerOfTen ⟨negative, nearestRank significand 1, hrank⟩ (k := 308) (by decide))
    rw [hy, Option.bind_some]
    exact isSome_overPowerOfTen y (by omega)
  · rfl

def Decimal.value (d : Decimal) : ℚ := d.digits * 10 ^ d.exponent

theorem lt_pow_digitCount (n : Nat) : n < 10 ^ digitCount n :=
  (Nat.length_toDigits_le_iff (by decide) Nat.length_toDigits_pos).1 (Nat.le_refl _)

theorem pow_digitCount_le {n : Nat} (hn : 0 < n) : 10 ^ (digitCount n - 1) ≤ n := by
  by_contra hless
  rcases Nat.eq_zero_or_pos (digitCount n - 1) with hzero | hpos
  · rw [hzero] at hless
    omega
  · have := (Nat.length_toDigits_le_iff (by decide) hpos).2 (Nat.not_le.1 hless)
    rw [digitCount] at this hpos
    omega

theorem lt_decimalMagnitude {num den : Nat} (hnum : 0 < num) (hden : 0 < den) :
    (num / den : ℚ) < 10 ^ decimalMagnitude num den := by
  have hn : (0 : ℚ) < num := by exact_mod_cast hnum
  have hd : (0 : ℚ) < den := by exact_mod_cast hden
  unfold decimalMagnitude
  split
  · have hlt : num < 10 ^ digitCount (num / den) * den :=
      (Nat.div_lt_iff_lt_mul hden).1 (lt_pow_digitCount _)
    rw [zpow_natCast, div_lt_iff₀ hd]
    exact_mod_cast hlt
  · rename_i hless
    have hup : 1 < (den + num - 1) / num := by
      rw [Nat.lt_iff_add_one_le, Nat.le_div_iff_mul_le hnum]
      omega
    have hlow := pow_digitCount_le (n := (den + num - 1) / num - 1) (by omega)
    have hpos : 0 < digitCount ((den + num - 1) / num - 1) := Nat.length_toDigits_pos
    generalize digitCount ((den + num - 1) / num - 1) = count at hlow hpos ⊢
    have hlt : 10 ^ (count - 1) * num < den := by
      have := Nat.mul_le_mul_right num hlow
      have hdiv := Nat.div_mul_le_self (den + num - 1) num
      rw [Nat.sub_mul, Nat.one_mul] at this
      omega
    rw [show (1 : ℤ) - count = -((count - 1 : ℕ) : ℤ) by omega, zpow_neg, zpow_natCast,
      div_lt_iff₀ hd, ← div_eq_inv_mul, lt_div_iff₀ (by positivity), mul_comm]
    exact_mod_cast hlt

section Grid

variable (i : Interval) (magnitude : Int) (count : Nat)

/-- The step of a decimal grid in quarters of the last place, as a quotient. -/
def stepNum (k : Int) : Nat := 2 ^ i.quarter.toNat * 10 ^ (-k).toNat

def stepDen (k : Int) : Nat := 2 ^ (-i.quarter).toNat * 10 ^ k.toNat

theorem stepNum_pos (k : Int) : 0 < stepNum i k :=
  Nat.mul_pos (Nat.pow_pos (by decide)) (Nat.pow_pos (by decide))

theorem stepDen_pos (k : Int) : 0 < stepDen i k :=
  Nat.mul_pos (Nat.pow_pos (by decide)) (Nat.pow_pos (by decide))

theorem step_eq (k : Int) : (stepNum i k / stepDen i k : ℚ) * 10 ^ k = 2 ^ i.quarter := by
  rw [stepNum, stepDen, zpow_toNat 2, zpow_toNat 10]
  push_cast
  field_simp

structure Interval.Fits (d : Decimal) : Prop where
  value_le : d.value ≤ i.upper * 2 ^ i.quarter
  digits_pos : 0 < i.lower → 0 < d.digits
  digits_le : (i.middle * 2 ^ i.quarter : ℚ) < 10 ^ magnitude → d.digits ≤ 10 ^ count

variable {i magnitude count}

theorem value_le_of_grid {k : Int} {n : Nat} (h : n * stepDen i k ≤ i.upper * stepNum i k) :
    (n : ℚ) * 10 ^ k ≤ i.upper * 2 ^ i.quarter := by
  have hden : (0 : ℚ) < stepDen i k := by exact_mod_cast stepDen_pos i k
  have hn : (n : ℚ) ≤ i.upper * (stepNum i k / stepDen i k) := by
    rw [← mul_div_assoc, le_div_iff₀ hden]
    exact_mod_cast h
  rw [← step_eq i k, ← mul_assoc]
  exact mul_le_mul_of_nonneg_right hn (by positivity)

theorem below_lt (h : (i.middle * 2 ^ i.quarter : ℚ) < 10 ^ magnitude) :
    i.middle * stepNum i (magnitude - count) / stepDen i (magnitude - count) < 10 ^ count := by
  have hden := stepDen_pos i (magnitude - count)
  have hpow : (10 : ℚ) ^ magnitude = 10 ^ (magnitude - count) * 10 ^ count := by
    rw [← zpow_natCast, ← zpow_add₀ (by norm_num), sub_add_cancel]
  rw [← step_eq i (magnitude - count), hpow, ← mul_assoc, mul_comm,
    mul_lt_mul_iff_right₀ (by positivity), ← mul_div_assoc,
    div_lt_iff₀ (by exact_mod_cast hden)] at h
  rw [Nat.div_lt_iff_lt_mul hden]
  exact_mod_cast h

theorem fits_below {n : Nat}
    (hn : i.middle * stepNum i (magnitude - count) / stepDen i (magnitude - count) = n)
    (h : i.lower * stepNum i (magnitude - count) ≤ n * stepDen i (magnitude - count) ∧
      n * stepDen i (magnitude - count) ≤ i.upper * stepNum i (magnitude - count)) :
    i.Fits magnitude count ⟨n, magnitude - count⟩ where
  value_le := value_le_of_grid h.2
  digits_pos hpos :=
    Nat.pos_of_mul_pos_right ((Nat.mul_pos hpos (stepNum_pos i _)).trans_le h.1)
  digits_le hless := hn ▸ (below_lt hless).le

theorem fits_above {n : Nat}
    (hn : i.middle * stepNum i (magnitude - count) / stepDen i (magnitude - count) = n)
    (h : i.lower * stepNum i (magnitude - count) ≤ (n + 1) * stepDen i (magnitude - count) ∧
      (n + 1) * stepDen i (magnitude - count) ≤ i.upper * stepNum i (magnitude - count)) :
    i.Fits magnitude count (if n + 1 = 10 ^ count then ⟨1, magnitude - count + count⟩
      else ⟨n + 1, magnitude - count⟩) := by
  have hvalue := value_le_of_grid h.2
  split
  · rename_i hcarry
    refine ⟨?_, fun _ => Nat.one_pos, fun _ => Nat.one_le_pow _ _ (by decide)⟩
    rw [hcarry] at hvalue
    push_cast at hvalue
    change ((1 : ℕ) : ℚ) * 10 ^ (magnitude - count + count) ≤ _
    rwa [Nat.cast_one, one_mul, zpow_add₀ (by norm_num), zpow_natCast, mul_comm]
  · exact ⟨hvalue, fun _ => Nat.succ_pos _, fun hless => Nat.succ_le_of_lt (hn ▸ below_lt hless)⟩

theorem le_of_inside {a b n : Nat}
    (h : (if i.closed = true then decide (i.lower * a ≤ n * b) && decide (n * b ≤ i.upper * a)
      else decide (i.lower * a < n * b) && decide (n * b < i.upper * a)) = true) :
    i.lower * a ≤ n * b ∧ n * b ≤ i.upper * a := by
  split at h
  · simpa using h
  · exact (by simpa using h : _ ∧ _).imp Nat.le_of_lt Nat.le_of_lt

/-- Both neighbours on a decimal grid lie in the interval where they are tried. -/
theorem fits_of_withDigits {d : Decimal} (h : withDigits i magnitude count = some d) :
    i.Fits magnitude count d := by
  simp only [withDigits] at h
  split at h
  · rename_i hin hin'
    rw [Option.some.injEq] at h
    split at h
    · exact h ▸ fits_below rfl (le_of_inside hin)
    · exact h ▸ fits_above rfl (le_of_inside hin')
  · rename_i hin _
    exact Option.some.inj h ▸ fits_below rfl (le_of_inside hin)
  · rename_i _ hin
    exact Option.some.inj h ▸ fits_above rfl (le_of_inside hin)
  · cases h

end Grid

theorem shortest_spec {rank : Nat} (hrank : 0 < rank) :
    (shortest rank).value ≤ (interval rank).upper * 2 ^ (interval rank).quarter ∧
      (shortest rank).digits ≤ 10 ^ 17 ∧
      ((shortest rank).digits = 0 → (shortest rank).exponent = 0) := by
  obtain ⟨hden, hratio⟩ := ratio_eq_magnitude rank
  have hpos : 0 < significand rank := by
    unfold significand
    split <;> omega
  have hnum : 0 < (ratio rank).1 := Nat.mul_pos hpos (Nat.pow_pos (by decide))
  have hmagnitude := lt_decimalMagnitude hnum hden
  have hmiddle : ((interval rank).middle * 2 ^ (interval rank).quarter : ℚ) = magnitude rank := by
    rw [interval, magnitude, zpow_sub₀ (by norm_num)]
    push_cast
    ring
  rw [hratio, ← hmiddle] at hmagnitude
  unfold shortest
  dsimp only
  cases hfound : (List.range 17).findSome? fun n =>
    withDigits (interval rank) (decimalMagnitude (ratio rank).1 (ratio rank).2) (n + 1) with
  | none =>
    refine ⟨?_, Nat.zero_le _, fun _ => rfl⟩
    simp only [Option.getD_none, Decimal.value, Nat.cast_zero, zero_mul]
    positivity
  | some d =>
    obtain ⟨n, hn, hd⟩ := List.exists_of_findSome?_eq_some hfound
    have hfits := fits_of_withDigits hd
    refine ⟨hfits.value_le, (hfits.digits_le hmagnitude).trans
      (Nat.pow_le_pow_right (by decide) (List.mem_range.1 hn)), fun hzero => ?_⟩
    refine absurd hzero (hfits.digits_pos ?_).ne'
    change 0 < 4 * significand rank - _
    split <;> omega

theorem cast_readLimit : (readLimit : ℚ) = (2 ^ 56 - 12) * 2 ^ (968 : ℤ) := by
  have hpow : (2 : ℚ) ^ (970 : ℤ) = 2 ^ (2 : ℤ) * 2 ^ (968 : ℤ) := zpow_add₀ two_ne_zero 2 968
  rw [readLimit]
  simp only [Nat.cast_mul, cast_two_pow, Nat.cast_ofNat, hpow]
  generalize (2 : ℚ) ^ (968 : ℤ) = p
  norm_num
  ring

theorem upper_le {rank : Nat} (hrank : rank + 1 < 2047 * 2 ^ 52) :
    ((interval rank).upper * 2 ^ (interval rank).quarter : ℚ) ≤ readLimit := by
  rw [cast_readLimit]
  change ((4 * significand rank + 2 : ℕ) : ℚ) * 2 ^ (exponent rank - 2) ≤ _
  have hbelow : significand rank < 2 ^ 53 := by
    unfold significand
    split <;> omega
  rcases (show exponent rank ≤ 971 by unfold exponent; omega).lt_or_eq with hless | heq
  · have hsig : ((4 * significand rank + 2 : ℕ) : ℚ) ≤ 2 ^ 56 - 12 := by
      have hle : 4 * significand rank + 2 + 12 ≤ 2 ^ 56 := by omega
      have hle : ((4 * significand rank + 2 : ℕ) : ℚ) + 12 ≤ 2 ^ 56 := by exact_mod_cast hle
      linarith
    have hpow : (2 : ℚ) ^ (exponent rank - 2) ≤ 2 ^ (968 : ℤ) :=
      zpow_le_zpow_right₀ (by norm_num) (by omega)
    exact mul_le_mul hsig hpow (by positivity) (by norm_num)
  · have hsig : 2 * (4 * significand rank + 2) + 12 ≤ 2 ^ 56 := by
      unfold exponent at heq
      unfold significand
      split <;> omega
    have hsig : 2 * ((4 * significand rank + 2 : ℕ) : ℚ) + 12 ≤ 2 ^ 56 := by exact_mod_cast hsig
    have hpow : (2 : ℚ) ^ (exponent rank - 2) = 2 * 2 ^ (968 : ℤ) := by
      rw [heq, show (971 : ℤ) - 2 = 1 + 968 from rfl, zpow_add₀ (by norm_num), zpow_one]
    rw [hpow, ← mul_assoc]
    exact mul_le_mul_of_nonneg_right (by linarith) (by positivity)

/-- The digits of a double's shortest decimal are read as a double. -/
theorem isSome_ofDecimal_shortest (x : Binary64) (hrank : 0 < x.rank) (negative : Bool) :
    (shortest x.rank).digits ≤ 10 ^ 17 ∧
      ((shortest x.rank).digits = 0 → (shortest x.rank).exponent = 0) ∧
      (ofDecimal negative (shortest x.rank).digits (shortest x.rank).exponent).isSome := by
  obtain ⟨hvalue, hdigits, hzero⟩ := shortest_spec hrank
  refine ⟨hdigits, hzero, ?_⟩
  by_cases hgreatest : x.rank + 1 = 2047 * 2 ^ 52
  · have hrank : x.rank = 2047 * 2 ^ 52 - 1 := by omega
    rw [hrank]
    cases negative <;> decide +kernel
  have hbound := hvalue.trans (upper_le (by have := x.rank_lt; omega))
  refine isSome_ofDecimal (by omega) ?_
  rcases le_or_gt (shortest x.rank).exponent 16 with hsmall | hbig
  · exact .inl hsmall
  refine .inr ⟨hdigits, ?_⟩
  obtain ⟨n, hn⟩ : ∃ n : ℕ, (shortest x.rank).exponent = n :=
    ⟨_, (Int.toNat_of_nonneg (by omega)).symm⟩
  rw [Decimal.value, hn, zpow_natCast] at hbound
  rw [hn, Int.toNat_natCast]
  exact_mod_cast hbound

end Keyspace.Binary64
