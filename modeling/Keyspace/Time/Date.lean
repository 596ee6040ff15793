set_option autoImplicit false

namespace Keyspace

def isLeapYear (year : Int) : Bool :=
  year % 4 == 0 && (year % 100 != 0 || year % 400 == 0)

def daysInMonth (year : Int) (month : Nat) : Nat :=
  if month = 2 then (if isLeapYear year then 29 else 28)
  else if month = 4 ∨ month = 6 ∨ month = 9 ∨ month = 11 then 30
  else if 1 ≤ month ∧ month ≤ 12 then 31
  else 0

theorem daysInMonth_pos {year : Int} {month : Nat} (h : 1 ≤ month) (h' : month ≤ 12) :
    1 ≤ daysInMonth year month := by
  unfold daysInMonth
  repeat' split
  all_goals omega

structure Date where
  year : Int
  month : Nat
  day : Nat
  one_le_day : 1 ≤ day
  day_le : day ≤ daysInMonth year month
  deriving DecidableEq

namespace Date

def of? (year : Int) (month day : Nat) : Option Date :=
  if h : 1 ≤ day ∧ day ≤ daysInMonth year month then some ⟨year, month, day, h.1, h.2⟩ else none

theorem month_bounds (d : Date) : 1 ≤ d.month ∧ d.month ≤ 12 := by
  have := d.one_le_day
  have := d.day_le
  refine Decidable.byContradiction fun h => ?_
  have : daysInMonth d.year d.month = 0 := by
    unfold daysInMonth
    repeat' split
    all_goals omega
  omega

def next (d : Date) : Date :=
  if h : d.day < daysInMonth d.year d.month then
    ⟨d.year, d.month, d.day + 1, Nat.le_add_left .., h⟩
  else if h' : d.month < 12 then
    ⟨d.year, d.month + 1, 1, Nat.le_refl _, daysInMonth_pos (by omega) h'⟩
  else ⟨d.year + 1, 1, 1, Nat.le_refl _, daysInMonth_pos (by omega) (by omega)⟩

def previous (d : Date) : Date :=
  if h : 1 < d.day then
    ⟨d.year, d.month, d.day - 1, Nat.le_sub_one_of_lt h, Nat.le_trans (Nat.sub_le ..) d.day_le⟩
  else if h' : 1 < d.month then
    ⟨d.year, d.month - 1, daysInMonth d.year (d.month - 1),
      daysInMonth_pos (by omega) (by have := d.month_bounds; omega), Nat.le_refl _⟩
  else
    ⟨d.year - 1, 12, daysInMonth (d.year - 1) 12, daysInMonth_pos (by omega) (by omega),
      Nat.le_refl _⟩

end Date

end Keyspace
