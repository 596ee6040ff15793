import Keyspace.Text.Numeral
import Keyspace.Time.Date

set_option autoImplicit false

namespace Keyspace

open Text (padded)

/-- A point in time: the date, the second of the day, and the nanosecond, which runs through a
second billion in a leap second. -/
structure Instant where
  date : Date
  second : Nat
  nano : Nat
  second_lt : second < 86400
  nano_lt : nano < 1000000000 ∨ (nano < 2000000000 ∧ second % 60 = 59)
  deriving DecidableEq

namespace Instant

/-- The instant of the given clock numbers, if they name one; a second of 60 is a leap second. -/
def of? (year : Int) (month day hour minute second nano : Nat) : Option Instant := do
  let date ← Date.of? year month day
  if h : hour < 24 ∧ minute < 60 ∧ second < 61 ∧ nano < 1000000000 then
    if hs : second = 60 then
      return ⟨date, hour * 3600 + minute * 60 + 59, nano + 1000000000, by omega,
        .inr ⟨by omega, by omega⟩⟩
    else
      return ⟨date, hour * 3600 + minute * 60 + second, nano, by omega, .inl h.2.2.2⟩
  else none

def fromOffset (t : Instant) (minutes : Int) (h : -1440 < minutes ∧ minutes < 1440) : Instant :=
  let s : Int := t.second - minutes * 60
  have hs : s = t.second - minutes * 60 := rfl
  have := t.second_lt
  have hn := t.nano_lt
  if h1 : s < 0 then
    ⟨t.date.previous, (s + 86400).toNat, t.nano, by omega, by omega⟩
  else if h2 : 86400 ≤ s then
    ⟨t.date.next, (s - 86400).toNat, t.nano, by omega, by omega⟩
  else ⟨t.date, s.toNat, t.nano, by omega, by omega⟩

theorem fromOffset_zero (t : Instant) : t.fromOffset 0 (by decide) = t := by
  obtain ⟨d, s, n, hs, hn⟩ := t
  have h1 : ¬ ((s : Int) < 0) := by omega
  have h2 : ¬ (86400 ≤ (s : Int)) := by omega
  simp [fromOffset, h1, h2]

/-- A year in four digits; outside that range with a sign. -/
def yearText (year : Int) : List Char :=
  if 0 ≤ year ∧ year ≤ 9999 then padded 4 year.toNat
  else (if year < 0 then '-' else '+') :: padded 4 year.natAbs

def fractionText (nano : Nat) : List Char :=
  if nano = 0 then []
  else if nano % 1000000 = 0 then '.' :: padded 3 (nano / 1000000)
  else if nano % 1000 = 0 then '.' :: padded 6 (nano / 1000)
  else '.' :: padded 9 nano

def chars (t : Instant) : List Char :=
  let leap := t.nano / 1000000000
  yearText t.date.year ++ '-' :: padded 2 t.date.month ++ '-' :: padded 2 t.date.day
    ++ 'T' :: padded 2 (t.second / 3600) ++ ':' :: padded 2 (t.second / 60 % 60)
    ++ ':' :: padded 2 (t.second % 60 + leap) ++ fractionText (t.nano % 1000000000) ++ ['Z']

def text (t : Instant) : String := String.ofList t.chars

end Instant

end Keyspace
