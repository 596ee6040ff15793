import Keyspace.Text.CharClass
import Keyspace.Time.Instant

set_option autoImplicit false

namespace Keyspace.Instant

open Text (decimal)

def fixed (width : Nat) (cs : List Char) : Option (Nat × List Char) :=
  let ds := cs.take width
  if ds.length = width ∧ ds.all Char.isDigit then some (decimal ds, cs.drop width) else none

def upTo (width : Nat) (cs : List Char) : Option (Nat × List Char) :=
  let ds := (cs.take width).takeWhile Char.isDigit
  if ds.isEmpty then none else some (decimal ds, cs.drop ds.length)

def expect (c : Char) : List Char → Option (List Char)
  | d :: rest => if d = c then some rest else none
  | [] => none

/-- The nanoseconds of an optional fraction; digits past the ninth are dropped. -/
def fraction : List Char → Option (Nat × List Char)
  | '.' :: rest =>
    let ds := rest.takeWhile Char.isDigit
    if ds.isEmpty then none
    else
      let kept := ds.take 9
      some (decimal kept * 10 ^ (9 - kept.length), rest.dropWhile Char.isDigit)
  | cs => some (0, cs)

def Offset := { minutes : Int // -1440 < minutes ∧ minutes < 1440 }

def offsetAfterSign (negative : Bool) (cs : List Char) : Option (Offset × List Char) := do
  let (hours, cs) ← fixed 2 cs
  let cs ← expect ':' cs
  let (minutes, cs) ← fixed 2 cs
  if h : hours < 24 ∧ minutes < 60 then
    let n := hours * 60 + minutes
    if negative then return (⟨-(n : Int), by omega⟩, cs) else return (⟨n, by omega⟩, cs)
  else none

def offset : List Char → Option (Offset × List Char)
  | 'Z' :: rest | 'z' :: rest => some (⟨0, by decide⟩, rest)
  | '+' :: rest => offsetAfterSign false rest
  | '-' :: rest | '−' :: rest => offsetAfterSign true rest
  | _ => none

def ofStrict? (cs : List Char) : Option Instant := do
  let (year, cs) ← fixed 4 cs
  let cs ← expect '-' cs
  let (month, cs) ← fixed 2 cs
  let cs ← expect '-' cs
  let (day, cs) ← fixed 2 cs
  let cs ← match cs with
    | 'T' :: rest | 't' :: rest | ' ' :: rest => some rest
    | _ => none
  let (hour, cs) ← fixed 2 cs
  let cs ← expect ':' cs
  let (minute, cs) ← fixed 2 cs
  let cs ← expect ':' cs
  let (second, cs) ← fixed 2 cs
  let (nano, cs) ← fraction cs
  let (ahead, cs) ← offset cs
  if cs.isEmpty then
    let clock ← of? year month day hour minute second nano
    return clock.fromOffset ahead.1 ahead.2
  else none

def laxNumber (cs : List Char) : Option (Nat × List Char) := upTo 2 (cs.dropWhile Text.isBlank)

/-- A year of the lax form: space, then up to four digits, or a sign and any digits. -/
def laxYear (cs : List Char) : Option (Int × List Char) :=
  match cs.dropWhile Text.isBlank with
  | '-' :: rest => (upTo rest.length rest).map fun r => (-(r.1 : Int), r.2)
  | '+' :: rest => (upTo rest.length rest).map fun r => ((r.1 : Int), r.2)
  | rest => (upTo 4 rest).map fun r => ((r.1 : Int), r.2)

def firstYear : Int := -262143

def lastYear : Int := 262142

def ofLax? (cs : List Char) : Option Instant := do
  let (year, cs) ← laxYear cs
  let cs ← expect '-' cs
  let (month, cs) ← laxNumber cs
  let cs ← expect '-' cs
  let (day, cs) ← laxNumber cs
  let cs ← expect 'T' cs
  let (hour, cs) ← laxNumber cs
  let cs ← expect ':' cs
  let (minute, cs) ← laxNumber cs
  let cs ← expect ':' cs
  let (second, cs) ← laxNumber cs
  let (nano, cs) ← fraction cs
  if cs.isEmpty ∧ firstYear ≤ year ∧ year ≤ lastYear then
    of? year month day hour minute second nano
  else none

/-- The point in time that a text stands for, in either form. -/
def ofText? (text : String) : Option Instant :=
  (ofStrict? text.toList).or (ofLax? text.toList)

end Keyspace.Instant
