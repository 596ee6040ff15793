import Keyspace.Json.Basic
import Keyspace.Text.Numeral

set_option autoImplicit false

namespace Keyspace.Json

def isSpace (c : Char) : Bool := c == ' ' || c == '\n' || c == '\t' || c == '\r'

def skipSpace (cs : List Char) : List Char := cs.dropWhile isSpace

def codeUnit? (a b c d : Char) : Option Nat := do
  let high := (← Text.hexValue? a) * 16 + (← Text.hexValue? b)
  let low := (← Text.hexValue? c) * 16 + (← Text.hexValue? d)
  return high * 256 + low

def shortEscape? (c : Char) : Option Char :=
  if c = '"' ∨ c = '\\' ∨ c = '/' then some c
  else if c = 'b' then some '\x08'
  else if c = 'f' then some '\x0c'
  else if c = 'n' then some '\n'
  else if c = 'r' then some '\r'
  else if c = 't' then some '\t'
  else none

def isHighSurrogate (n : Nat) : Bool := 0xD800 ≤ n && n ≤ 0xDBFF

def isLowSurrogate (n : Nat) : Bool := 0xDC00 ≤ n && n ≤ 0xDFFF

def readString (acc : List Char) : List Char → Option (String × List Char)
  | '"' :: rest => some (String.ofList acc.reverse, rest)
  | '\\' :: 'u' :: a :: b :: c :: d :: rest =>
    match codeUnit? a b c d with
    | none => none
    | some high =>
      if isLowSurrogate high then none
      else if isHighSurrogate high then
        match rest with
        | '\\' :: 'u' :: e :: f :: g :: h :: rest =>
          match codeUnit? e f g h with
          | none => none
          | some low =>
            if isLowSurrogate low then
              readString
                (Char.ofNat (0x10000 + (high - 0xD800) * 0x400 + (low - 0xDC00)) :: acc) rest
            else none
        | _ => none
      else readString (Char.ofNat high :: acc) rest
  | '\\' :: c :: rest =>
    match shortEscape? c with
    | some e => readString (e :: acc) rest
    | none => none
  | c :: rest => if c.toNat < 0x20 then none else readString (c :: acc) rest
  | [] => none

/-- Digits appended to a significand as long as it stays below 2^64: the significand, and how many
digits it took. -/
def absorbDigits (significand : Nat) : List Char → Nat × Nat
  | [] => (significand, 0)
  | d :: ds =>
    let longer := significand * 10 + (d.toNat - 48)
    if longer < 2 ^ 64 then
      let (s, taken) := absorbDigits longer ds
      (s, taken + 1)
    else (significand, 0)

/-- The number with the given sign, integer digits, fraction digits and exponent.

Only the digits that fit 64 bits enter the significand of a double. -/
def Number.ofParts (negative : Bool) (whole : List Char) (fraction : Option (List Char))
    (exponent : Option Int) : Option Number :=
  let (significand, taken) := absorbDigits 0 whole
  if fraction.isNone && exponent.isNone && taken == whole.length then
    if !negative then some (.natural (UInt64.ofNat significand))
    else if h : 0 < significand ∧ significand ≤ 2 ^ 63 then
      some (.negative ⟨significand - 1, by omega⟩)
    else (Binary64.ofDecimal true significand 0).map .float
  else
    let (significand, places) := absorbDigits significand (fraction.getD [])
    let power : Int := (whole.length - taken : Nat) - (places : Int) + exponent.getD 0
    (Binary64.ofDecimal negative significand power).map .float

def readFraction : List Char → Option (Option (List Char) × List Char)
  | '.' :: rest =>
    let ds := rest.takeWhile Char.isDigit
    if ds.isEmpty then none else some (some ds, rest.dropWhile Char.isDigit)
  | rest => some (none, rest)

def readExponent : List Char → Option (Option Int × List Char)
  | [] => some (none, [])
  | e :: rest =>
    if e = 'e' ∨ e = 'E' then
      let (negative, rest) := match rest with
        | '-' :: rest => (true, rest)
        | '+' :: rest => (false, rest)
        | rest => (false, rest)
      let ds := rest.takeWhile Char.isDigit
      let n : Int := Text.decimal ds
      if ds.isEmpty then none
      else some (some (if negative then -n else n), rest.dropWhile Char.isDigit)
    else some (none, e :: rest)

def readMinus : List Char → Bool × List Char
  | '-' :: rest => (true, rest)
  | rest => (false, rest)

def readNumber (cs : List Char) : Option (Number × List Char) := do
  let (negative, cs) := readMinus cs
  let whole := cs.takeWhile Char.isDigit
  if whole.isEmpty || (whole.head? == some '0' && whole.length ≠ 1) then none
  else
    let (fraction, rest) ← readFraction (cs.dropWhile Char.isDigit)
    let (exponent, rest) ← readExponent rest
    let n ← Number.ofParts negative whole fraction exponent
    return (n, rest)

mutual

/-- A value, in which containers may still nest `depth` deep. -/
def readValue : Nat → Nat → List Char → Option (Json × List Char)
  | 0, _, _ => none
  | fuel + 1, depth, cs =>
    match skipSpace cs with
    | 'n' :: 'u' :: 'l' :: 'l' :: rest => some (null, rest)
    | 't' :: 'r' :: 'u' :: 'e' :: rest => some (bool true, rest)
    | 'f' :: 'a' :: 'l' :: 's' :: 'e' :: rest => some (bool false, rest)
    | '"' :: rest => (readString [] rest).map fun r => (str r.1, r.2)
    | '[' :: rest =>
      match depth with
      | 0 => none
      | depth + 1 =>
        match skipSpace rest with
        | ']' :: rest => some (arr [], rest)
        | rest => readItems fuel depth [] rest
    | '\x7b' :: rest =>
      match depth with
      | 0 => none
      | depth + 1 =>
        match skipSpace rest with
        | '\x7d' :: rest => some (obj [], rest)
        | rest => readMembers fuel depth [] rest
    | rest => (readNumber rest).map fun r => (num r.1, r.2)

def readItems : Nat → Nat → List Json → List Char → Option (Json × List Char)
  | 0, _, _, _ => none
  | fuel + 1, depth, before, cs =>
    match readValue fuel depth cs with
    | none => none
    | some (x, rest) =>
      match skipSpace rest with
      | ',' :: rest => readItems fuel depth (x :: before) rest
      | ']' :: rest => some (arr (x :: before).reverse, rest)
      | _ => none

def readMembers : Nat → Nat → List (String × Json) → List Char → Option (Json × List Char)
  | 0, _, _, _ => none
  | fuel + 1, depth, before, cs =>
    match skipSpace cs with
    | '"' :: rest =>
      match readString [] rest with
      | none => none
      | some (key, rest) =>
        match skipSpace rest with
        | ':' :: rest =>
          match readValue fuel depth rest with
          | none => none
          | some (x, rest) =>
            let members := SortedMap.insertEntry key x before
            match skipSpace rest with
            | ',' :: rest => readMembers fuel depth members rest
            | '\x7d' :: rest => some (obj members, rest)
            | _ => none
        | _ => none
    | _ => none

end

def maxDepth : Nat := 127

/-- The value that a whole text stands for. Every reader takes a character for two steps at most,
so that the fuel never runs out. -/
def parseChars (cs : List Char) : Option Json :=
  match readValue (2 * cs.length + 2) maxDepth cs with
  | some (v, rest) => if (skipSpace rest).isEmpty then some v else none
  | none => none

def parse (text : String) : Option Json := parseChars text.toList

end Keyspace.Json
