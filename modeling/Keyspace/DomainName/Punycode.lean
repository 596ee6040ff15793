/-!
Punycode: a text as ASCII letters, digits and hyphens.

The ASCII characters come first. The others are inserted among them in the order of their code
points, and from left to right where these are equal; what is written is how far each insertion is
from the last one. The distance between two insertions counts the places that a text of the length
so far has, once for every code point that is passed over.
-/

set_option autoImplicit false

namespace Keyspace.DomainName.Punycode

def threshold (bias place : Nat) : Nat := min 26 (max 1 (36 * (place + 1) - bias))

theorem threshold_pos (bias place : Nat) : 0 < threshold bias place := by
  unfold threshold
  omega

def biasOf (distance : Nat) : Nat :=
  if 455 < distance then 36 + biasOf (distance / 35) else 36 * distance / (distance + 38)
termination_by distance
decreasing_by omega

/-- The bias after a distance in a text of the new length. The first one, from place 0, is damped
the most. -/
def nextBias (distance length place : Nat) : Nat :=
  let damped := if place = 0 then distance / 700 else distance / 2
  biasOf (damped + damped / length)

def digitChar (d : Nat) : Char := Char.ofNat (if d < 26 then 97 + d else 22 + d)

def digit? (c : Char) : Option Nat :=
  if c.isLower then some (c.toNat - 97)
  else if c.isUpper then some (c.toNat - 65)
  else if c.isDigit then some (c.toNat - 22)
  else none

def digits (bias place number : Nat) : List Char :=
  let t := threshold bias place
  if number < t then [digitChar number]
  else digitChar (t + (number - t) % (36 - t)) :: digits bias (place + 1) ((number - t) / (36 - t))
termination_by number
decreasing_by
  have positive := threshold_pos bias place
  have rest := Nat.div_le_self (number - threshold bias place) (36 - threshold bias place)
  omega

def insertions (text : List Char) : List (Char × Nat) :=
  let beyond := text.zipIdx.filter fun (c, _) => 128 ≤ c.toNat
  (beyond.mergeSort fun a b => a.1 ≤ b.1).map fun (c, i) => (c, (text.take i).countP (· ≤ c))

def encodeFrom (code place length bias : Nat) : List (Char × Nat) → List Char
  | [] => []
  | (c, i) :: rest =>
    let distance := (c.toNat - code) * (length + 1) + i - place
    digits bias 0 distance
      ++ encodeFrom c.toNat (i + 1) (length + 1) (nextBias distance (length + 1) place) rest

def encode (text : List Char) : List Char :=
  let basic := text.filter fun c => c.toNat < 128
  let hyphen := if basic.isEmpty then [] else ['-']
  basic ++ hyphen ++ encodeFrom 128 0 basic.length 72 (insertions text)

/-- A text under insertion: the text so far, the code point and the place that have been reached,
the bias, and what has been read of the next distance. -/
structure Draft where
  text : List Char
  code : Nat
  place : Nat
  bias : Nat
  distance : Nat
  weight : Nat
  count : Nat

namespace Draft

def start (basic : List Char) : Draft := ⟨basic, 128, 0, 72, 0, 1, 0⟩

def insert (d : Draft) (distance : Nat) : Option Draft :=
  let length := d.text.length + 1
  let reached := d.place + distance
  let code := d.code + reached / length
  let place := reached % length
  if code.isValidChar then
    some ⟨d.text.insertIdx place (Char.ofNat code), code, place + 1,
      nextBias distance length d.place, 0, 1, 0⟩
  else none

def read (d : Draft) (c : Char) : Option Draft := do
  let value ← digit? c
  let distance := d.distance + value * d.weight
  let t := threshold d.bias d.count
  if value < t then d.insert distance
  else some { d with distance := distance, weight := d.weight * (36 - t), count := d.count + 1 }

def finished? (d : Draft) : Option (List Char) := if d.count = 0 then some d.text else none

end Draft

/-- The text that ASCII characters stand for: those before the last hyphen stand for themselves,
unless the hyphen comes first. -/
def decode? (cs : List Char) : Option (List Char) := do
  let back := cs.reverse
  let basic := (back.dropWhile (· != '-')).drop 1
  let rest := if basic.isEmpty then cs else (back.takeWhile (· != '-')).reverse
  let draft ← rest.foldlM Draft.read (Draft.start basic.reverse)
  draft.finished?

end Keyspace.DomainName.Punycode
