import Keyspace.Text.Numeral

set_option autoImplicit false

namespace Keyspace.Text

def utf8 (s : String) : List UInt8 := s.toByteArray.data.toList

theorem utf8_injective {s t : String} (h : utf8 s = utf8 t) : s = t :=
  String.toByteArray_inj.1 (ByteArray.ext (Array.toList_inj.1 h))

def ofUtf8? (bytes : List UInt8) : Option String := String.fromUTF8? ⟨bytes.toArray⟩

def hexDigit (n : Nat) : Char :=
  if n < 10 then Char.ofNat (48 + n) else Char.ofNat (55 + n)

def percentByte (b : UInt8) : List Char :=
  ['%', hexDigit (b.toNat / 16), hexDigit (b.toNat % 16)]

/-- Percent encoding in which the characters of `plain`, all of them ASCII, stand for themselves. -/
def percentEncode (plain : Char → Bool) (s : String) : String :=
  String.ofList <| (utf8 s).flatMap fun b =>
    let c := Char.ofNat b.toNat
    if b < 128 && plain c then [c] else percentByte b

/-- The bytes that characters stand for. A `%` without two digits after it stands for itself. -/
def percentBytes : List Char → List UInt8
  | '%' :: high :: low :: rest =>
    match hexValue? high, hexValue? low with
    | some h, some l => UInt8.ofNat (16 * h + l) :: percentBytes rest
    | _, _ => 37 :: percentBytes (high :: low :: rest)
  | c :: rest => utf8 (String.singleton c) ++ percentBytes rest
  | [] => []

theorem hexValue?_hexDigit {n : Nat} (h : n < 16) : hexValue? (hexDigit n) = some n := by
  have all : ∀ n : Fin 16, hexValue? (hexDigit n) = some n.val := by decide
  exact all ⟨n, h⟩

theorem percentBytes_percentByte (b : UInt8) (rest : List Char) :
    percentBytes (percentByte b ++ rest) = b :: percentBytes rest := by
  have bound : b.toNat < 256 := b.toNat_lt
  have high := hexValue?_hexDigit (n := b.toNat / 16) (by omega)
  have low := hexValue?_hexDigit (n := b.toNat % 16) (by omega)
  have digits : 16 * (b.toNat / 16) + b.toNat % 16 = b.toNat := Nat.div_add_mod ..
  simp [percentByte, percentBytes, high, low, digits]

def percentDecode? (cs : List Char) : Option String := ofUtf8? (percentBytes cs)

/-- Characters with those of a class, and all that are not printable ASCII, encoded. -/
def encodeChars (encoded : Char → Bool) (cs : List Char) : String :=
  String.ofList <| cs.flatMap fun c =>
    if c.toNat < 0x20 || 0x7e < c.toNat || encoded c then
      (utf8 (String.singleton c)).flatMap percentByte
    else [c]

def isUnreserved (c : Char) : Bool :=
  c.isAlphanum || c == '-' || c == '_' || c == '.' || c == '~'

def encodeSegment (s : String) : String := percentEncode isUnreserved s

def isFormPlain (c : Char) : Bool :=
  c.isAlphanum || c == '*' || c == '-' || c == '.' || c == '_'

def encodeField (s : String) : String :=
  String.ofList <| (utf8 s).flatMap fun b =>
    let c := Char.ofNat b.toNat
    if b = 32 then ['+'] else if b < 128 && isFormPlain c then [c] else percentByte b

end Keyspace.Text
