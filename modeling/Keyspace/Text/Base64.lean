import Keyspace.Text.Percent

set_option autoImplicit false

namespace Keyspace.Text

/-- The two alphabets differ in their last two letters. -/
inductive Base64 where
  | standard
  | urlSafe
  deriving DecidableEq, Repr

namespace Base64

def letter (alphabet : Base64) (n : Nat) : Char :=
  if n < 26 then Char.ofNat (65 + n)
  else if n < 52 then Char.ofNat (71 + n)
  else if n < 62 then Char.ofNat (n - 4)
  else if n = 62 then (match alphabet with | standard => '+' | urlSafe => '-')
  else (match alphabet with | standard => '/' | urlSafe => '_')

def encodeBytes (alphabet : Base64) : List UInt8 → List Char
  | [] => []
  | [a] =>
    [alphabet.letter (a.toNat / 4), alphabet.letter (a.toNat % 4 * 16), '=', '=']
  | [a, b] =>
    [alphabet.letter (a.toNat / 4), alphabet.letter (a.toNat % 4 * 16 + b.toNat / 16),
      alphabet.letter (b.toNat % 16 * 4), '=']
  | a :: b :: c :: rest =>
    [alphabet.letter (a.toNat / 4), alphabet.letter (a.toNat % 4 * 16 + b.toNat / 16),
      alphabet.letter (b.toNat % 16 * 4 + c.toNat / 64), alphabet.letter (c.toNat % 64)]
      ++ encodeBytes alphabet rest

def encode (alphabet : Base64) (s : String) : String :=
  String.ofList (alphabet.encodeBytes (utf8 s))

end Base64

end Keyspace.Text
