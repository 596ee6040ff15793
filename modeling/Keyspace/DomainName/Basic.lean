import Keyspace.DomainName.Direction
import Keyspace.DomainName.Joining
import Keyspace.DomainName.Punycode

set_option autoImplicit false

namespace Keyspace

structure DomainName where
  text : String
  deriving DecidableEq, Repr

namespace DomainName

def isBarredAscii (c : Char) : Bool :=
  c.toNat ≤ 0x20 || c.toNat == 0x7f || "#%/:<>?@[\\]^|".toList.contains c

def isAscii (label : List Char) : Bool := label.all fun c => c.toNat < 128

def punycodeMark : List Char := ['x', 'n', '-', '-']

def encodeLimit : Nat := 1000
def decodeLimit : Nat := 2000

/-- A label beyond ASCII can be: it starts with no mark, and its joiners are where they may be. -/
def isLabel (label : List Char) : Bool :=
  !(label.head?.any Text.CharClass.isMark) && joinersPlaced [] label

def decodedLabel? (code : List Char) : Option (List Char) :=
  if !isAscii code || code.isEmpty || code.getLast? == some '-' || decodeLimit < code.length then
    none
  else
    (Punycode.decode? code).filter fun label =>
      (label.all fun c => image? c == some [c] && c != '.') && Text.composed label == label
        && !punycodeMark.isPrefixOf label

def shown? (label : List Char) : Option (List Char) := do
  let marked := punycodeMark.isPrefixOf label
  let shown ← if marked then decodedLabel? (label.drop punycodeMark.length) else some label
  if (shown.any isBarredAscii) || !(isAscii shown || isLabel shown) then none else some shown

def asciiLabel? (shown : List Char) : Option (List Char) :=
  if isAscii shown then some shown
  else if encodeLimit < shown.length then none
  else some (punycodeMark ++ Punycode.encode shown)

/-- The domain name that a text stands for. Labels may be empty. -/
def ofText? (text : String) : Option DomainName := do
  let mapped ← images? text.toList
  let shown ← ((Text.composed mapped).splitOn '.').mapM shown?
  if (shown.any hasBackward) && !(shown.all isOrderly) then none
  else
    let labels ← shown.mapM asciiLabel?
    return ⟨".".intercalate (labels.map String.ofList)⟩

end DomainName

end Keyspace
