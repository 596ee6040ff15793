import Keyspace.DomainName.Basic
import Keyspace.Http.Host.Ipv4
import Keyspace.Http.Host.Ipv6
import Keyspace.Text.Percent

set_option autoImplicit false

namespace Keyspace.Http

inductive Host where
  | domain (name : DomainName)
  | ipv4 (address : Ipv4)
  | ipv6 (address : Ipv6)
  /-- A name that only its scheme understands, encoded. -/
  | named (text : String)
  deriving DecidableEq, Repr

namespace Host

def text : Host → String
  | domain name => name.text
  | ipv4 address => address.text
  | ipv6 address => "[" ++ address.text ++ "]"
  | named text => text

def bracketed? (cs : List Char) : Option Host :=
  if cs.getLast? == some ']' then (Ipv6.ofChars? (cs.drop 1).dropLast).map ipv6 else none

/-- A host on the net: an address, or a domain name, which can be percent-encoded. -/
def ofChars? (cs : List Char) : Option Host :=
  if cs.head? == some '[' then bracketed? cs
  else do
    let name ← (Text.percentDecode? cs).bind DomainName.ofText?
    if name.text.isEmpty then none
    else if Ipv4.isMeant name.text.toList then (Ipv4.ofChars? name.text.toList).map ipv4
    else some (domain name)

def isBarred (c : Char) : Bool := "\x00\t\n\r #/:<>?@[\\]^|".toList.contains c

def ofForeignChars? (cs : List Char) : Option Host :=
  if cs.head? == some '[' then bracketed? cs
  else if cs.any isBarred then none
  else some (named (Text.encodeChars (fun _ => false) cs))

end Host

end Keyspace.Http
