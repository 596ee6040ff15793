import Keyspace.Http.Url.Basic

set_option autoImplicit false

namespace Keyspace.Http

inductive SchemeKind where
  | net (port : Nat)
  | file
  | foreign
  deriving DecidableEq, Repr

namespace SchemeKind

def ofScheme (scheme : String) : SchemeKind :=
  match scheme with
  | "http" | "ws" => net 80
  | "https" | "wss" => net 443
  | "ftp" => net 21
  | "file" => file
  | _ => foreign

def isSlash (kind : SchemeKind) (c : Char) : Bool := c == '/' || (c == '\\' && kind != foreign)

def encodedInFragment (c : Char) : Bool := " \"<>\x60".toList.contains c

def encodedInPath (c : Char) : Bool := encodedInFragment c || "#?\x7b\x7d".toList.contains c

def encodedInCredentials (c : Char) : Bool := encodedInPath c || "/:;=@[\\]^|".toList.contains c

def encodedInQuery (kind : SchemeKind) (c : Char) : Bool :=
  " \"#<>".toList.contains c || (c == '\x27' && kind != foreign)

def segmentsOf (kind : SchemeKind) (cs : List Char) : List String :=
  Path.addSegments [] ((cs.splitOnP kind.isSlash).map (Text.encodeChars encodedInPath))

end SchemeKind

def Credentials.ofChars? (cs : List Char) : Option Credentials :=
  let user := cs.takeWhile (· != ':')
  let password := (cs.dropWhile (· != ':')).drop 1
  if user.isEmpty && password.isEmpty then none
  else
    let encode := Text.encodeChars SchemeKind.encodedInCredentials
    some ⟨encode user, encode password⟩

namespace Authority

def splitHost (inside : Bool) : List Char → List Char × List Char
  | [] => ([], [])
  | c :: rest =>
    if c == ':' && !inside then ([], c :: rest)
    else
      let (host, after) := splitHost (if c == '[' then true else inside && c != ']') rest
      (c :: host, after)

def maxPort : Nat := 65535

/-- The port that is not the scheme's own, and what follows its digits, which can be a backslash
that is no slash. -/
def readPort (kind : SchemeKind) (cs : List Char) : Option (Option Nat × List Char) :=
  let digits := cs.takeWhile Char.isDigit
  let rest := cs.dropWhile Char.isDigit
  let port := Text.decimal digits
  if maxPort < port || !(rest.isEmpty || rest.head? == some '\\') then none
  else some (if digits.isEmpty || kind == .net port then none else some port, rest)

def ofChars? (kind : SchemeKind) (cs : List Char) : Option (Authority × List Char) := do
  let back := cs.reverse
  let credentials := Credentials.ofChars? ((back.dropWhile (· != '@')).drop 1).reverse
  let (name, after) := splitHost false (back.takeWhile (· != '@')).reverse
  if name.isEmpty then
    if kind != .foreign || credentials.isSome || !after.isEmpty then none
    else return (⟨none, none, none⟩, [])
  else
    let host ← if kind = .foreign then Host.ofForeignChars? name else Host.ofChars? name
    match after with
    | [] => return (⟨credentials, host, none⟩, [])
    | _ :: after =>
      let (port, rest) ← readPort kind after
      return (⟨credentials, host, port⟩, rest)

end Authority

namespace Url

/-- The characters of a text. Space and controls around it do not count, nor do tabs and line ends
inside. -/
def bare (text : String) : List Char :=
  let isOuter (c : Char) : Bool := c.toNat ≤ 0x20
  let trimmed := ((text.toList.dropWhile isOuter).reverse.dropWhile isOuter).reverse
  trimmed.filter fun c => c != '\t' && c != '\n' && c != '\r'

def splitScheme? (cs : List Char) : Option (String × List Char) :=
  let isSchemeChar (c : Char) := c.isAlphanum || c == '+' || c == '-' || c == '.'
  let scheme := cs.takeWhile isSchemeChar
  match scheme.head?, cs.dropWhile isSchemeChar with
  | some first, ':' :: rest =>
    if first.isAlpha then some (String.ofList (scheme.map Char.toLower), rest) else none
  | _, _ => none

def splitAtMark (mark : Char) (cs : List Char) : List Char × Option (List Char) :=
  (cs.takeWhile (· != mark), match cs.dropWhile (· != mark) with
    | _ :: rest => some rest
    | [] => none)

/-- The authority and the path behind two slashes. `ends` says that the text ends there too: an
`@` alone is nothing to go on from. -/
def placeAt? (kind : SchemeKind) (ends : Bool) (cs : List Char) : Option (Authority × Path) := do
  let inside := cs.takeWhile fun c => !kind.isSlash c
  let outside := cs.dropWhile fun c => !kind.isSlash c
  if inside == ['@'] && !(outside.isEmpty && ends) then none
  else
    let (authority, rest) ← Authority.ofChars? kind inside
    match rest ++ outside with
    | [] => return (authority, .segments (if kind = .foreign then [] else [""]))
    | c :: path =>
      return (authority, .segments (kind.segmentsOf (if kind.isSlash c then path else c :: path)))

def fileSegments (cs : List Char) : List String :=
  match (SchemeKind.file.segmentsOf cs).dropWhile (·.isEmpty) with
  | [] => [""]
  | segments => segments

def isLocal (host : Host) : Bool := host == .domain ⟨"localhost"⟩

def fileAt? (cs : List Char) : Option (Authority × Path) := do
  let isSlash := SchemeKind.file.isSlash
  if !(cs.take 2).all isSlash || cs.length < 2 then
    return (⟨none, none, none⟩, .segments (fileSegments cs))
  else
    let rest := cs.drop 2
    let name := rest.takeWhile fun c => !isSlash c
    if name.isEmpty || Path.isDrive (String.ofList name) then
      return (⟨none, none, none⟩, .segments (fileSegments rest))
    else
      let host ← Host.ofChars? name
      return (⟨none, if isLocal host then none else some host, none⟩,
        .segments (fileSegments (rest.drop (name.length + 1))))

def ofText? (text : String) : Option Url := do
  let (scheme, rest) ← splitScheme? (bare text)
  let kind := SchemeKind.ofScheme scheme
  let (rest, fragment) := splitAtMark '#' rest
  let (rest, query) := splitAtMark '?' rest
  let (authority, path) ← match kind, rest with
    | .net _, _ => do
      let (authority, path) ← placeAt? kind true (rest.dropWhile kind.isSlash)
      pure (some authority, path)
    | .file, _ => do
      let (authority, path) ← fileAt? rest
      pure (some authority, path)
    | .foreign, '/' :: '/' :: rest => do
      let (authority, path) ← placeAt? kind (query.isNone && fragment.isNone) rest
      pure (some authority, path)
    | .foreign, '/' :: rest => pure (none, Path.segments (kind.segmentsOf rest))
    | .foreign, _ => pure (none, Path.rootless (Text.encodeChars (fun _ => false) rest))
  return ⟨scheme, authority, path, query.map (Text.encodeChars kind.encodedInQuery),
    fragment.map (Text.encodeChars SchemeKind.encodedInFragment)⟩

end Url

end Keyspace.Http
