import Keyspace.Http.Host.Basic

set_option autoImplicit false

namespace Keyspace.Http

structure Credentials where
  user : String
  password : String
  deriving DecidableEq, Repr

structure Authority where
  credentials : Option Credentials
  host : Option Host
  port : Option Nat
  deriving DecidableEq, Repr

inductive Path where
  | segments (list : List String)
  /-- A text that starts with no slash. -/
  | rootless (text : String)
  deriving DecidableEq, Repr

structure Url where
  scheme : String
  authority : Option Authority
  path : Path
  query : Option String
  fragment : Option String
  deriving DecidableEq, Repr

def Authority.text (a : Authority) : String :=
  (match a.credentials with
    | some c => c.user ++ (if c.password.isEmpty then "" else ":" ++ c.password) ++ "@"
    | none => "")
    ++ (match a.host with
    | some host => host.text
    | none => "")
    ++ (match a.port with
    | some port => ":" ++ toString port
    | none => "")

namespace Path

def text : Path → String
  | segments list => String.join (list.map fun s => "/" ++ s)
  | rootless text => text

def isHere (segment : String) : Bool :=
  segment == "." || segment == "%2e" || segment == "%2E"

def isAbove (segment : String) : Bool :=
  [".", "%2e", "%2E"].any fun a => [".", "%2e", "%2E"].any fun b => segment == a ++ b

/-- A segment in the form of a drive. There is no place above it. -/
def isDrive (segment : String) : Bool :=
  match segment.toList with
  | letter :: mark :: rest =>
    letter.isAlpha && (mark == ':' || mark == '|') && (rest.isEmpty || rest.head? == some '\\')
  | _ => false

def above (list : List String) : List String :=
  if list.getLast?.any isDrive then list else list.dropLast

def addSegments (list : List String) : List String → List String
  | [] => list
  | segment :: rest =>
    let last := rest.isEmpty
    if isHere segment then addSegments (if last then list ++ [""] else list) rest
    else if isAbove segment then
      addSegments (if last then above list ++ [""] else above list) rest
    else addSegments (list ++ [segment]) rest

theorem addSegments_plain {list segments : List String}
    (h : ∀ s ∈ segments, isHere s = false ∧ isAbove s = false) :
    addSegments list segments = list ++ segments := by
  induction segments generalizing list with
  | nil => simp [addSegments]
  | cons s rest ih =>
    obtain ⟨here, above⟩ := h s List.mem_cons_self
    simp [addSegments, here, above, ih fun t ht => h t (List.mem_cons_of_mem _ ht)]

/-- The path with encoded segments in place of its last one. -/
def within (more : List String) : Path → Path
  | segments list => segments (addSegments list.dropLast more)
  | rootless text => rootless (text ++ "/".intercalate more)

def below (more : List String) : Path → Path
  | segments list => segments (addSegments list more)
  | rootless text => rootless (text ++ "/" ++ "/".intercalate more)

def suffixed (suffix : String) : Path → Path
  | segments list => segments (list.dropLast ++ [list.getLast?.getD "" ++ suffix])
  | rootless text => rootless (text ++ suffix)

end Path

namespace Url

/-- A path that starts with two slashes would be taken for an authority if there is none. -/
def text (u : Url) : String :=
  u.scheme ++ ":" ++ (match u.authority, u.path with
    | some a, _ => "//" ++ a.text
    | none, .segments ("" :: _ :: _) => "/."
    | none, _ => "")
    ++ u.path.text ++ (match u.query with
    | some q => "?" ++ q
    | none => "")
    ++ (match u.fragment with
    | some f => "#" ++ f
    | none => "")

def isWeb (u : Url) : Bool := u.scheme == "http" || u.scheme == "https"

def host? (u : Url) : Option Host := u.authority.bind (·.host)

def longest : Nat := 65534

/-- A request can name the URL: it is not too long, and the host's name holds no character that
starts or ends a quotation or a block. -/
def fitsRequest (u : Url) : Bool :=
  u.text.utf8ByteSize ≤ longest && match u.host? with
    | some (.domain name) => !name.text.toList.any "\"\x60\x7b\x7d".toList.contains
    | _ => true

/-- The user and the password, decoded, if there is either of them. A password that is no text is
none, and where the user is no text there is neither. -/
def login? (u : Url) : Option (String × Option String) := do
  let credentials ← u.authority.bind (·.credentials)
  let user ← Text.percentDecode? credentials.user.toList
  let password :=
    if credentials.password.isEmpty then none
    else Text.percentDecode? credentials.password.toList
  if user.isEmpty && password.isNone then none else some (user, password)

def withoutCredentials (u : Url) : Url :=
  { u with authority := u.authority.map fun a => { a with credentials := none } }

def within (u : Url) (segments : List String) : Url :=
  let more := "/".intercalate segments
  match u.fragment, u.query with
  | some f, _ => { u with fragment := some (f ++ more) }
  | none, some q => { u with query := some (q ++ more) }
  | none, none => { u with path := u.path.within segments }

def below (u : Url) (segments : List String) : Url :=
  match u.fragment, u.query with
  | none, none => { u with path := u.path.below segments }
  | _, _ => u.within ("" :: segments)

def suffixed (u : Url) (suffix : String) : Url :=
  match u.fragment, u.query with
  | some f, _ => { u with fragment := some (f ++ suffix) }
  | none, some q => { u with query := some (q ++ suffix) }
  | none, none => { u with path := u.path.suffixed suffix }

def withQuery (u : Url) (query : String) : Url :=
  match u.fragment, u.query with
  | some f, _ => { u with fragment := some (f ++ "?" ++ query) }
  | none, some q => { u with query := some (q ++ "?" ++ query) }
  | none, none => { u with query := some query }

def withField (u : Url) (name value : String) : Url :=
  let field := Text.encodeField name ++ "=" ++ Text.encodeField value
  { u with query := some (match u.query with
    | some q => if q.isEmpty then field else q ++ "&" ++ field
    | none => field) }

end Url

end Keyspace.Http
