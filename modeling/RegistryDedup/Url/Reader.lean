import RegistryDedup.Url.Host
import RegistryDedup.Url.Path

/-!
# Reading URLs

- `Url.read`: a text as a URL, in its normal form.
- `Url.readAuthority`: user, password, host and port.
- `Url.readFile`: what follows the scheme of a file.
-/

namespace RegistryDedup.Url

open Text

/-- The scheme at the start of a text, and the text after its colon. -/
def cutScheme? (s : List Char) : Option (List Char × List Char) := do
  let (scheme, rest) ← cutAtFirst ':' s
  guard ((scheme.head?.map Char.isAlpha).getD false)
  guard (scheme.all fun c => c.isAlphanum || c == '+' || c == '-' || c == '.')
  return (scheme.map Char.toLower, rest)

/-! ## Authorities -/

/-- User and password from what stands before the at sign. An empty password does not count, and
neither do both if they are empty. -/
def readCredentials (s : List Char) : Option Credentials :=
  let encoded := percentEncoded inUserSet
  let credentials : Credentials :=
    match cutAtFirst ':' s with
    | some (user, password) =>
      ⟨encoded user, if password.isEmpty then none else some (encoded password)⟩
    | none => ⟨encoded s, none⟩
  if credentials.user.isEmpty && credentials.password.isNone then none else some credentials

/-- The host at the start of a text, and the text after it. A colon between brackets belongs to the
host. -/
def cutHost (bracketed : Bool) : List Char → List Char × List Char
  | [] => ([], [])
  | c :: cs =>
    if c == ':' && !bracketed then ([], c :: cs)
    else
      let (host, rest) := cutHost (if c == '[' then true else if c == ']' then false else bracketed) cs
      (c :: host, rest)

/-- A port after its colon, and the text after it. No digits at all are no port, and neither is the
default one. A backslash ends a port even where it is not a slash. -/
def readPort (default : Option Nat) (s : List Char) :
    Except UrlError (Option Nat × List Char) :=
  let digits := s.takeWhile isDigit
  let rest := s.drop digits.length
  if 65535 < digitsValue digits then .error .badPort
  else if (rest.head?.map (· != '\\')).getD false then .error .badPort
  else if digits.isEmpty || default == some (digitsValue digits) then .ok (none, rest)
  else .ok (some (digitsValue digits), rest)

/-- User and password in front of an authority, and the rest of it. A lone at sign has to be the end
of the text. -/
def cutCredentials (last : Bool) (s : List Char) :
    Except UrlError (Option Credentials × List Char) :=
  match cutAtLast '@' s with
  | some (before, after) =>
    if before.isEmpty && after.isEmpty && !last then .error .emptyHost
    else .ok (readCredentials before, after)
  | none => .ok (none, s)

/-- Fails where a host is missing. -/
def requireHost (missing : Bool) : Except UrlError Unit :=
  if missing then .error .emptyHost else .ok ()

/-- The authority in a text that holds nothing else, and what follows a port in it; `last` says
whether nothing follows the text. -/
def readAuthority (scheme : List Char) (last : Bool) (s : List Char) :
    Except UrlError (Authority × List Char) := do
  let web := SchemeKind.of scheme == .web
  let (credentials, rest) ← cutCredentials last s
  let (host, rest) := cutHost false rest
  requireHost (web && host.isEmpty)
  let host ← (if web then readHost host else readOpaqueHost host)
  requireHost (host.isEmpty && !rest.isEmpty)
  let (port, rest) ←
    (if rest.isEmpty then .ok (none, rest)
      else readPort (SchemeKind.webPorts.lookup scheme) (rest.drop 1))
  requireHost (host.isEmpty && credentials.isSome)
  return (⟨credentials, host, port⟩, rest)

/-! ## What follows the scheme -/

/-- Whether a character ends an authority. -/
def endsAuthority (kind : SchemeKind) (c : Char) : Bool :=
  kind.isSlash c || c == '?' || c == '#'

/-- An authority without anything in it. -/
def noAuthority : Authority :=
  ⟨none, [], none⟩

/-- Authority and path after the two slashes. -/
def readAfterSlashes (scheme : List Char) (last : Bool) (s : List Char) :
    Except UrlError (Option Authority × List Char) := do
  let kind := SchemeKind.of scheme
  let path := s.dropWhile (!endsAuthority kind ·)
  let (authority, rest) ← readAuthority scheme (last && path.isEmpty)
    (s.takeWhile (!endsAuthority kind ·))
  let path := rest ++ path
  let lead := (path.head?.map kind.isSlash).getD false
  if kind == .web then
    return (some authority, (readPath kind ['/'] (if lead then path.drop 1 else path)).1)
  else return (some authority, (readPath kind (if lead || path.isEmpty then [] else ['/']) path).1)

/-- The host of a file, if it is not the own one. -/
def readFileHost (host : List Char) : Except UrlError (List Char) := do
  if host.isEmpty then return []
  let host ← readHost host
  return if host == "localhost".toList then [] else host

/-- Host and path of a file. Without slashes there is a path only, and the letter of a drive is part
of the path and takes the place of a host. -/
def readFile (s : List Char) : Except UrlError (Option Authority × List Char) := do
  let kind := SchemeKind.file
  let isSlashAt (i : Nat) : Bool := (s[i]?.map kind.isSlash).getD false
  let pathOnly (start text : List Char) : Option Authority × List Char :=
    (some noAuthority, (readPath kind start text).1)
  if !isSlashAt 0 then return pathOnly ['/'] s
  else if !isSlashAt 1 then return pathOnly [] s
  else
    let rest := s.drop 2
    let name := rest.takeWhile (!kind.isSlash ·)
    if isDrive name then return pathOnly ['/'] rest
    let host ← readFileHost name
    let path := rest.drop name.length
    if host.isEmpty then return pathOnly ['/'] path
    let (path, onDrive) := readPath kind ['/'] (path.drop 1)
    return (some (if onDrive then noAuthority else { noAuthority with host }), path)

/-- Authority and path from the text between scheme and query; `last` says whether there is neither
query nor fragment. -/
def readRest (scheme : List Char) (last : Bool) (s : List Char) :
    Except UrlError (Option Authority × List Char) :=
  let kind := SchemeKind.of scheme
  match kind with
  | .web => readAfterSlashes scheme last (s.dropWhile kind.isSlash)
  | .file => readFile s
  | .other =>
    match s, afterLead ['/', '/'] s with
    | _, some rest => readAfterSlashes scheme last rest
    | '/' :: rest, none => .ok (none, (readPath kind ['/'] rest).1)
    | _, none => .ok (none, percentEncoded isControl s)

/-! ## Whole URLs -/

/-- The text without what does not count in a URL: controls and spaces at either end, and breaks
and tabs anywhere. -/
def cleaned (s : List Char) : List Char :=
  let isEdge (c : Char) : Bool := c.toNat ≤ 0x20
  let inner := ((s.dropWhile isEdge).reverse.dropWhile isEdge).reverse
  inner.filter fun c => c != '\t' && c != '\n' && c != '\r'

/-- The text before a mark, and the text after it if there is one. -/
def cutOptional (mark : Char) (s : List Char) : List Char × Option (List Char) :=
  match cutAtFirst mark s with
  | some (before, after) => (before, some after)
  | none => (s, none)

/-- A text as a URL. -/
def read (s : String) : Except UrlError Url := do
  match cutScheme? (cleaned s.toList) with
  | none => throw .noScheme
  | some (scheme, rest) =>
    let (rest, fragment) := cutOptional '#' rest
    let (rest, query) := cutOptional '?' rest
    let (authority, path) ← readRest scheme (query.isNone && fragment.isNone) rest
    return ⟨scheme, authority, path,
      query.map (percentEncoded (inQuerySet (SchemeKind.of scheme != .other))),
      fragment.map (percentEncoded inFragmentSet)⟩

end RegistryDedup.Url
