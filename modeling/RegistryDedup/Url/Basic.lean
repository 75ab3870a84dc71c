import RegistryDedup.Url.Encode

/-!
# URLs

- `Url`: a URL taken apart and in its normal form: scheme and host in lower case, no default port,
  no dots in the path, and characters by number where they have to be.
- `Url.text`: a URL as it is written.
- `Url.withCredentials`, `Url.withoutCredentials`: a URL with another user and password, or with
  none.
- `SchemeKind`: what the scheme of a URL says about the rest of it.
-/

namespace RegistryDedup

open Text

/-- Why a text is no URL. -/
inductive UrlError where
  | noScheme
  | emptyHost
  | badPort
  | badIpv4
  | badIpv6
  | badHostCharacter
  | badDomain
  deriving DecidableEq

/-- Why a text is no URL, in words. -/
def UrlError.text : UrlError → String
  | noScheme => "relative URL without a base"
  | emptyHost => "empty host"
  | badPort => "invalid port number"
  | badIpv4 => "invalid IPv4 address"
  | badIpv6 => "invalid IPv6 address"
  | badHostCharacter => "invalid domain character"
  | badDomain => "invalid international domain name"

/-- User and password as they are written. -/
structure Credentials where
  user : List Char
  password : Option (List Char)
  deriving DecidableEq

/-- What stands between the two slashes and the path. -/
structure Authority where
  credentials : Option Credentials
  /-- Empty where there is no host. -/
  host : List Char
  port : Option Nat
  deriving DecidableEq

/-- A URL in its normal form. -/
structure Url where
  scheme : List Char
  authority : Option Authority
  path : List Char
  query : Option (List Char)
  fragment : Option (List Char)
  deriving DecidableEq

/-- What a scheme says about the rest of a URL. -/
inductive SchemeKind where
  /-- A host and a path in any case. -/
  | web
  /-- A path, which may begin with the letter of a drive. -/
  | file
  /-- Anything. -/
  | other
  deriving DecidableEq

namespace SchemeKind

/-- The schemes of the web with their default ports. -/
def webPorts : List (List Char × Nat) :=
  [("http".toList, 80), ("https".toList, 443), ("ws".toList, 80), ("wss".toList, 443),
    ("ftp".toList, 21)]

/-- The kind of a scheme. -/
def of (scheme : List Char) : SchemeKind :=
  if webPorts.any (·.1 == scheme) then web
  else if scheme == "file".toList then file
  else other

/-- Whether a character separates the segments of a path. -/
def isSlash (kind : SchemeKind) (c : Char) : Bool :=
  c == '/' || (kind != other && c == '\\')

end SchemeKind

/-- User and password with the at sign after them. -/
def Credentials.text (c : Credentials) : List Char :=
  c.user ++ (c.password.map (':' :: ·)).getD [] ++ ['@']

/-- An authority as it is written. -/
def Authority.text (a : Authority) : List Char :=
  (a.credentials.map Credentials.text).getD [] ++ a.host ++
    (a.port.map fun n => ':' :: Nat.toDigits 10 n).getD []

namespace Url

/-- What stands between scheme and path. A path that begins with two slashes has to be told from an
authority. -/
def beforePath (u : Url) : List Char :=
  match u.authority with
  | some a => '/' :: '/' :: a.text
  | none => if (afterLead ['/', '/'] u.path).isSome then ['/', '.'] else []

/-- A URL as characters. -/
def chars (u : Url) : List Char :=
  u.scheme ++ ':' :: u.beforePath ++ u.path ++ (u.query.map ('?' :: ·)).getD [] ++
    (u.fragment.map ('#' :: ·)).getD []

/-- A URL as it is written. -/
def text (u : Url) : String :=
  String.ofList u.chars

/-- Whether a URL has a host. -/
def hasHost (u : Url) : Bool :=
  match u.authority with
  | some a => !a.host.isEmpty
  | none => false

/-- Another user and password, in a URL that has a host. -/
def withCredentials (user password : String) (u : Url) : Url :=
  let credentials : Credentials :=
    ⟨percentEncoded inUserSet user.toList, some (percentEncoded inUserSet password.toList)⟩
  if u.hasHost then
    { u with authority := u.authority.map fun a => { a with credentials := some credentials } }
  else u

/-- A URL without user and password. -/
def withoutCredentials (u : Url) : Url :=
  { u with authority := u.authority.map fun a => { a with credentials := none } }

end Url

end RegistryDedup
