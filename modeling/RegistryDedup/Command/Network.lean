import RegistryDedup.Files.Directory
import RegistryDedup.Postgrest.Client
import RegistryDedup.Sql.Address
import RegistryDedup.Sql.Database

/-!
# The network

- `Network`: what a program can reach, with a state. Servers answer requests; a database that is
  connected answers statements.
- `Access`: a store that is reached over the network.
- `Network.connect`, `Network.store`: an access opened, and the store behind it.
- `Network.none`: a network on which nothing can be reached.
-/

namespace RegistryDedup

open Text

/-- What a program can reach, with a state. -/
structure Network (σ : Type) where
  exchange : HttpRequest → σ → Except HttpFault HttpResponse × σ
  reach : Sql.Address → σ → Except Sql.DatabaseFault Unit × σ
  send : (s : Sql.Statement) → σ → Sql.Session.Answer s × σ

/-- How a store is reached. -/
inductive Access where
  | server (client : Postgrest.Client)
  /-- A database, with at most so many connections to it. -/
  | database (address : Sql.Address) (connections : Nat)

namespace Access

/-- The name of the kind of store in reports. -/
def label : Access → String
  | server _ => "rest"
  | database _ _ => "postgres"

end Access

namespace Network

variable {σ : Type}

/-- A connection to a database, under the name of the program. A pool without connections gives
none. -/
def connectDatabase (net : Network σ) (address : Sql.Address) (connections : Nat) (s : σ) :
    Except Sql.DatabaseFault Unit × σ :=
  if connections = 0 then (.error .poolTimedOut, s)
  else
    match net.reach address s with
    | (.ok (), s) => (.ok (), (net.send (.query Sql.nameQuery) s).2)
    | (.error e, s) => (.error e, s)

/-- An access opened. A server needs no connection before the first request. -/
def connect (net : Network σ) : Access → σ → Except Trouble Unit × σ
  | .server _, s => (.ok (), s)
  | .database address connections, s =>
    match net.connectDatabase address connections s with
    | (.ok (), s) => (.ok (), s)
    | (.error e, s) => (.error (e.trouble.within "connecting to postgres"), s)

/-- The store behind an access that is open. -/
def store (net : Network σ) (access : Access) : Store σ where
  backend := access.label
  call r := match access with
    | .server client => (client.call r).run net.exchange
    | .database _ _ => (Sql.call r).run net.send

/-- How many bytes the path of a socket may have. -/
def maxSocketPath : Nat := 107

/-- Why a socket cannot be reached: there is none at its path. -/
def noSocket (path : String) : String :=
  if path.toList.contains '\x00' then "paths must not contain interior null bytes"
  else if maxSocketPath < byteLength path.toList then "path must be shorter than SUN_LEN"
  else FileError.notFound.text

/-- Whether a text has the form of the name of a host: labels of ASCII letters, digits, hyphens and
underscores, the first of which does not begin with a hyphen. A point may end the name. -/
def isHostName (name : List Char) : Bool :=
  let fits (label : List Char) : Bool :=
    !label.isEmpty && label.length ≤ 63 && label.all fun c => c.isAlphanum || c == '-' || c == '_'
  let inner := if name.getLast? == some '.' then name.dropLast else name
  name == ['.'] || (name.head? != some '-' && inner.length ≤ 253 && (splitOn '.' inner).all fits)

/-- Whether a name stands for an address that has not to be looked up. A name in brackets counts as
one without them. -/
def isKnownHost (name : List Char) : Bool :=
  Sql.isNumericHost (String.ofList name) || name.map Char.toLower == "localhost".toList ||
    (name.getLast? != some '.' && (Url.Ipv4.read? name).isSome)

/-- Why a host cannot be reached. -/
def noHost (name : List Char) : String :=
  let isBracket (c : Char) : Bool := c == '[' || c == ']'
  let name := ((name.dropWhile isBracket).reverse.dropWhile isBracket).reverse
  let lookUp (why : String) : String := "failed to lookup address information: " ++ why
  if isKnownHost name then "Network is unreachable (os error 101)"
  else if name.contains '\x00' then FileError.nullInName.text
  else if isHostName name then lookUp "Temporary failure in name resolution"
  else lookUp "Name or service not known"

/-- The fault of a database that cannot be reached. -/
def unreachable (address : Sql.Address) : Sql.DatabaseFault :=
  match address.target with
  | .socket directory =>
    .connection (noSocket (directory ++ "/.s.PGSQL." ++ decimal address.port))
  | .network name => .connection (noHost name.toList)

/-- The answer of a database that is not there. -/
def noAnswer : (s : Sql.Statement) → Sql.Session.Answer s
  | .query _ => .error ⟨"08006", "connection failure"⟩
  | .control _ => ()

/-- A network on which nothing can be reached. -/
def none : Network Unit where
  exchange _ s := (.error .unanswered, s)
  reach address s := (.error (unreachable address), s)
  send statement s := (noAnswer statement, s)

end Network

end RegistryDedup
