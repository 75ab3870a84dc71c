import RegistryDedup.Sql.Fault
import RegistryDedup.Url.Reader

/-!
# Addresses of databases

An address is a URL. User, password, host, port and the name of the database are in their usual
places, and parameters of its query may replace them.

- `Address.read`: an address, or what is wrong with it.
- `Address.ofVariables`: what counts where an address leaves something open.
- `Address.target`: where the database listens.
-/

namespace RegistryDedup.Sql

open Text

/-- Where a database listens. -/
inductive Host where
  | network (name : String)
  /-- A socket in some directory. -/
  | socket (directory : String)
  deriving DecidableEq

/-- How to reach a database. -/
structure Address where
  /-- A name, or the directory of a socket. -/
  host : String := "localhost"
  /-- The directory of a socket, which counts before any host. -/
  socket : Option String := none
  port : Nat := 5432
  user : Option String := none
  password : Option String := none
  database : Option String := none
  deriving DecidableEq

/-- The ways in which a connection may be encrypted. -/
def encryptionModes : List String :=
  ["disable", "allow", "prefer", "require", "verify-ca", "verify-full"]

/-- Whether a text is a numeric address of a host. -/
def isNumericHost (s : String) : Bool :=
  (Url.Ipv4.readPlain? s.toList).isSome || (Url.Ipv6.read? s.toList).isSome

namespace Address

/-- Whether a host is a path, and so the directory of a socket. -/
def isPath (host : String) : Bool :=
  beginsWith "/" host

/-- Where the database listens. -/
def target (a : Address) : Host :=
  match a.socket with
  | some directory => .socket directory
  | none => if isPath a.host then .socket a.host else .network a.host

/-- What the variables of an environment say; `get` gives their values. -/
def ofVariables (get : String → Option String) : Address :=
  let default : Address := {}
  { host := ((get "PGHOSTADDR").or (get "PGHOST")).getD default.host
    port := ((get "PGPORT").bind fun s => readNat max16 s.toList).getD default.port
    user := get "PGUSER"
    password := get "PGPASSWORD"
    database := get "PGDATABASE" }

/-- A part of a URL as it is meant. Its bytes have to be a text. -/
def decode (part : List Char) : Except DatabaseFault String :=
  match Utf8.decode (Url.percentDecoded part) with
  | .ok s => .ok (String.ofList s)
  | .error fault => .error (.configuration fault.text)

/-- A number in a parameter. -/
def number (max : Nat) (value : String) : Except DatabaseFault Nat :=
  match readNumber max value.toList with
  | .ok n => .ok n
  | .error e => .error (.configuration e.text)

/-- An address with one more parameter. Parameters that do not say where the database is are
checked where they have to have a form. -/
def parameter (a : Address) (pair : String × String) : Except DatabaseFault Address :=
  let (name, value) := pair
  match name with
  | "sslmode" | "ssl-mode" =>
    if encryptionModes.contains (String.ofList (value.toList.map Char.toLower)) then .ok a
    else .error (.encryptionMode value)
  | "statement-cache-capacity" => do
    discard (number max64 value)
    return a
  | "host" => .ok (if isPath value then { a with socket := some value } else { a with host := value })
  | "hostaddr" =>
    if isNumericHost value then .ok { a with host := value }
    else .error (.configuration "invalid IP address syntax")
  | "port" => do return { a with port := ← number max16 value }
  | "dbname" => .ok { a with database := some value }
  | "user" => .ok { a with user := some value }
  | "password" => .ok { a with password := some value }
  | _ => .ok a

/-- An address with the host of a URL. A path is given by number there, and a name is taken as it
is. -/
def withHost (a : Address) (host : List Char) : Except DatabaseFault Address := do
  if host.isEmpty then return a
  else if (Url.percentDecoded host).head? == some '/'.toUInt8 then
    return { a with socket := some (← decode host) }
  else return { a with host := String.ofList host }

/-- An address with what stands before the path of its URL. -/
def withAuthority (a : Address) (authority : Authority) : Except DatabaseFault Address := do
  let a ← a.withHost authority.host
  let a := { a with port := authority.port.getD a.port }
  match authority.credentials with
  | none => return a
  | some c =>
    let user ← if c.user.isEmpty then pure a.user else some <$> decode c.user
    let password ← match c.password with
      | some password => some <$> decode password
      | none => pure a.password
    return { a with user, password }

/-- An address of a database, where `start` says what counts for what it leaves open. -/
def read (start : Address) (s : String) : Except DatabaseFault Address :=
  match Url.read s with
  | .error e => .error (.configuration e.text)
  | .ok url => do
    let a ← match url.authority with
      | some authority => start.withAuthority authority
      | none => pure start
    let path := url.path.dropWhile (· == '/')
    let database ← if path.isEmpty then pure a.database else some <$> decode path
    (Url.formPairs (url.query.getD [])).foldlM parameter { a with database }

end Address

end RegistryDedup.Sql
