import RegistryDedup.Registry.Identifier
import RegistryDedup.Run.Trouble
import RegistryDedup.Store.Retry

/-!
# The environment

Variables give what the command line leaves open. A variable whose value is blank counts as one that
is not set, and a value that cannot be read gives way to the default.

- `Environment.get?`, `require`, `flag`, `nat`, `int`: single variables.
- `Environment.databaseUrl`, `serverCredentials`, `backend`: how to reach a store.
- `Environment.retryPolicy`, `dependents`: how to work on it, and on which tables.
-/

namespace RegistryDedup

open Text

/-- Variables with their values. Of two values of one variable the first counts. -/
abbrev Environment := List (String × String)

/-- The kinds of stores that can be reached from the command line. -/
inductive Backend where
  /-- A database, by SQL. -/
  | database
  /-- A PostgREST server, over HTTP. -/
  | server
  deriving DecidableEq, Repr

namespace Backend

/-- The name of a kind on the command line. -/
def name : Backend → String
  | database => "pg"
  | server => "rest"

/-- The kind of a name. -/
def ofName? (s : String) : Option Backend :=
  [database, server].find? (·.name == s)

/-- The name of a kind in reports. -/
def label : Backend → String
  | database => "postgres"
  | server => "rest"

end Backend

/-- A text with the letters of ASCII in lower case. -/
def lowerAscii (s : String) : String :=
  String.ofList (s.toList.map Char.toLower)

namespace Environment

/-! ## Single variables -/

/-- The value of a variable as it is, unless it is blank. -/
def get? (env : Environment) (name : String) : Option String :=
  (env.lookup name).filter (!isBlankText ·)

/-- The trouble of a variable that has to be set. -/
def missing (name : String) : Trouble :=
  .ofText ("missing env var " ++ name)

/-- The value of a variable that has to be set. -/
def require (env : Environment) (name : String) : Except Trouble String :=
  match env.get? name with
  | some value => .ok value
  | none => .error (missing name)

/-- The values that mean yes, in lower case. -/
def affirmations : List String :=
  ["1", "true", "on", "yes"]

/-- Whether a variable means yes. Any other value means no. -/
def flag (env : Environment) (name : String) (default : Bool) : Bool :=
  match env.get? name with
  | some value => affirmations.contains (lowerAscii (trimmed value))
  | none => default

/-- The number in a variable, of at most `max`. -/
def nat (env : Environment) (name : String) (max default : Nat) : Nat :=
  ((env.get? name).bind fun value => readNat max (trim value.toList)).getD default

/-- The number in a variable, between `min` and `max`. -/
def int (env : Environment) (name : String) (min max default : Int) : Int :=
  ((env.get? name).bind fun value => readInt min max (trim value.toList)).getD default

/-! ## How to reach a store -/

/-- The end of the host and the port of a pooler that gives a connection for one transaction. -/
def transactionPooler : String := "pooler.supabase.com:6543"

/-- The end of the host and the port of the pooler that gives a connection for a whole session. -/
def sessionPooler : String := "pooler.supabase.com:5432"

/-- An address with the session pooler in place of the transaction pooler, so that a transaction
stays on one connection. -/
def preferSession (env : Environment) (url : String) : String :=
  if env.flag "DISABLE_SESSION_SWAP" false then url
  else replaced transactionPooler sessionPooler url

/-- The variables with the address of the database; the first that is set counts. -/
def databaseVariables : List String :=
  ["SUPABASE_DB_URL", "DATABASE_URL", "DB_URL"]

/-- The address of the database. -/
def databaseUrl (env : Environment) : Except Trouble String :=
  match databaseVariables.findSome? env.get? with
  | some url => .ok (env.preferSession url)
  | none => .error (.ofText "no database URL env vars set")

/-- The variable with the key of the server that is asked for where none is set. -/
def keyVariable : String := "SUPABASE_SERVICE_ROLE_KEY"

/-- The variables with the key of the server; the first that is set counts. -/
def keyVariables : List String :=
  [keyVariable, "SUPABASE_SERVICE_KEY", "SUPABASE_KEY"]

/-- The address of the server and its key. -/
def serverCredentials (env : Environment) : Except Trouble (String × String) := do
  let url ← env.require "SUPABASE_URL"
  match keyVariables.findSome? env.get? with
  | some key => return (url, key)
  | none => throw (missing keyVariable)

/-- The kind of store. Where nothing is said, it is the database if there is an address of one. -/
def backend (env : Environment) : Except Trouble Backend :=
  match (env.get? "RECONCILE_BACKEND").map trimmed with
  | some value =>
    if value = "pg" ∨ value = "postgres" then .ok .database
    else if value = "rest" then .ok .server
    else .error (.ofText ("RECONCILE_BACKEND must be pg or rest, got " ++ quoted value))
  | none => .ok (if env.databaseUrl.toBool then .database else .server)

/-! ## How to work on it -/

/-- How calls are tried again. There is at least one attempt. -/
def retryPolicy (env : Environment) : RetryPolicy :=
  let default : RetryPolicy := {}
  { default with
    maxAttempts := max 1 (env.nat "RECONCILE_MAX_ATTEMPTS" max32 default.maxAttempts)
    baseDelay := .millis (env.nat "RECONCILE_BACKOFF_MS" max64 default.baseDelay.toMillis)
    callTimeout := .seconds
      (env.nat "RECONCILE_CALL_TIMEOUT_SECS" max64 (default.callTimeout.toMillis / 1000)) }

/-- The dependents of a list, or of the variable with the list. There is at least one. -/
def dependents (env : Environment) (given : Option String) : Except Trouble (List Dependent) := do
  let list ←
    match given.or (env.get? "RECONCILE_TABLES") with
    | some list => pure list
    | none => throw (.ofText
        "no dependent tables given; pass --tables table:fk,... or set RECONCILE_TABLES")
  let dependents ← Trouble.ofReply (Dependent.readList list)
  if dependents.isEmpty then throw (.ofText "no dependent tables given")
  return dependents

end Environment

end RegistryDedup
