import RegistryDedup.Run.Trouble

/-!
# Faults of a database

- `DatabaseFault`: what may go wrong between a statement and its result, or on the way to the
  database.
- `DatabaseFault.text`: a fault in words; `causes`: what lies behind it.
- `DatabaseFault.failure`: the failure of a call that a fault stands for. Lost connections are
  transient; a result without a column that was asked for is a matter of configuration.
-/

namespace RegistryDedup.Sql

open Text

/-- What may go wrong with a database. -/
inductive DatabaseFault where
  /-- The database refused a statement, with a code. -/
  | statement (code message : String)
  | rowNotFound
  | columnNotFound (column : String)
  /-- A row has fewer columns than asked for. -/
  | columnIndex (index length : Nat)
  /-- A cell does not hold what was asked for. -/
  | columnDecoding (column why : String)
  | decoding (why : String)
  | typeNotFound (name : String)
  /-- The address of the database is malformed. -/
  | configuration (why : String)
  /-- The address of the database asks for an unknown way of encryption. -/
  | encryptionMode (value : String)
  | connection (why : String)
  | encryption (why : String)
  | protocol (why : String)
  | poolTimedOut
  | poolClosed
  | workerCrashed
  deriving DecidableEq

namespace DatabaseFault

/-- Words for a malformed address. -/
def configurationText (why : String) : String :=
  "error with configuration: " ++ why

/-- Words for an unknown way of encryption. -/
def encryptionModeText (value : String) : String :=
  "unknown value " ++ quoted value ++ " for `ssl_mode`"

/-- A fault in words. -/
def text : DatabaseFault → String
  | statement _ message => "error returned from database: " ++ message
  | rowNotFound => "row not found"
  | columnNotFound column => "column not found in result: " ++ column
  | columnIndex index length =>
    "column index out of bounds: the len is " ++ decimal length ++ ", but the index is " ++
      decimal index
  | columnDecoding column why => "error occurred while decoding column " ++ column ++ ": " ++ why
  | decoding why => "error occurred while decoding: " ++ why
  | typeNotFound name => "type named " ++ name ++ " not found"
  | configuration why => configurationText why
  | encryptionMode value => configurationText (configurationText (encryptionModeText value))
  | connection why => "error communicating with database: " ++ why
  | encryption why => "error occurred while attempting to establish a TLS connection: " ++ why
  | protocol why => "encountered unexpected or invalid data: " ++ why
  | poolTimedOut => "pool timed out while waiting for an open connection"
  | poolClosed => "attempted to acquire a connection on a closed pool"
  | workerCrashed => "attempted to communicate with a crashed background worker"

/-- The kind of failure that a fault is, other than a refused statement. -/
def kind : DatabaseFault → FailureKind
  | rowNotFound => .notFound
  | columnNotFound _ | configuration _ | encryptionMode _ => .config
  | connection _ | encryption _ | protocol _ | poolTimedOut | poolClosed | workerCrashed =>
    .transient
  | statement _ _ | columnIndex _ _ | columnDecoding _ _ | decoding _ | typeNotFound _ => .other

/-- The failure of a call that a fault stands for. -/
def failure : DatabaseFault → Failure
  | statement code message => .code code message
  | fault => .reported fault.kind fault.text

/-- What lies behind a fault, one step after the other. -/
def causes : DatabaseFault → List String
  | configuration why | connection why | encryption why => [why]
  | encryptionMode value =>
    [configurationText (encryptionModeText value), encryptionModeText value]
  | _ => []

/-- The trouble of a fault, in words down to its last cause. -/
def trouble (fault : DatabaseFault) : Trouble :=
  let texts := fault.text :: fault.causes
  ⟨texts.dropLast, .plain (texts.getLast?.getD "")⟩

end DatabaseFault

end RegistryDedup.Sql
