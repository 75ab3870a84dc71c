import RegistryDedup.Text.Quoted
import RegistryDedup.Text.Split
import RegistryDedup.Time.Span

/-!
# Failures of a store

A `Failure` is the cause for which a call to a store has no result. `Failure.kind` classifies it,
so that a caller can decide whether to try again, to go on with the next row, or to give up;
`Failure.message` is its text.

- Only transient failures are worth another attempt (`isRetryable`).
- Failures of configuration and authority concern the whole run (`isFatal`).
-/

namespace RegistryDedup

open Text

/-- What a caller can do about a failure. -/
inductive FailureKind where
  /-- Network, time limit, overload: another attempt may succeed. -/
  | transient
  /-- A row that would break a rule of its table. -/
  | constraint
  | notFound
  /-- An unknown table or column, or a malformed name. -/
  | config
  | auth
  | other
  deriving DecidableEq, Repr

namespace FailureKind

/-- The short name of a kind. -/
def name : FailureKind → String
  | transient => "transient"
  | constraint => "constraint"
  | notFound => "not_found"
  | config => "config"
  | auth => "auth"
  | other => "other"

/-- The words in front of the text of a failure. -/
def label : FailureKind → String
  | transient => "transient"
  | constraint => "constraint violation"
  | notFound => "not found"
  | config => "configuration"
  | auth => "auth"
  | other => "other"

/-- Every kind. -/
def all : List FailureKind :=
  [transient, constraint, notFound, config, auth, other]

/-- The kind of a short name. -/
def ofName? (s : String) : Option FailureKind :=
  all.find? (·.name == s)

end FailureKind

/-- Whether an error code belongs to a class, which its first two characters name. -/
def inClass (cls code : String) : Bool :=
  beginsWith cls code

/-- The kind of an error code of a database server. Class 23 is for broken rules and class 08 for
lost connections; unknown tables, columns and schemas are a matter of configuration. -/
def kindOfCode (code : String) : FailureKind :=
  if inClass "23" code then .constraint
  else if ["42P01", "42703", "3F000", "PGRST200", "PGRST204", "PGRST205"].contains code then .config
  else if ["40001", "40P01", "57014", "53300", "57P01"].contains code then .transient
  else if ["28P01", "28000", "42501"].contains code then .auth
  else if inClass "08" code then .transient
  else .other

/-- The kind of an HTTP status that is no success. -/
def kindOfStatus (status : Nat) : FailureKind :=
  if status = 401 ∨ status = 403 then .auth
  else if status = 404 then .config
  else if status = 409 then .constraint
  else if status = 408 ∨ status = 429 ∨ 500 ≤ status then .transient
  else .other

/-- Why a call to a store has no result. -/
inductive Failure where
  /-- A name that is not made of the characters of a name. -/
  | invalidName (name : String)
  | noDependents
  | noConcurrency
  /-- A dependent that is not written as table and column. -/
  | malformedDependent (item : String)
  | unknownTable (table : String)
  | unknownColumns (table : String) (columns : List String)
  /-- A row without any column. -/
  | emptyRow
  /-- A second row with the same text in a column without repetition. -/
  | duplicateValue (table column value : String)
  /-- A row that cannot be deleted because others refer to it. -/
  | stillReferenced (table column value : String)
  | countInterrupted (table column value : String)
  | missingRow (table column value : String)
  /-- No answer within the time limit. -/
  | late (operation : String) (limit : Span)
  /-- An error code of a database server. -/
  | code (code text : String)
  /-- An HTTP status with its reason phrase. -/
  | status (status : Nat) (phrase text : String)
  /-- Another run has the lock file. -/
  | lockHeld (path holder : String)
  | lockUnavailable (path reason : String)
  /-- A failure that is known by its kind and text alone. -/
  | reported (kind : FailureKind) (text : String)
  deriving DecidableEq

namespace Failure

/-- What a caller can do about a failure. -/
def kind : Failure → FailureKind
  | invalidName _ | noDependents | noConcurrency | malformedDependent _ | unknownTable _
  | unknownColumns _ _ | emptyRow | lockHeld _ _ | lockUnavailable _ _ => .config
  | duplicateValue _ _ _ | stillReferenced _ _ _ => .constraint
  | countInterrupted _ _ _ | late _ _ => .transient
  | missingRow _ _ _ => .notFound
  | code c _ => kindOfCode c
  | status s _ _ => kindOfStatus s
  | reported k _ => k

/-- What happened, without the words for the kind. -/
def detail : Failure → String
  | invalidName name => "invalid identifier: " ++ quoted name
  | noDependents => "at least one dependent table:fk_column is required"
  | noConcurrency => "concurrency must be at least 1"
  | malformedDependent item => "expected table:fk_column, got " ++ quoted item
  | unknownTable table => "table " ++ table ++ " does not exist"
  | unknownColumns table columns =>
    "table " ++ table ++ " has no column(s) " ++ quotedList columns
  | emptyRow => "empty row payload"
  | duplicateValue table column value =>
    "duplicate key value violates unique constraint " ++ table ++ "_" ++ column ++ "_key (" ++
      column ++ ")=(" ++ value ++ ")"
  | stillReferenced table column value =>
    "update or delete on table " ++ table ++ " violates foreign key constraint (" ++ column ++
      ")=(" ++ value ++ ")"
  | countInterrupted table column value =>
    "simulated network error counting " ++ table ++ "." ++ column ++ "=" ++ value
  | missingRow table column value => table ++ " " ++ column ++ "=" ++ value ++ " does not exist"
  | late operation limit => operation ++ " timed out after " ++ limit.text
  | code c text => c ++ ": " ++ text
  | status s phrase text => "http " ++ decimal s ++ " " ++ phrase ++ ": " ++ text
  | lockHeld path holder =>
    "another reconcile run holds " ++ path ++ " (" ++ holder ++
      "); remove it if that run is dead"
  | lockUnavailable path reason => "cannot create lock file " ++ path ++ ": " ++ reason
  | reported _ text => text

/-- The text of a failure. -/
def message (f : Failure) : String :=
  f.kind.label ++ ": " ++ f.detail

/-- Whether another attempt may succeed. -/
def isRetryable (f : Failure) : Bool :=
  f.kind == .transient

/-- Whether the failure concerns the whole run and not one group. -/
def isFatal (f : Failure) : Bool :=
  f.kind == .config || f.kind == .auth

/-- Whether the failure says that a row is not there. -/
def isNotFound (f : Failure) : Bool :=
  f.kind == .notFound

/-- Whether the failure says that a row would break a rule of its table. -/
def isConstraint (f : Failure) : Bool :=
  f.kind == .constraint

end Failure

end RegistryDedup
