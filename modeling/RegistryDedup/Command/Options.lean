import RegistryDedup.Command.Environment
import RegistryDedup.Files.Lock
import RegistryDedup.Json.Value
import RegistryDedup.Merge.Settings
import RegistryDedup.Store.Row

/-!
# Options of the commands

- `Command`: a command with its options.
- `EntityOptions.toTable`, `DetailOptions.toTable`: the tables that a command works on.
- `DedupeOptions.settings`: the settings of a run, from its options and the environment.
- `readAssignments`: the columns that are set in a row, given as `column=value`.
-/

namespace RegistryDedup

open Text

/-- How to reach the store. -/
structure StoreOptions where
  backend : Option Backend := none
  databaseUrl : Option String := none
  maxConnections : Option Nat := none
  callTimeout : Option Span := none
  deriving DecidableEq

/-- The primary table and its columns. -/
structure EntityOptions where
  table : String := "regions"
  idColumn : String := "id"
  nameColumn : String := "name"
  /-- Blank where the table has no such column. -/
  createdColumn : String := "created_at"
  deriving DecidableEq

namespace EntityOptions

/-- The primary table, if all its names are names. -/
def toTable (o : EntityOptions) : Except Failure EntityTable := do
  let created := trimmed o.createdColumn
  let table : EntityTable :=
    ⟨o.table, o.idColumn, o.nameColumn, if created.isEmpty then none else some created⟩
  checkIdentifiers (table.table :: table.columns)
  return table

end EntityOptions

/-- The table of details and its columns. -/
structure DetailOptions where
  table : String := "institutions"
  idColumn : String := "id"
  ownerColumn : String := "holding_id"
  createdColumn : String := "created_at"
  deriving DecidableEq

namespace DetailOptions

/-- The table of details, if all its names are names. -/
def toTable (o : DetailOptions) : Except Failure DetailTable := do
  checkIdentifiers [o.table, o.idColumn, o.ownerColumn, o.createdColumn]
  return ⟨o.table, o.idColumn, o.ownerColumn, o.createdColumn⟩

end DetailOptions

/-- What a run works on and how. -/
structure DedupeOptions where
  store : StoreOptions := {}
  entity : EntityOptions := {}
  /-- The dependents as a comma-separated list. -/
  tables : Option String := none
  policy : Policy := .mostReferenced
  dryRun : Bool := false
  /-- The qualifiers as a comma-separated list. -/
  stripPrefixes : Option String := none
  concurrency : Option Nat := none
  maxAttempts : Option Nat := none
  maxFailuresInARow : Option Nat := none
  /-- How long a run may take in all. -/
  deadline : Span := .seconds 1800
  journal : Option String := none
  lockFile : Option String := none
  noLock : Bool := false
  json : Bool := false
  deriving DecidableEq

namespace DedupeOptions

/-- The lock file of a run, in the directory for temporary files unless it is said otherwise. -/
def lockPath (o : DedupeOptions) (temporary : String) : Option String :=
  if o.noLock then none else some (o.lockFile.getD (Lock.defaultPath temporary o.entity.table))

/-- How calls are tried again: as the environment says, unless the options say it. -/
def retryPolicy (o : DedupeOptions) (env : Environment) : RetryPolicy :=
  let policy := env.retryPolicy
  { policy with
    maxAttempts := (o.maxAttempts.map (max 1)).getD policy.maxAttempts
    callTimeout := o.store.callTimeout.getD policy.callTimeout }

/-- The settings of a run, unless no store could serve them. -/
def settings (o : DedupeOptions) (env : Environment) (temporary : String) :
    Except Trouble Settings := do
  let entity ← Trouble.ofReply o.entity.toTable
  let dependents ← env.dependents o.tables
  let default : Settings := { entity, dependents }
  let s : Settings := { default with
    policy := o.policy
    dryRun := o.dryRun || env.flag "DRY_RUN" false
    concurrency := max 1
      (o.concurrency.getD (env.nat "RECONCILE_CONCURRENCY" max64 default.concurrency))
    retry := o.retryPolicy env
    qualifiers := (o.stripPrefixes.map readItems).getD default.qualifiers
    journal := o.journal
    lockFile := o.lockPath temporary
    maxFailuresInARow := (o.maxFailuresInARow.map (max 1)).getD default.maxFailuresInARow }
  Trouble.ofReply s.check
  return s

end DedupeOptions

/-- What is checked for names that more than one entity has. -/
structure VerifyOptions where
  store : StoreOptions := {}
  entity : EntityOptions := {}
  stripPrefixes : Option String := none
  json : Bool := false
  deriving DecidableEq

namespace VerifyOptions

/-- The normalizer with the qualifiers that are asked for. -/
def normalizer (o : VerifyOptions) : Normalizer :=
  ((o.stripPrefixes.map readItems).map Normalizer.ofList).getD .standard

end VerifyOptions

/-- Which table of details is freed of stale records. -/
structure DetailsOptions where
  store : StoreOptions := {}
  detail : DetailOptions := {}
  dryRun : Bool := false
  json : Bool := false
  deriving DecidableEq

/-- Which owner of details is updated, and how. -/
structure OwnerUpdateOptions where
  store : StoreOptions := {}
  detail : DetailOptions := {}
  table : String := "holdings"
  idColumn : String := "id"
  id : String
  /-- The columns that are set in the dependent, as `column=value`. -/
  assignments : List String
  /-- The columns of a detail that is inserted, as `column=value`. -/
  detailValues : List String := []
  deriving DecidableEq

/-- Which dependents are looked through for values that are the id of no entity. -/
structure OrphansOptions where
  store : StoreOptions := {}
  entity : EntityOptions := {}
  tables : Option String := none
  /-- How many values are shown of each dependent; all where it is zero. -/
  sample : Nat := 20
  json : Bool := false
  deriving DecidableEq

/-- What the program is asked to do. -/
inductive Command where
  | dedupe (options : DedupeOptions)
  | verify (options : VerifyOptions)
  | details (options : DetailsOptions)
  | updateOwner (options : OwnerUpdateOptions)
  | orphans (options : OrphansOptions)
  deriving DecidableEq

/-! ## Columns that are set -/

/-- The value that a text stands for: a number, a truth value or null if it is one in JSON, and
otherwise the text itself. -/
def assignedValue (text : String) : Json :=
  match Json.parse? text with
  | some (.num n) => .num n
  | some (.bool b) => .bool b
  | some .null => .null
  | _ => .str text

/-- A column and its value, given as `column=value`. -/
def readAssignment (text : String) : Except Trouble (String × Json) :=
  match cutFirst '=' text with
  | none => .error (.ofText ("expected column=value, got " ++ quoted text))
  | some (column, value) => do
    let column := trimmed column
    Trouble.ofReply (checkIdentifier column)
    return (column, assignedValue value)

/-- Columns with their values. The last value of a column counts. -/
def readAssignments (texts : List String) : Except Trouble Row := do
  return Fields.ofList (← texts.mapM readAssignment)

end RegistryDedup
