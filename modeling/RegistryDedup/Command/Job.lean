import RegistryDedup.Audit.Orphans
import RegistryDedup.Command.Network
import RegistryDedup.Command.Outcome
import RegistryDedup.Command.Snapshot
import RegistryDedup.Detail.Dedupe
import RegistryDedup.Detail.OwnerUpdate
import RegistryDedup.Merge.Run
import RegistryDedup.Run.World

/-!
# Carrying out commands

A command is made ready first: its options are checked, and it is found out how to reach the store.
Only then the store is reached, and the work begins.

- `Job`, `Command.job`: a command that is ready.
- `Job.perform`: the work of a command in a world.
-/

namespace RegistryDedup

open Text

/-! ## How to reach the store -/

/-- How the store is reached. -/
def StoreOptions.access (o : StoreOptions) (env : Environment) : Except Trouble Access := do
  let backend ← match o.backend with
    | some backend => pure backend
    | none => env.backend
  match backend with
  | .database =>
    let url ← match o.databaseUrl with
      | some url => pure (env.preferSession url)
      | none => env.databaseUrl
    let connections := o.maxConnections.getD (env.nat "DB_MAX_CONNS" max32 5)
    match (Sql.Address.ofVariables (env.lookup ·)).read url with
    | .ok address => return .database address connections
    | .error e => throw (e.trouble.within "connecting to postgres")
  | .server =>
    let (base, key) ← env.serverCredentials
    let pageSize := env.nat "RECONCILE_PAGE_SIZE" max64 Postgrest.defaultPageSize
    return .server (.new base key pageSize max64)

/-! ## What the commands do -/

/-- What is printed of a run. -/
def Summary.outcome (s : Summary) (json : Bool) : Outcome :=
  .reported s.exitCode json s.toJson s.render

/-- What a run comes to. A run that gives up prints what it has done. -/
def dedupeOutcome (json : Bool) : Except Stop Summary → Outcome
  | .ok summary => summary.outcome json
  | .error (.aborted reason done) =>
    .failed (Stop.aborted reason done).message (done.outcome json).output
  | .error stop => .failed stop.message ""

/-- What the search for duplicates comes to. -/
def verifyOutcome (json : Bool) (residuals : List Residual) : Outcome :=
  .reported (if residuals.isEmpty then 0 else 1) json (.arr (residuals.map Residual.toJson))
    (Residual.render residuals)

/-- What the search for orphans comes to. -/
def orphansOutcome (json : Bool) (sample : Nat) (reports : List OrphanReport) : Outcome :=
  .reported (if reports.all (·.dangling.isEmpty) then 0 else 1) json
    (.arr (reports.map OrphanReport.toJson)) (OrphanReport.render sample reports)

/-- A reply within a circumstance, as the outcome of a command. -/
def outcomeOf {α : Type} (context : String) (outcome : α → Outcome) (reply : Reply α) : Outcome :=
  .ofResult ((Trouble.during context (Trouble.ofReply reply)).map outcome)

/-- The work of a command, given the name of the kind of store and the name of the run. -/
abbrev Work := (backend run : String) → Run Outcome

namespace DedupeOptions

/-- The work of a run. -/
def work (o : DedupeOptions) (env : Environment) (temporary : String) : Except Trouble Work := do
  let settings ← o.settings env temporary
  return fun backend run => do
    return dedupeOutcome o.json (← mergeAll settings backend run)

end DedupeOptions

namespace VerifyOptions

/-- The search for duplicates. -/
def work (o : VerifyOptions) (env : Environment) : Except Trouble Work := do
  let table ← Trouble.ofReply o.entity.toTable
  return fun _ _ => do
    return outcomeOf ("verifying " ++ table.table) (verifyOutcome o.json)
      (← findResiduals env.retryPolicy table o.normalizer)

end VerifyOptions

namespace DetailsOptions

/-- The deletion of stale details. -/
def work (o : DetailsOptions) (env : Environment) : Except Trouble Work := do
  let table ← Trouble.ofReply o.detail.toTable
  let dryRun := o.dryRun || env.flag "DRY_RUN" false
  return fun _ _ => do
    return outcomeOf ("deduplicating " ++ table.table)
      (fun report => .reported report.exitCode o.json report.toJson report.render)
      (← dedupeDetails env.retryPolicy table dryRun)

end DetailsOptions

namespace OwnerUpdateOptions

/-- The update of a row that owns details. -/
def work (o : OwnerUpdateOptions) (env : Environment) : Except Trouble Work := do
  let detail ← Trouble.ofReply o.detail.toTable
  Trouble.ofReply (checkIdentifier o.table)
  Trouble.ofReply (checkIdentifier o.idColumn)
  let patch ← readAssignments o.assignments
  if patch.isEmpty then
    throw (.ofText "nothing to update; pass at least one --set column=value")
  let template ← readAssignments o.detailValues
  return fun _ _ => do
    let result ← updateOwner env.retryPolicy ⟨o.table, o.idColumn, o.id, patch⟩ detail template
    return .ofResult ((Trouble.during ("rewriting " ++ o.table ++ " " ++ o.id) result).map
      fun outcome => ⟨0, outcome.toJson.compact ++ "\n", ""⟩)

end OwnerUpdateOptions

namespace OrphansOptions

/-- The search for orphans. -/
def work (o : OrphansOptions) (env : Environment) : Except Trouble Work := do
  let table ← Trouble.ofReply o.entity.toTable
  let dependents ← env.dependents o.tables
  return fun _ _ => do
    return outcomeOf "orphan audit failed" (orphansOutcome o.json o.sample)
      (← findOrphans env.retryPolicy table dependents)

end OrphansOptions

/-- The name of a run: the time at which it begins and four hexadecimal digits. -/
def runName (time : Instant) (salt : Nat) : String :=
  let digits := Nat.toDigits 16 (salt % 0x10000)
  time.stamp ++ "-" ++ String.ofList (List.replicate (4 - digits.length) '0' ++ digits)

/-! ## Commands that are ready -/

/-- A command that is ready. -/
structure Job where
  access : Access
  work : Work

namespace Command

/-- How the store of a command is reached. -/
def store : Command → StoreOptions
  | dedupe o => o.store
  | verify o => o.store
  | details o => o.store
  | updateOwner o => o.store
  | orphans o => o.store

/-- The work of a command. -/
def work (c : Command) (env : Environment) (temporary : String) : Except Trouble Work :=
  match c with
  | dedupe o => o.work env temporary
  | verify o => o.work env
  | details o => o.work env
  | updateOwner o => o.work env
  | orphans o => o.work env

/-- A command made ready: its options are checked before it is found out how to reach the store. -/
def job (c : Command) (env : Environment) (temporary : String) : Except Trouble Job := do
  let work ← c.work env temporary
  let access ← c.store.access env
  return ⟨access, work⟩

end Command

namespace Job

variable {σ : Type}

/-- The work of a command in a world, once its store is reached. -/
def perform (net : Network σ) (j : Job) (run : String) (w : World σ) : Outcome × World σ :=
  match net.connect j.access w.state with
  | (.error t, state) => (.ofTrouble t, { w with state })
  | (.ok (), state) =>
    World.perform (net.store j.access) (j.work j.access.label run) { w with state }

end Job

/-- A command carried out in a world. -/
def Command.execute {σ : Type} (net : Network σ) (env : Environment) (temporary run : String)
    (c : Command) (w : World σ) : Outcome × World σ :=
  match c.job env temporary with
  | .error t => (.ofTrouble t, w)
  | .ok job => job.perform net run w

end RegistryDedup
