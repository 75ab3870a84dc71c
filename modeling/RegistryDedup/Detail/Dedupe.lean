import RegistryDedup.Detail.Duplicates
import RegistryDedup.Merge.Report
import RegistryDedup.Run.Action

/-!
# Deleting stale details

`dedupeDetails` keeps the newest record of each owner and deletes the others one at a time. A
failure leaves that record and goes on with the next. At the end the table is read once more, and
the owners that still have several records are reported.
-/

namespace RegistryDedup

open Text

/-- What became of a table of details. -/
structure DetailReport where
  table : String
  dryRun : Bool
  scanned : Nat
  duplicates : List DetailDuplicate
  deleted : List String := []
  failed : List (String × String) := []
  /-- Owners that have several records at the end. -/
  residualOwners : List String := []
  deriving DecidableEq

namespace DetailReport

/-- 0 where no owner has several records at the end, 1 otherwise. -/
def exitCode (r : DetailReport) : Nat :=
  if r.residualOwners.isEmpty then 0 else 1

/-- A report for people. -/
def render (r : DetailReport) : String :=
  let head := r.table ++ ": " ++ decimal r.scanned ++ " detail rows, " ++
    decimal r.duplicates.length ++ " owners with duplicates" ++
    (if r.dryRun then " (dry run)" else "")
  let owners := r.duplicates.map fun d =>
    "  owner " ++ d.owner ++ " keep " ++ d.keep.id ++ " drop " ++ commaList (d.stale.map (·.id))
  let failed := r.failed.map fun (id, why) => "  FAILED delete " ++ id ++ ": " ++ why
  let last :=
    if r.residualOwners.isEmpty then "no owners with duplicate detail rows remain"
    else "owners still duplicated: " ++ commaList r.residualOwners
  lines (head :: owners ++ failed ++ [last])

end DetailReport

/-- A record for programs. -/
def DetailRecord.toJson (r : DetailRecord) : Json :=
  .obj [("id", .str r.id), ("owner_id", .str r.owner),
    ("created_at", .optional (r.created.map Instant.text))]

/-- An owner with several records for programs. -/
def DetailDuplicate.toJson (d : DetailDuplicate) : Json :=
  .obj [("owner_id", .str d.owner), ("keep", d.keep.toJson),
    ("stale", .arr (d.stale.map DetailRecord.toJson))]

/-- A report for programs. -/
def DetailReport.toJson (r : DetailReport) : Json :=
  .obj [("table", .str r.table), ("dry_run", .bool r.dryRun),
    ("records_scanned", .nat r.scanned),
    ("duplicates", .arr (r.duplicates.map DetailDuplicate.toJson)),
    ("deleted", .strings r.deleted), ("failed", failedToJson r.failed),
    ("residual_owners", .strings r.residualOwners)]

namespace DetailReport

/-- A report with one more record, for which a delete gave a reply. A record that is not found
counts as deleted. -/
def record (r : DetailReport) (id : String) : Reply Nat → DetailReport
  | .ok _ => { r with deleted := r.deleted ++ [id] }
  | .error e =>
    if e.isNotFound then { r with deleted := r.deleted ++ [id] }
    else { r with failed := r.failed ++ [(id, e.message)] }

end DetailReport

/-- Records deleted one at a time. -/
def deleteStale (policy : RetryPolicy) (table : DetailTable) :
    (ids : List String) → DetailReport → Run DetailReport
  | [], report => return report
  | id :: ids, report => do
    let reply ← Run.deleteId policy table.table table.idColumn id
    deleteStale policy table ids (report.record id reply)

/-- The ids of all stale records. -/
def staleIds (duplicates : List DetailDuplicate) : List String :=
  duplicates.flatMap fun d => d.stale.map (·.id)

/-- The stale records of a table deleted. A dry run deletes nothing and reports the owners that it
would work on. -/
def dedupeDetails (policy : RetryPolicy) (table : DetailTable) (dryRun : Bool) :
    Run (Reply DetailReport) := do
  match ← Run.fetchDetails policy table with
  | .error e => return .error e
  | .ok records =>
    let duplicates := duplicateDetails records
    let report : DetailReport :=
      { table := table.table, dryRun, scanned := records.length, duplicates }
    if duplicates.isEmpty then return .ok report
    else if dryRun then return .ok { report with residualOwners := duplicates.map (·.owner) }
    else
      let report ← deleteStale policy table (staleIds duplicates) report
      match ← Run.fetchDetails policy table with
      | .error e => return .error e
      | .ok after =>
        return .ok { report with residualOwners := (duplicateDetails after).map (·.owner) }

end RegistryDedup
