import RegistryDedup.Merge.Settings
import RegistryDedup.Name.Grouping
import RegistryDedup.Json.Printer

/-!
# Reports of a run

- `GroupReport`: what became of one group.
- `Summary`: what became of a run. Its exit code is 0 where no key is left with more than one
  entity, 1 where there is one, and 2 where the run did not get as far as to find out.
- `Summary.render`: a summary for people; keys that are left with several entities come last.
- `Summary.toJson`: a summary for programs.
-/

namespace RegistryDedup

open Text

/-- What became of a group. -/
inductive GroupStatus where
  | reconciled
  /-- The plan is made, nothing is written. -/
  | dryRun
  | notReconciled (reason : String)
  /-- All references are moved, but a loser is still there. -/
  | notFullyCleaned
  deriving DecidableEq

namespace GroupStatus

/-- A status for people. -/
def label : GroupStatus → String
  | reconciled => "reconciled"
  | dryRun => "dry-run"
  | notReconciled _ => "NOT RECONCILED"
  | notFullyCleaned => "NOT FULLY CLEANED"

/-- A status for programs. -/
def tag : GroupStatus → String
  | reconciled => "reconciled"
  | dryRun => "dry_run"
  | notReconciled _ => "not_reconciled"
  | notFullyCleaned => "not_fully_cleaned"

/-- Why a group was not reconciled. -/
def reason? : GroupStatus → Option String
  | notReconciled reason => some reason
  | _ => none

end GroupStatus

/-- What became of one group. -/
structure GroupReport where
  key : String
  members : List String
  keep : Option String := none
  losers : List String := []
  counts : List RefCount := []
  repointed : Tally := []
  deleted : List String := []
  failed : List (String × String) := []
  status : GroupStatus := .dryRun
  deriving DecidableEq

/-- What became of a run. -/
structure Summary where
  run : String
  backend : String
  table : String
  policy : Policy
  dryRun : Bool
  scanned : Nat
  groups : List GroupReport
  residuals : List Residual
  /-- Why the run gave up before the check at its end. -/
  aborted : Option String := none
  deriving DecidableEq

/-- Lines of text, each with its end. -/
def lines (xs : List String) : String :=
  String.join (xs.map (· ++ "\n"))

/-- Ids with a comma between them. -/
def commaList (xs : List String) : String :=
  String.intercalate "," xs

namespace Residual

/-- Keys that are left with several entities, for people. -/
def render (residuals : List Residual) : String :=
  if residuals.isEmpty then lines ["residual duplicates: none"]
  else
    lines (("residual duplicates (" ++ decimal residuals.length ++ "):") ::
      residuals.map fun r => "  " ++ r.key ++ " -> " ++ commaList r.ids)

/-- A key with its ids. -/
def toJson (r : Residual) : Json :=
  .obj [("key", .str r.key), ("ids", .strings r.ids)]

end Residual

namespace GroupReport

/-- The lines of a report. -/
def renderLines (g : GroupReport) : List String :=
  let head := "- " ++ g.key ++ " [" ++ g.status.label ++ "] keep=" ++ g.keep.getD "-" ++
    " merge=" ++ commaList g.losers
  let reason := g.status.reason?.toList.map fun reason => "    reason: " ++ reason
  let moved := g.repointed.map fun (table, n) =>
    "    repointed " ++ decimal n ++ " rows in " ++ table
  let failed := g.failed.map fun (id, why) => "    delete " ++ id ++ " failed: " ++ why
  head :: reason ++ moved ++ failed

end GroupReport

/-- A tally as an object. -/
def Tally.toJson (tally : Tally) : Json :=
  .obj (tally.map fun (table, n) => (table, .nat n))

/-- The references of a member. -/
def RefCount.toJson (c : RefCount) : Json :=
  .obj [("id", .str c.id), ("total", .nat c.total), ("per_table", c.perTable.toJson)]

/-- Ids with the reason why each could not be deleted. -/
def failedToJson (failed : List (String × String)) : Json :=
  .arr (failed.map fun (id, why) => .arr [.str id, .str why])

namespace GroupReport

/-- A report for programs. -/
def toJson (g : GroupReport) : Json :=
  .obj ([("key", .str g.key), ("members", .strings g.members), ("keep_id", .optional g.keep),
    ("losers", .strings g.losers), ("counts", .arr (g.counts.map RefCount.toJson)),
    ("repointed", g.repointed.toJson), ("deleted", .strings g.deleted),
    ("failed", failedToJson g.failed), ("status", .str g.status.tag)] ++
    g.status.reason?.toList.map fun reason => ("reason", .str reason))

end GroupReport

namespace Summary

/-- The exit code of a run. -/
def exitCode (s : Summary) : Nat :=
  if s.aborted.isSome then 2 else if s.residuals.isEmpty then 0 else 1

/-- How many groups were reconciled. -/
def reconciled (s : Summary) : Nat :=
  s.groups.countP (·.status == .reconciled)

/-- A summary for people. -/
def render (s : Summary) : String :=
  let head := "run " ++ s.run ++ " on " ++ s.table ++ " (" ++ s.backend ++ "), policy " ++
    s.policy.name ++ (if s.dryRun then ", DRY RUN" else "")
  let scope := "scanned " ++ decimal s.scanned ++ " entities, " ++ decimal s.groups.length ++
    " duplicate groups, " ++ decimal s.reconciled ++ " reconciled"
  lines (head :: scope :: s.groups.flatMap GroupReport.renderLines) ++
    match s.aborted with
    | some reason => lines ["run aborted before verification: " ++ reason]
    | none => Residual.render s.residuals

/-- A summary for programs. -/
def toJson (s : Summary) : Json :=
  .obj ([("run_id", .str s.run), ("backend", .str s.backend), ("table", .str s.table),
    ("policy", .str s.policy.name), ("dry_run", .bool s.dryRun),
    ("entities_scanned", .nat s.scanned), ("groups", .arr (s.groups.map GroupReport.toJson)),
    ("residuals", .arr (s.residuals.map Residual.toJson))] ++
    s.aborted.toList.map fun reason => ("aborted", .str reason))

end Summary

end RegistryDedup
