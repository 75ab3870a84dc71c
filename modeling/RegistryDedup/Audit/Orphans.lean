import RegistryDedup.Json.Basic
import RegistryDedup.Run.Action

/-!
# Orphaned references

`findOrphans` looks for the values of each dependent that are the id of no entity.
-/

namespace RegistryDedup

open Text

/-- The values of a dependent that are the id of no entity. -/
structure OrphanReport where
  table : String
  column : String
  dangling : List String
  deriving DecidableEq

namespace OrphanReport

/-- A report for programs. -/
def toJson (r : OrphanReport) : Json :=
  .obj [("table", .str r.table), ("fk_column", .str r.column),
    ("dangling", .strings r.dangling)]

/-- The lines of a report with at most `sample` values, or with all where `sample` is zero. -/
def renderLines (sample : Nat) (r : OrphanReport) : List String :=
  let total := r.dangling.length
  let shown := if sample = 0 then total else sample
  let head := r.table ++ "." ++ r.column ++ ": " ++ decimal total ++ " orphaned value(s)"
  let more := if shown < total then ["  ... " ++ decimal (total - shown) ++ " more"] else []
  head :: (r.dangling.take shown).map ("  " ++ ·) ++ more

/-- Reports for people. -/
def render (sample : Nat) (reports : List OrphanReport) : String :=
  String.join ((reports.flatMap (renderLines sample)).map (· ++ "\n"))

end OrphanReport

/-- The reports of some dependents, given the ids of all entities. -/
def auditDependents (policy : RetryPolicy) (ids : List String) :
    List Dependent → Run (Reply (List OrphanReport))
  | [] => return .ok []
  | d :: dependents => do
    match ← Run.distinctValues policy d.table d.column with
    | .error e => return .error e
    | .ok values =>
      let report : OrphanReport := ⟨d.table, d.column, values.filter fun v => !ids.contains v⟩
      match ← auditDependents policy ids dependents with
      | .error e => return .error e
      | .ok reports => return .ok (report :: reports)

/-- The values of each dependent that are the id of no entity. -/
def findOrphans (policy : RetryPolicy) (table : EntityTable) (dependents : List Dependent) :
    Run (Reply (List OrphanReport)) := do
  match ← Run.fetchEntities policy table with
  | .error e => return .error e
  | .ok entities => auditDependents policy (entities.map (·.id)) dependents

end RegistryDedup
