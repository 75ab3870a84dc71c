import RegistryDedup.Merge.Survivor
import RegistryDedup.Name.Normalizer
import RegistryDedup.Registry.Identifier
import RegistryDedup.Store.Retry

/-!
# Settings of a run

`Settings` says what a run works on and how. `Settings.check` refuses settings that no store could
serve: names that are no names, no dependents, or no count in flight at all.
-/

namespace RegistryDedup

/-- What a run works on and how. -/
structure Settings where
  entity : EntityTable
  dependents : List Dependent
  policy : Policy := .mostReferenced
  /-- Only report what would be done. -/
  dryRun : Bool := false
  /-- How many counts may be in flight at a time. -/
  concurrency : Nat := 4
  retry : RetryPolicy := {}
  qualifiers : List String := defaultQualifiers
  journal : Option String := none
  /-- The lock file; runs without one are not kept apart. -/
  lockFile : Option String := none
  /-- How many groups in a row may fail transiently before the run gives up. -/
  maxFailuresInARow : Nat := 3

namespace Settings

/-- The normalizer with the qualifiers of a run. -/
def normalizer (s : Settings) : Normalizer :=
  .ofList s.qualifiers

/-- The names of all tables and columns of dependents. -/
def dependentNames (s : Settings) : List String :=
  s.dependents.flatMap fun d => [d.table, d.column]

/-- Refuses settings that no store could serve. -/
def check (s : Settings) : Except Failure Unit := do
  checkIdentifiers (s.entity.table :: s.entity.columns)
  if s.dependents.isEmpty then throw .noDependents
  checkIdentifiers s.dependentNames
  if s.concurrency = 0 then throw .noConcurrency

/-- The lock file of a run that writes. -/
def writeLock (s : Settings) : Option String :=
  if s.dryRun then none else s.lockFile

/-- The journal of a run that writes. -/
def writeJournal (s : Settings) : Option String :=
  if s.dryRun then none else s.journal

/-- What a merge of a group is to do. -/
def plan (s : Settings) (key : String) (selection : Selection) : MergePlan :=
  ⟨key, selection.keep.id, selection.loserIds, s.entity, s.dependents⟩

end Settings

end RegistryDedup
