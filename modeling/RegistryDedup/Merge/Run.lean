import RegistryDedup.Merge.References
import RegistryDedup.Merge.Report
import RegistryDedup.Merge.Stepwise

/-!
# A run

A run fetches the entities, groups them by key, merges each group that has more than one member,
and looks at the table once more at its end.

- `preflight`: every table and column of the settings is looked for before anything is written.
- `mergeGroup`: one group. References are counted, a survivor is chosen, the journal gets its
  entry, and then the group is merged in a transaction or step by step.
- `mergeGroups`: the groups one after the other. The run gives up when too many groups in a row fail
  transiently.
- `findResiduals`: the keys that are left with more than one entity.
- `mergeAll`: a whole run. The lock is given back however it ends.
-/

namespace RegistryDedup

open Text

/-- Why a run ended early. -/
inductive Stop where
  | trouble (trouble : Trouble)
  /-- Too many groups failed; with what the run did up to then. -/
  | aborted (reason : String) (partialSummary : Summary)
  deriving DecidableEq

namespace Stop

/-- Why a run ended early, in words. -/
def message : Stop → String
  | trouble t => t.message
  | aborted reason _ => "aborting: " ++ reason

end Stop

/-- A reply that ends the run where it is a failure. -/
def stopOn {α : Type} (context : String) : Reply α → Except Stop α
  | .ok a => .ok a
  | .error f => .error (.trouble ((Trouble.ofFailure f).within context))

/-- Columns looked for table by table, up to the first failure. -/
def checkAll (policy : RetryPolicy) : List (String × List String) → Run (Reply Unit)
  | [] => return .ok ()
  | (table, columns) :: rest => do
    match ← Run.checkColumns policy table columns with
    | .ok () => checkAll policy rest
    | .error e => return .error e

/-- The tables of the settings with their columns. -/
def Settings.tables (s : Settings) : List (String × List String) :=
  (s.entity.table, s.entity.columns) :: s.dependents.map fun d => (d.table, [d.column])

/-- Every table and column of the settings looked for. Settings that no store could serve are
refused without a call. -/
def preflight (s : Settings) : Run (Reply Unit) :=
  match s.check with
  | .error e => return .error e
  | .ok () => checkAll s.retry s.tables

/-- The references of a group, where the policy looks at them. -/
def countsFor (s : Settings) (g : DuplicateGroup) : Run (Except CountFailure (List RefCount)) :=
  if s.policy.needsCounts then countGroup s.retry s.concurrency g.ids s.dependents
  else return .ok []

/-- A report with a reason why its group was not reconciled, and whether the failure was
transient. -/
def GroupReport.unreconciled (g : GroupReport) (reason : String) (transient : Bool) :
    GroupReport × Bool :=
  ({ g with status := .notReconciled reason }, transient)

/-- A report with its final status. -/
def GroupReport.finished (g : GroupReport) : GroupReport × Bool :=
  ({ g with status := if g.failed.isEmpty then .reconciled else .notFullyCleaned }, false)

/-- A group merged step by step. -/
def mergeStepwise (s : Settings) (plan : MergePlan) (report : GroupReport) :
    Run (GroupReport × Bool) := do
  match ← repointGroup s.retry plan.keep plan.losers plan.dependents with
  | .error failure =>
    return report.unreconciled failure.message failure.failure.isRetryable
  | .ok moved =>
    let purged ← purgeLosers s.retry plan.entity plan.losers
    return { report with
      repointed := moved
      deleted := purged.deleted ++ purged.absent
      failed := purged.failed }.finished

/-- A group merged in a transaction, or step by step where the store has none. -/
def mergePlanned (s : Settings) (plan : MergePlan) (report : GroupReport) :
    Run (GroupReport × Bool) := do
  match ← Run.merge s.retry plan with
  | .error e => return report.unreconciled e.message e.isRetryable
  | .ok none => mergeStepwise s plan report
  | .ok (some outcome) =>
    return { report with
      repointed := outcome.repointed
      deleted := outcome.deleted
      failed := outcome.failed }.finished

/-- The entry of a group in the journal, if there is a journal. -/
def writeJournal (s : Settings) (run key : String) (selection : Selection) :
    Run (Except FileError Unit) :=
  match s.writeJournal with
  | none => return .ok ()
  | some path => do
    let time ← Run.now
    Run.appendJournal path
      (.ofGroup run time key selection.keep.id selection.losers s.dependents)

/-- The trouble of a journal that cannot be written. -/
def journalTrouble (doing : String) (s : Settings) (e : FileError) : Stop :=
  .trouble ⟨[doing ++ " journal " ++ s.journal.getD ""], .file e⟩

/-- One group: its report, and whether it failed transiently. -/
def mergeGroup (s : Settings) (run : String) (g : DuplicateGroup) :
    Run (Except Stop (GroupReport × Bool)) := do
  let report : GroupReport := { key := g.key, members := g.ids }
  match ← countsFor s g with
  | .error failure =>
    return .ok (report.unreconciled failure.message failure.failure.isRetryable)
  | .ok counts =>
    match select s.policy g.members counts with
    | none => return .ok (report.unreconciled "empty group" false)
    | some selection =>
      let report := { report with
        keep := some selection.keep.id
        losers := selection.loserIds
        counts := counts }
      if s.dryRun then return .ok ({ report with status := .dryRun }, false)
      else
        match ← writeJournal s run g.key selection with
        | .error e => return .error (journalTrouble "writing" s e)
        | .ok () => return .ok (← mergePlanned s (s.plan g.key selection) report)

/-- A summary of what a run has done so far. -/
def summarize (s : Settings) (backend run : String) (scanned : Nat) (groups : List GroupReport)
    (residuals : List Residual) : Summary where
  run := run
  backend := backend
  table := s.entity.table
  policy := s.policy
  dryRun := s.dryRun
  scanned := scanned
  groups := groups
  residuals := residuals

/-- Why a run gives up after some groups in a row failed transiently. -/
def abortReason (streak : Nat) (last : String) : String :=
  decimal streak ++ " groups in a row failed with transient errors (last: " ++ last ++ ")"

/-- Groups one after the other, with the reports so far and the number of groups in a row that
failed transiently. `partialOf` sums up the reports of a run that gives up. -/
def mergeGroups (s : Settings) (run : String) (partialOf : List GroupReport → Summary) :
    List DuplicateGroup → (streak : Nat) → (done : List GroupReport) →
    Run (Except Stop (List GroupReport))
  | [], _, done => return .ok done
  | g :: groups, streak, done => do
    match ← mergeGroup s run g with
    | .error stop => return .error stop
    | .ok (report, transient) =>
      let done := done ++ [report]
      let streak := if transient then streak + 1 else 0
      if transient ∧ max s.maxFailuresInARow 1 ≤ streak then
        let reason := abortReason streak g.key
        return .error (.aborted reason { partialOf done with aborted := some reason })
      else mergeGroups s run partialOf groups streak done

/-- The keys that are left with more than one entity. -/
def findResiduals (policy : RetryPolicy) (table : EntityTable) (n : Normalizer) :
    Run (Reply (List Residual)) := do
  match ← Run.fetchEntities policy table with
  | .error e => return .error e
  | .ok entities => return .ok (Grouping.build n entities).residuals

/-- A run from its first fetch on. -/
def mergeFetched (s : Settings) (backend run : String) : Run (Except Stop Summary) := do
  match stopOn "fetching primary entities" (← Run.fetchEntities s.retry s.entity) with
  | .error stop => return .error stop
  | .ok entities =>
    let grouping := Grouping.build s.normalizer entities
    let summarize := summarize s backend run entities.length
    match ← mergeGroups s run (summarize · []) grouping.candidates 0 [] with
    | .error stop => return .error stop
    | .ok groups =>
      match stopOn "verification failed" (← findResiduals s.retry s.entity s.normalizer) with
      | .error stop => return .error stop
      | .ok residuals => return .ok (summarize groups residuals)

/-- A run from the opening of its journal on. -/
def mergeJournaled (s : Settings) (backend run : String) : Run (Except Stop Summary) := do
  match s.writeJournal with
  | none => mergeFetched s backend run
  | some path =>
    match ← Run.openJournal path with
    | .error e => return .error (journalTrouble "opening" s e)
    | .ok () => mergeFetched s backend run

/-- A run from the taking of its lock on. -/
def mergeLocked (s : Settings) (backend run : String) : Run (Except Stop Summary) := do
  match s.writeLock with
  | none => mergeJournaled s backend run
  | some path =>
    match ← Run.acquireLock path with
    | .error e => return .error (.trouble (.ofFailure e))
    | .ok () =>
      let result ← mergeJournaled s backend run
      Run.releaseLock path
      return result

/-- A whole run on a store of some kind. -/
def mergeAll (s : Settings) (backend run : String) : Run (Except Stop Summary) := do
  match stopOn "preflight failed" (← preflight s) with
  | .error stop => return .error stop
  | .ok () => mergeLocked s backend run

end RegistryDedup
