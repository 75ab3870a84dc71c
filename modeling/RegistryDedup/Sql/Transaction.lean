import RegistryDedup.Sql.Fault
import RegistryDedup.Sql.Statement
import RegistryDedup.Store.Request

/-!
# Merging in a transaction

A group is merged in one transaction: all references are moved, then the losers are deleted one at
a time, each in a part of the transaction of its own. A loser whose delete is refused stays, and
the rest of the transaction goes on. A failure that is worth another attempt ends the transaction,
of which then nothing is left.

- `LoserStep`: what the delete of one loser means for its group.
- `mergeInTransaction`: the statements of a merge.
-/

namespace RegistryDedup.Sql

/-- What the delete of one loser means for its group. -/
inductive LoserStep where
  | deleted
  /-- The loser stays, and the rest of the group goes on. -/
  | rejected (failure : Failure)
  /-- The whole transaction is given up. -/
  | abandoned (failure : Failure)
  deriving DecidableEq

/-- A merge that has done nothing yet. -/
def noOutcome : MergeOutcome := ⟨[], [], []⟩

namespace LoserStep

/-- What the reply to a delete means. A loser that was gone already is as good as deleted. -/
def ofDelete : Reply Nat → LoserStep
  | .ok _ => deleted
  | .error e => if e.isRetryable then abandoned e else rejected e

/-- Whether the part of the transaction is kept. -/
def isKept : LoserStep → Bool
  | deleted => true
  | _ => false

/-- The outcome of a group with one more loser. -/
def record (outcome : MergeOutcome) (loser : String) : LoserStep → Reply MergeOutcome
  | deleted => .ok { outcome with deleted := outcome.deleted ++ [loser] }
  | rejected e => .ok { outcome with failed := outcome.failed ++ [(loser, e.message)] }
  | abandoned e => .error e

end LoserStep

/-- The failure of a call that the error of a statement stands for. -/
def failureOf (e : SqlError) : Failure :=
  (DatabaseFault.statement e.code e.message).failure

/-- A control statement. -/
def control (c : Control) : Program Session Unit :=
  .ask (.control c) .done

/-- What a statement gives. -/
def query (q : Query) : Program Session (Reply Outcome) :=
  .ask (.query q) fun
    | .ok outcome => .done (.ok outcome)
    | .error e => .done (.error (failureOf e))

/-- How many rows a statement changed or gave. -/
def execute (q : Query) : Program Session (Reply Nat) := do
  match ← query q with
  | .ok (.affected n) => return .ok n
  | .ok (.rows _ rows) => return .ok rows.length
  | .error e => return .error e

/-- The references of one dependent to each loser moved, with the number of rows. -/
def moveReferences (keep : String) (d : Dependent) :
    (losers : List String) → (moved : Nat) → Program Session (Reply Nat)
  | [], moved => return .ok moved
  | loser :: losers, moved => do
    match ← execute (repointQuery d.table d.column loser keep) with
    | .ok n => moveReferences keep d losers (moved + n)
    | .error e => return .error e

/-- The references of each dependent moved, with the numbers of rows by table. -/
def moveAll (keep : String) (losers : List String) :
    List Dependent → Tally → Program Session (Reply Tally)
  | [], moved => return .ok moved
  | d :: dependents, moved => do
    match ← moveReferences keep d losers 0 with
    | .ok n => moveAll keep losers dependents (moved.set d.table n)
    | .error e => return .error e

/-- Losers deleted one at a time, each in a part of the transaction of its own. -/
def deleteAll (t : EntityTable) : List String → MergeOutcome →
    Program Session (Reply MergeOutcome)
  | [], outcome => return .ok outcome
  | loser :: losers, outcome => do
    control (.savepoint 1)
    let step := LoserStep.ofDelete (← execute (deleteQuery t.table t.idColumn loser))
    control (if step.isKept then .release 1 else .rollbackTo 1)
    match step.record outcome loser with
    | .ok outcome => deleteAll t losers outcome
    | .error e => return .error e

/-- The statements of a merge within its transaction. -/
def mergeStatements (plan : MergePlan) : Program Session (Reply MergeOutcome) := do
  match ← moveAll plan.keep plan.losers plan.dependents [] with
  | .error e => return .error e
  | .ok moved => deleteAll plan.entity plan.losers { noOutcome with repointed := moved }

/-- A merge in one transaction, which is given up where a statement fails. -/
def mergeInTransaction (plan : MergePlan) : Program Session (Reply MergeOutcome) := do
  control .begin
  match ← mergeStatements plan with
  | .ok outcome =>
    control .commit
    return .ok outcome
  | .error e =>
    control .rollback
    return .error e

end RegistryDedup.Sql
