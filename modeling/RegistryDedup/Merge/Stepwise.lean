import RegistryDedup.Run.Action

/-!
# Merging step by step

Where a store has no transactions, a group is merged by single calls, each of which may be repeated
without harm.

- `repointGroup`: the references to each loser moved to the entity that is kept, dependent by
  dependent. The first failure ends it, so that no entity is deleted that is still referred to.
- `purgeLosers`: the losers deleted one at a time. A failure leaves that loser and goes on with the
  next.
-/

namespace RegistryDedup

/-- A move of references that failed after all its attempts. -/
structure RepointFailure where
  table : String
  loser : String
  failure : Failure
  deriving DecidableEq

namespace RepointFailure

/-- The failure in words. -/
def message (f : RepointFailure) : String :=
  "repoint of " ++ f.table ++ " from " ++ f.loser ++ " failed: " ++ f.failure.message

end RepointFailure

/-- The references of one dependent to each loser moved, with the number of rows. References that
are not found need no move. -/
def repointDependent (policy : RetryPolicy) (keep : String) (d : Dependent) :
    (losers : List String) → (moved : Nat) → Run (Except RepointFailure Nat)
  | [], moved => return .ok moved
  | loser :: losers, moved => do
    match ← Run.repoint policy d loser keep with
    | .ok n => repointDependent policy keep d losers (moved + n)
    | .error e =>
      if e.isNotFound then repointDependent policy keep d losers moved
      else return .error ⟨d.table, loser, e⟩

/-- The references of each dependent to each loser moved, with the numbers of rows by table. -/
def repointFrom (policy : RetryPolicy) (keep : String) (losers : List String) :
    (dependents : List Dependent) → (moved : Tally) → Run (Except RepointFailure Tally)
  | [], moved => return .ok moved
  | d :: dependents, moved => do
    match ← repointDependent policy keep d losers 0 with
    | .ok n => repointFrom policy keep losers dependents (moved.add d.table n)
    | .error failure => return .error failure

/-- All references to the losers of a group moved to the entity that is kept. -/
def repointGroup (policy : RetryPolicy) (keep : String) (losers : List String)
    (dependents : List Dependent) : Run (Except RepointFailure Tally) :=
  repointFrom policy keep losers dependents []

/-- What became of the losers of a group. -/
structure PurgeOutcome where
  deleted : List String := []
  /-- Losers that were gone already. -/
  absent : List String := []
  failed : List (String × String) := []
  deriving DecidableEq

namespace PurgeOutcome

/-- Whether no loser is left. -/
def isClean (o : PurgeOutcome) : Bool :=
  o.failed.isEmpty

/-- The outcome with one more loser, for which a delete gave a reply. -/
def record (o : PurgeOutcome) (id : String) : Reply Nat → PurgeOutcome
  | .ok 0 => { o with absent := o.absent ++ [id] }
  | .ok _ => { o with deleted := o.deleted ++ [id] }
  | .error e =>
    if e.isNotFound then { o with absent := o.absent ++ [id] }
    else { o with failed := o.failed ++ [(id, e.message)] }

end PurgeOutcome

/-- Losers deleted one at a time, after some others. -/
def purgeFrom (policy : RetryPolicy) (table : EntityTable) :
    (losers : List String) → PurgeOutcome → Run PurgeOutcome
  | [], outcome => return outcome
  | id :: losers, outcome => do
    let reply ← Run.deleteId policy table.table table.idColumn id
    purgeFrom policy table losers (outcome.record id reply)

/-- The losers of a group deleted one at a time. -/
def purgeLosers (policy : RetryPolicy) (table : EntityTable) (losers : List String) :
    Run PurgeOutcome :=
  purgeFrom policy table losers {}

end RegistryDedup
