import RegistryDedup.Run.Action
import RegistryDedup.Time.Printer

/-!
# Updating an owner

When a row that owns details is updated, a trigger of the database may add a detail. `updateOwner`
updates the row so that its owner does not end up with two details: the details are deleted first,
then the row is updated, and a detail is inserted only if there is none. Where that insert would
repeat a text, the trigger was faster.
-/

namespace RegistryDedup

open Text

/-- Where the detail of an updated row comes from. -/
inductive DetailSource where
  | trigger
  | insert
  deriving DecidableEq

/-- The name of a source. -/
def DetailSource.name : DetailSource → String
  | trigger => "trigger"
  | insert => "insert"

/-- What such an update did. -/
structure OwnerUpdateOutcome where
  /-- How many details were deleted first. -/
  removed : Nat
  source : DetailSource
  deriving DecidableEq

/-- An outcome for programs. -/
def OwnerUpdateOutcome.toJson (o : OwnerUpdateOutcome) : Json :=
  .obj [("removed", .nat o.removed), ("source", .str o.source.name)]

/-- A row and the columns that are set in it. -/
structure RowUpdate where
  table : String
  idColumn : String
  id : String
  patch : Row

/-- The detail that is inserted: a template with the owner set, and with the time of creation set
unless the template has one. -/
def detailRow (detail : DetailTable) (owner : String) (time : Instant) (template : Row) : Row :=
  let row := Row.set template detail.ownerColumn (.str owner)
  if (Fields.get? row detail.createdColumn).isSome then row
  else Row.set row detail.createdColumn (.str time.textWithOffset)

/-- A detail inserted for an owner that has none. -/
def insertDetail (policy : RetryPolicy) (owner : String) (detail : DetailTable)
    (template : Row) (removed : Nat) : Run (Reply OwnerUpdateOutcome) := do
  let time ← Run.now
  match ← Run.insertRow policy "insert_detail" detail.table
      (detailRow detail owner time template) with
  | .ok () => return .ok ⟨removed, .insert⟩
  | .error e => if e.isConstraint then return .ok ⟨removed, .trigger⟩ else return .error e

/-- The row updated and its detail restored. -/
def updateAndRestore (policy : RetryPolicy) (update : RowUpdate) (detail : DetailTable)
    (template : Row) (removed : Nat) : Run (Reply OwnerUpdateOutcome) := do
  match ← Run.updateById policy "update_dependent" update.table update.idColumn update.id
      update.patch with
  | .error e => return .error e
  | .ok 0 => return .error (.missingRow update.table update.idColumn update.id)
  | .ok _ =>
    match ← Run.countReferences policy "count_details" detail.table detail.ownerColumn
        update.id with
    | .error e => return .error e
    | .ok 0 => insertDetail policy update.id detail template removed
    | .ok _ => return .ok ⟨removed, .trigger⟩

/-- The words for details that are gone when the rest of an update fails. -/
def removedContext (update : RowUpdate) (detail : DetailTable) (removed : Nat) : String :=
  decimal removed ++ " detail row(s) in " ++ detail.table ++ " for " ++ update.table ++ " " ++
    update.id ++ " were already deleted; re-run to restore"

/-- A row updated so that its owner ends up with one detail. -/
def updateOwner (policy : RetryPolicy) (update : RowUpdate) (detail : DetailTable) (template : Row) :
    Run (Except Trouble OwnerUpdateOutcome) := do
  match ← Run.deleteWhere policy "delete_details" detail.table detail.ownerColumn update.id with
  | .error e => return .error (.ofFailure e)
  | .ok removed =>
    match ← updateAndRestore policy update detail template removed with
    | .ok outcome => return .ok outcome
    | .error e =>
      if removed = 0 then return .error (.ofFailure e)
      else return .error ((Trouble.ofFailure e).within (removedContext update detail removed))

end RegistryDedup
