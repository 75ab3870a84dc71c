import RegistryDedup.Sql.Transaction

/-!
# A store in a database

Every call is one statement; a merge is one transaction. `call` gives the statements of each call,
as a program that sends them.
-/

namespace RegistryDedup.Sql

open Text

/-- A cell that is not what it should be. -/
def undecodable (column why : String) : Failure :=
  (DatabaseFault.columnDecoding column why).failure

/-- The text in a cell. -/
def textCell (column : String) : Cell → Reply String
  | .text s => .ok s
  | .null => .error (undecodable column "unexpected null")
  | _ => .error (undecodable column "mismatched types")

/-- The text in a cell, if it is not null. -/
def optionalText (column : String) : Cell → Reply (Option String)
  | .text s => .ok (some s)
  | .null => .ok none
  | _ => .error (undecodable column "mismatched types")

/-- The instant in a cell, if it is not null. -/
def optionalInstant (column : String) : Cell → Reply (Option Instant)
  | .instant t => .ok (some t)
  | .null => .ok none
  | _ => .error (undecodable column "mismatched types")

/-- The number in a cell. -/
def integerCell (column : String) : Cell → Reply Int
  | .integer n => .ok n
  | .null => .error (undecodable column "unexpected null")
  | _ => .error (undecodable column "mismatched types")

/-- The cell of a row in a column. -/
def cellOf (columns : List String) (row : List Cell) (column : String) : Reply Cell :=
  match (columns.zip row).lookup column with
  | some cell => .ok cell
  | none => .error (DatabaseFault.columnNotFound column).failure

/-- The first cell of a row. -/
def firstCell : List Cell → Reply Cell
  | cell :: _ => .ok cell
  | [] => .error (DatabaseFault.columnIndex 0 0).failure

/-- The rows that a statement gives, with the names of their columns. -/
def fetch (q : Query) : Program Session (Reply (List String × List (List Cell))) := do
  match ← query q with
  | .ok (.rows columns rows) => return .ok (columns, rows)
  | .ok (.affected _) => return .ok ([], [])
  | .error e => return .error e

/-- What a statement gives, read from its rows. -/
def fetchAs {α : Type} (q : Query) (read : List String → List Cell → Reply α) :
    Program Session (Reply (List α)) := do
  match ← fetch q with
  | .ok (columns, rows) => return rows.mapM (read columns)
  | .error e => return .error e

/-- The texts in the first column of what a statement gives. -/
def fetchTexts (q : Query) : Program Session (Reply (List String)) :=
  fetchAs q fun _ row => do textCell "0" (← firstCell row)

/-- An entity in a row. A name that is null is empty. -/
def readEntity (columns : List String) (row : List Cell) : Reply Entity := do
  let name ← optionalText (quoted "name") (← cellOf columns row "name")
  let id ← textCell (quoted "id") (← cellOf columns row "id")
  let created ← optionalInstant (quoted "created_at") (← cellOf columns row "created_at")
  return ⟨id, name.getD "", created⟩

/-- A detail record in a row. -/
def readDetail (columns : List String) (row : List Cell) : Reply DetailRecord := do
  let id ← textCell (quoted "id") (← cellOf columns row "id")
  let owner ← textCell (quoted "owner_id") (← cellOf columns row "owner_id")
  let created ← optionalInstant (quoted "created_at") (← cellOf columns row "created_at")
  return ⟨id, owner, created⟩

/-- Fails unless a table has all of some columns. -/
def checkColumns (table : String) (columns : List String) : Program Session (Reply Unit) := do
  match checkIdentifier table with
  | .error e => return .error e
  | .ok () =>
    match ← fetchTexts (columnsQuery table) with
    | .error e => return .error e
    | .ok present =>
      let missing := columns.filter fun c => !present.contains c
      if present.isEmpty then return .error (.unknownTable table)
      else if missing.isEmpty then return .ok ()
      else return .error (.unknownColumns table missing)

/-- How many rows have a value in a column. -/
def countReferences (table column value : String) : Program Session (Reply Nat) := do
  match ← fetchAs (countQuery table column value) fun _ row => do
      integerCell "0" (← firstCell row) with
  | .ok (n :: _) => return .ok n.toNat
  | .ok [] => return .error DatabaseFault.rowNotFound.failure
  | .error e => return .error e

/-- A statement that may be refused before it is sent. -/
def executeChecked (q : Except Failure Query) : Program Session (Reply Nat) :=
  match q with
  | .ok q => execute q
  | .error e => .done (.error e)

/-- A row added. -/
def insertRow (table : String) (row : Row) : Program Session (Reply Unit) := do
  match ← executeChecked (insertQuery table row) with
  | .ok _ => return .ok ()
  | .error e => return .error e

/-- A merge in one transaction. -/
def merge (plan : MergePlan) : Program Session (Reply (Option MergeOutcome)) := do
  match ← mergeInTransaction plan with
  | .ok outcome => return .ok (some outcome)
  | .error e => return .error e

/-- The statements of each call. -/
def call : (r : Request) → Program Session (Reply r.Answer)
  | .checkColumns table columns => checkColumns table columns
  | .fetchEntities table => fetchAs (entitiesQuery table) readEntity
  | .countReferences table column value => countReferences table column value
  | .repoint table column source target => execute (repointQuery table column source target)
  | .deleteIds table idColumn ids =>
    if ids.isEmpty then .done (.ok (0 : Nat)) else execute (deleteAnyQuery table idColumn ids)
  | .distinctValues table column => fetchTexts (distinctQuery table column)
  | .fetchDetails table => fetchAs (detailsQuery table) readDetail
  | .deleteWhere table column value => execute (deleteQuery table column value)
  | .updateById table idColumn id patch => executeChecked (updateQuery table idColumn id patch)
  | .insertRow table row => insertRow table row
  | .merge plan => merge plan

end RegistryDedup.Sql
