import RegistryDedup.Json.Printer
import RegistryDedup.Program
import RegistryDedup.Registry.Identifier
import RegistryDedup.Store.Row

/-!
# SQL statements

- `quoteName`: a name between quotes, part by part.
- `Query`: a statement with its parameters; `Control`: a statement that begins or ends a
  transaction or a part of it.
- `Session`: the interface of a program that sends statements to a database.

A text that is to be stored in a column of unknown type goes through a record of the table, so that
the database converts it.
-/

namespace RegistryDedup.Sql

open Text

/-- How a character is written between quotes. -/
def quotedNameChar (c : Char) : List Char :=
  if c = '"' then ['"', '"'] else [c]

/-- A part of a name between quotes. -/
def quotePart (part : List Char) : List Char :=
  '"' :: part.flatMap quotedNameChar ++ ['"']

/-- A name between quotes: each part on its own, with the dots between them. -/
def quoteName (name : String) : String :=
  String.ofList (joinWith ['.'] ((splitOn '.' name.toList).map quotePart))

/-- The schema and the table that a name stands for. -/
def splitTable (name : String) : String × String :=
  (cutFirst '.' name).getD ("public", name)

/-- A parameter of a statement. -/
inductive Param where
  | text (value : String)
  | texts (values : List String)
  | json (value : Json)

/-- A statement with its parameters. -/
structure Query where
  sql : String
  params : List Param := []

/-- A statement that begins or ends a transaction, or a part of it at a depth. -/
inductive Control where
  | begin
  | commit
  | rollback
  | savepoint (depth : Nat)
  | release (depth : Nat)
  | rollbackTo (depth : Nat)
  deriving DecidableEq

namespace Control

/-- The name of the part of a transaction at a depth. -/
def savepointName (depth : Nat) : String :=
  "_sqlx_savepoint_" ++ decimal depth

/-- A control statement as it is sent. -/
def text : Control → String
  | begin => "BEGIN"
  | commit => "COMMIT"
  | rollback => "ROLLBACK"
  | savepoint depth => "SAVEPOINT " ++ savepointName depth
  | release depth => "RELEASE SAVEPOINT " ++ savepointName depth
  | rollbackTo depth => "ROLLBACK TO SAVEPOINT " ++ savepointName depth

end Control

/-- A statement of either kind. -/
inductive Statement where
  | query (query : Query)
  | control (control : Control)

/-- A value in a row of a result. -/
inductive Cell where
  | null
  | text (value : String)
  | integer (value : Int)
  | instant (value : Instant)

/-- What a statement gives: rows with the names of their columns, or the number of rows that it
changed. -/
inductive Outcome where
  | rows (columns : List String) (rows : List (List Cell))
  | affected (count : Nat)

/-- The error of a statement: the code and the message of the database. -/
structure SqlError where
  code : String
  message : String
  deriving DecidableEq

/-- The interface of a program that sends statements. Control statements succeed. -/
def Session : Interface where
  Ask := Statement
  Answer
    | .query _ => Except SqlError Outcome
    | .control _ => Unit

/-! ## The statements of the store -/

/-- The name under which the program is connected. -/
def nameQuery : Query := ⟨"SET application_name = 'forest_admin'", []⟩

/-- The columns of a table. -/
def columnsQuery (table : String) : Query :=
  let (schema, name) := splitTable table
  ⟨"SELECT column_name::text FROM information_schema.columns WHERE table_schema = $1 AND table_name = $2",
    [.text schema, .text name]⟩

/-- The entities of a table. -/
def entitiesQuery (t : EntityTable) : Query :=
  let id := quoteName t.idColumn
  let created := match t.createdColumn with
    | some column => quoteName column ++ "::timestamptz"
    | none => "NULL::timestamptz"
  ⟨"SELECT " ++ id ++ "::text AS id, " ++ quoteName t.nameColumn ++ "::text AS name, " ++ created ++
    " AS created_at FROM " ++ quoteName t.table ++ " ORDER BY " ++ id, []⟩

/-- How many rows have a value in a column. -/
def countQuery (table column value : String) : Query :=
  ⟨"SELECT COUNT(*) FROM " ++ quoteName table ++ " WHERE " ++ quoteName column ++ "::text = $1",
    [.text value]⟩

/-- The text of a statement that replaces a value of a column. -/
def repointSql (table column : String) : String :=
  let t := quoteName table
  let c := quoteName column
  "UPDATE " ++ t ++ " SET " ++ c ++ " = (json_populate_record(NULL::" ++ t ++
    ", json_build_object('" ++ column ++ "', $1::text)))." ++ c ++ " WHERE " ++ c ++ "::text = $2"

/-- A value of a column replaced. -/
def repointQuery (table column source target : String) : Query :=
  ⟨repointSql table column, [.text target, .text source]⟩

/-- The text of a statement that deletes the rows with a value in a column. -/
def deleteSql (table column : String) : String :=
  "DELETE FROM " ++ quoteName table ++ " WHERE " ++ quoteName column ++ "::text = $1"

/-- The rows with a value in a column deleted. -/
def deleteQuery (table column value : String) : Query :=
  ⟨deleteSql table column, [.text value]⟩

/-- The rows with one of some values in a column deleted. -/
def deleteAnyQuery (table column : String) (values : List String) : Query :=
  ⟨"DELETE FROM " ++ quoteName table ++ " WHERE " ++ quoteName column ++ "::text = ANY($1)",
    [.texts values]⟩

/-- The values of a column. -/
def distinctQuery (table column : String) : Query :=
  let c := quoteName column
  ⟨"SELECT DISTINCT " ++ c ++ "::text FROM " ++ quoteName table ++ " WHERE " ++ c ++
    " IS NOT NULL ORDER BY 1", []⟩

/-- The records of a table of details. -/
def detailsQuery (t : DetailTable) : Query :=
  ⟨"SELECT " ++ quoteName t.idColumn ++ "::text AS id, " ++ quoteName t.ownerColumn ++
    "::text AS owner_id, " ++ quoteName t.createdColumn ++ "::timestamptz AS created_at FROM " ++
    quoteName t.table ++ " WHERE " ++ quoteName t.ownerColumn ++ " IS NOT NULL", []⟩

/-- The names of the columns of a row, quoted. A row without columns, or with one whose name is no
name, is refused. -/
def rowColumns (row : Row) : Except Failure (List String) :=
  if row.isEmpty then .error .emptyRow
  else row.mapM fun (column, _) => do
    checkIdentifier column
    return quoteName column

/-- Columns set in the rows with an id. -/
def updateQuery (table idColumn id : String) (patch : Row) : Except Failure Query := do
  let columns := String.intercalate ", " (← rowColumns patch)
  let t := quoteName table
  return ⟨"UPDATE " ++ t ++ " SET (" ++ columns ++ ") = (SELECT " ++ columns ++
    " FROM json_populate_record(NULL::" ++ t ++ ", $1::json)) WHERE " ++ quoteName idColumn ++
    "::text = $2", [.json (.obj patch), .text id]⟩

/-- A row added. -/
def insertQuery (table : String) (row : Row) : Except Failure Query := do
  let columns := String.intercalate ", " (← rowColumns row)
  let t := quoteName table
  return ⟨"INSERT INTO " ++ t ++ " (" ++ columns ++ ") SELECT " ++ columns ++
    " FROM json_populate_record(NULL::" ++ t ++ ", $1::json)", [.json (.obj row)]⟩

end RegistryDedup.Sql
