import RegistryDedup.Json.Basic
import RegistryDedup.Registry.Basic
import RegistryDedup.Time.Reader

/-!
# Rows

A `Row` gives values to columns. Cells are compared by their texts: two cells are equal if their
texts are, and a null or absent cell equals nothing.

- `Row.text?`, `Row.has`: the text of a cell.
- `Row.set`, `Row.patched`: cells set.
- `Row.entity?`, `Row.detail?`: what a row of the primary table or of a table of details holds.
-/

namespace RegistryDedup

/-- A row: the values of its columns, in the order of their names. -/
abbrev Row := Fields

namespace Row

/-- The text of a cell, if it has one. -/
def text? (row : Row) (column : String) : Option String :=
  (Fields.get? row column).bind Json.text?

/-- The string in a cell, if it is a string. -/
def string? (row : Row) (column : String) : Option String :=
  (Fields.get? row column).bind Json.str?

/-- Whether a cell has a given text. -/
def has (row : Row) (column value : String) : Bool :=
  row.text? column == some value

/-- The row with one cell set. -/
def set (row : Row) (column : String) (value : Json) : Row :=
  Fields.put column value row

/-- The row with the cells of another set. -/
def patched (row patch : Row) : Row :=
  patch.foldl (fun row (column, value) => row.set column value) row

/-- The instant in a cell, if it is a string that can be read as one. -/
def instant? (row : Row) (column : String) : Option Instant :=
  (row.string? column).bind Instant.read?

/-- The entity in a row. A row without an id has none; a name that is no string is empty. -/
def entity? (table : EntityTable) (row : Row) : Option Entity := do
  let id ← row.text? table.idColumn
  return ⟨id, (row.string? table.nameColumn).getD "", table.createdColumn.bind row.instant?⟩

/-- The detail record in a row. A row without an id or an owner has none. -/
def detail? (table : DetailTable) (row : Row) : Option DetailRecord := do
  let id ← row.text? table.idColumn
  let owner ← row.text? table.ownerColumn
  return ⟨id, owner, row.instant? table.createdColumn⟩

end Row

end RegistryDedup
