import RegistryDedup.Time.Instant

/-!
# Entities, dependents and details

- `Entity`: a row of the primary table. Rows whose names come to the same key are duplicates.
- `Dependent`: a column of some table that refers to entities by their id.
- `DetailRecord`: a row that belongs to one owner, of which an owner should have one only.
- `EntityTable`, `DetailTable`: where entities and details are kept, and in which columns.
- `MergePlan`: what a merge of one group is to do; `MergeOutcome`: what it did.
- `Tally`: numbers of rows by table, in the order in which the tables first came up.
-/

namespace RegistryDedup

/-- A row of the primary table. -/
structure Entity where
  id : String
  name : String
  created : Option Instant
  deriving DecidableEq

/-- A column that refers to entities. -/
structure Dependent where
  table : String
  column : String
  deriving DecidableEq

namespace Dependent

/-- How a dependent is written: table and column with a colon between them. -/
def text (d : Dependent) : String :=
  d.table ++ ":" ++ d.column

end Dependent

/-- The primary table and its columns. A table may do without a column for the time of creation. -/
structure EntityTable where
  table : String
  idColumn : String
  nameColumn : String
  createdColumn : Option String
  deriving DecidableEq

namespace EntityTable

/-- The columns that a merge reads. -/
def columns (t : EntityTable) : List String :=
  t.idColumn :: t.nameColumn :: t.createdColumn.toList

end EntityTable

/-- A table of details and its columns. -/
structure DetailTable where
  table : String
  idColumn : String
  ownerColumn : String
  createdColumn : String
  deriving DecidableEq

/-- A row of a table of details. -/
structure DetailRecord where
  id : String
  owner : String
  created : Option Instant
  deriving DecidableEq

/-- Numbers of rows by table. -/
abbrev Tally := List (String × Nat)

namespace Tally

/-- The number for a table, or zero. -/
def get (tally : Tally) (table : String) : Nat :=
  (tally.lookup table).getD 0

/-- A number added to that of a table; a table not seen before comes last. -/
def add (table : String) (n : Nat) : Tally → Tally
  | [] => [(table, n)]
  | (t, m) :: rest => if t = table then (t, m + n) :: rest else (t, m) :: add table n rest

/-- The number of a table replaced; a table not seen before comes last. -/
def set (table : String) (n : Nat) : Tally → Tally
  | [] => [(table, n)]
  | (t, m) :: rest => if t = table then (t, n) :: rest else (t, m) :: set table n rest

/-- Zero for each of some tables. -/
def zeros (tables : List String) : Tally :=
  tables.foldl (fun tally table => tally.add table 0) []

end Tally

/-- What a merge of one group is to do: move all references to the losers onto the entity that is
kept, then delete the losers. -/
structure MergePlan where
  key : String
  keep : String
  losers : List String
  entity : EntityTable
  dependents : List Dependent
  deriving DecidableEq

/-- What a merge did: rows moved by table, losers deleted, and losers that could not be deleted
with the reason. -/
structure MergeOutcome where
  repointed : Tally
  deleted : List String
  failed : List (String × String)
  deriving DecidableEq

end RegistryDedup
