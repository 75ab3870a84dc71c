import RegistryDedup.Program
import RegistryDedup.Store.Failure
import RegistryDedup.Store.Row

/-!
# Calls to a store

A store keeps tables of rows. `Request` lists the calls that it answers and `Request.Answer` the
type of the answer to each. A `Store` answers calls one at a time with a state in hand; the state
is there after a failed call too, since a call may fail half way.
-/

namespace RegistryDedup

/-- A call to a store. -/
inductive Request where
  /-- Fails unless the table has all the columns. -/
  | checkColumns (table : String) (columns : List String)
  | fetchEntities (table : EntityTable)
  /-- How many rows have a value in a column. -/
  | countReferences (table column value : String)
  /-- A value of a column replaced in every row that has it; the number of such rows. -/
  | repoint (table column source target : String)
  /-- Rows deleted by id; how many there were. -/
  | deleteIds (table idColumn : String) (ids : List String)
  /-- The values of a column, without repetition, in order. -/
  | distinctValues (table column : String)
  | fetchDetails (table : DetailTable)
  /-- Rows deleted that have a value in a column; how many there were. -/
  | deleteWhere (table column value : String)
  /-- Columns set in the rows with an id; how many there were. -/
  | updateById (table idColumn id : String) (patch : Row)
  | insertRow (table : String) (row : Row)
  /-- A whole merge in one transaction; no outcome where the store has no transactions. -/
  | merge (plan : MergePlan)

namespace Request

/-- What a call answers. -/
def Answer : Request → Type
  | checkColumns _ _ => Unit
  | fetchEntities _ => List Entity
  | countReferences _ _ _ => Nat
  | repoint _ _ _ _ => Nat
  | deleteIds _ _ _ => Nat
  | distinctValues _ _ => List String
  | fetchDetails _ => List DetailRecord
  | deleteWhere _ _ _ => Nat
  | updateById _ _ _ _ => Nat
  | insertRow _ _ => Unit
  | merge _ => Option MergeOutcome

/-- A call in words: what is done, and to what. -/
def describe : Request → String
  | checkColumns table columns => words ["check_columns", table, listed columns]
  | fetchEntities table => words ["fetch_entities", table.table]
  | countReferences table column value => words ["count_refs", table, column, value]
  | repoint table column source target => words ["repoint", table, column, source, target]
  | deleteIds table idColumn ids => words ["delete_ids", table, idColumn, listed ids]
  | distinctValues table column => words ["distinct_values", table, column]
  | fetchDetails table => words ["fetch_details", table.table]
  | deleteWhere table column value => words ["delete_where", table, column, value]
  | updateById table idColumn id _ => words ["update_by_id", table, idColumn, id]
  | insertRow table _ => words ["insert_row", table]
  | merge plan => words ["merge", plan.key, plan.keep, listed plan.losers]
where
  /-- Words with a space between them. -/
  words (xs : List String) : String := String.intercalate " " xs
  /-- Items with a comma between them. -/
  listed (xs : List String) : String := String.intercalate "," xs

end Request

/-- What a store answers with: a value or the cause of a failure. -/
abbrev Reply (α : Type) := Except Failure α

/-- A store with its state. -/
structure Store (σ : Type) where
  /-- What kind of store it is. -/
  backend : String
  call : (r : Request) → σ → Reply r.Answer × σ

end RegistryDedup
