import RegistryDedup.Files.Journal
import RegistryDedup.Run.Trouble
import RegistryDedup.Store.Request
import RegistryDedup.Store.Retry

/-!
# What a run does to the world

`Action` lists the questions of a run: calls to the store, the choice which of several calls in
flight goes on first, the time, the lock file and the journal. `Run` is the type of programs that
ask them. Each call to the store is tried again as the retry policy says; the functions named for
the calls give the outcome of the last attempt.
-/

namespace RegistryDedup

/-- What a run may ask of the world. -/
inductive Action where
  | call (r : Request)
  /-- Which of `others + 1` calls in flight goes on. -/
  | pick (others : Nat)
  | now
  | acquireLock (path : String)
  | releaseLock (path : String)
  | openJournal (path : String)
  | appendJournal (path : String) (entry : JournalEntry)

namespace Action

/-- What the world answers. -/
def Answer : Action → Type
  | call r => Attempt r.Answer
  | pick others => Fin (others + 1)
  | now => Instant
  | acquireLock _ => Except Failure Unit
  | releaseLock _ => Unit
  | openJournal _ => Except FileError Unit
  | appendJournal _ _ => Except FileError Unit

/-- Actions with their answers. -/
def interface : Interface := ⟨Action, Answer⟩

end Action

/-- A program that acts on the world. -/
abbrev Run (α : Type) := Program Action.interface α

namespace Run

/-- One attempt of a call to the store. -/
def attempt (r : Request) : Run (Attempt r.Answer) :=
  .ask (.call r) .done

/-- A call to the store with all its attempts. -/
def calling (policy : RetryPolicy) (operation : String) (r : Request) : Run (Reply r.Answer) :=
  retrying policy operation (attempt r)

/-- Fails unless a table has all of some columns. -/
def checkColumns (policy : RetryPolicy) (table : String) (columns : List String) :
    Run (Reply Unit) :=
  calling policy "check_columns" (.checkColumns table columns)

/-- The entities of a table. -/
def fetchEntities (policy : RetryPolicy) (table : EntityTable) : Run (Reply (List Entity)) :=
  calling policy "fetch_entities" (.fetchEntities table)

/-- How many rows of a dependent refer to one id, with another on its behalf in the name of the
operation. -/
def countReferences (policy : RetryPolicy) (operation table column value : String) :
    Run (Reply Nat) :=
  calling policy operation (.countReferences table column value)

/-- The references of a dependent moved from one id to another. -/
def repoint (policy : RetryPolicy) (d : Dependent) (source target : String) : Run (Reply Nat) :=
  calling policy "repoint" (.repoint d.table d.column source target)

/-- One row deleted by its id. -/
def deleteId (policy : RetryPolicy) (table idColumn id : String) : Run (Reply Nat) :=
  calling policy "delete" (.deleteIds table idColumn [id])

/-- The values of a column. -/
def distinctValues (policy : RetryPolicy) (table column : String) : Run (Reply (List String)) :=
  calling policy "distinct_values" (.distinctValues table column)

/-- The records of a table of details. -/
def fetchDetails (policy : RetryPolicy) (table : DetailTable) :
    Run (Reply (List DetailRecord)) :=
  calling policy "fetch_details" (.fetchDetails table)

/-- The rows deleted that have a value in a column. -/
def deleteWhere (policy : RetryPolicy) (operation table column value : String) :
    Run (Reply Nat) :=
  calling policy operation (.deleteWhere table column value)

/-- Columns set in the rows with an id. -/
def updateById (policy : RetryPolicy) (operation table idColumn id : String) (patch : Row) :
    Run (Reply Nat) :=
  calling policy operation (.updateById table idColumn id patch)

/-- A row added. -/
def insertRow (policy : RetryPolicy) (operation table : String) (row : Row) : Run (Reply Unit) :=
  calling policy operation (.insertRow table row)

/-- A merge in one transaction, if the store has transactions. -/
def merge (policy : RetryPolicy) (plan : MergePlan) : Run (Reply (Option MergeOutcome)) :=
  calling policy "merge" (.merge plan)

/-- The present time. -/
def now : Run Instant :=
  .ask .now .done

/-- Which of `others + 1` calls in flight goes on. -/
def pick (others : Nat) : Run (Fin (others + 1)) :=
  .ask (.pick others) .done

/-- The lock file taken. -/
def acquireLock (path : String) : Run (Except Failure Unit) :=
  .ask (.acquireLock path) .done

/-- The lock file given back. -/
def releaseLock (path : String) : Run Unit :=
  .ask (.releaseLock path) .done

/-- The journal opened; it is there afterwards. -/
def openJournal (path : String) : Run (Except FileError Unit) :=
  .ask (.openJournal path) .done

/-- An entry added to the journal. -/
def appendJournal (path : String) (entry : JournalEntry) : Run (Except FileError Unit) :=
  .ask (.appendJournal path entry) .done

end Run

end RegistryDedup
