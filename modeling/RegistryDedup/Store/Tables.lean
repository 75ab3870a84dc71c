import RegistryDedup.Store.Request
import RegistryDedup.Time.Printer

/-!
# Tables in memory

A store that keeps its tables in memory.

- `Table`: rows, the columns that the table has, and those in which no text may occur twice.
- `Tables`: tables by name, with triggers that add a detail row where its owner has none, and with
  calls that are set up to fail.
- `Tables.call`: the answer to each call. A call that fails half way keeps what it has done.
- `Event`: what changed, in order.
-/

namespace RegistryDedup

open Text

/-- A table. -/
structure Table where
  columns : List String := []
  /-- Columns in which no text may occur twice. -/
  unique : List String := []
  rows : List Row := []

namespace Table

/-- Whether some row other than the one at `skip` has a text in a column. -/
def holds (t : Table) (column value : String) (skip : Option Nat) : Bool :=
  t.rows.zipIdx.any fun (row, i) => some i != skip && row.has column value

/-- The first column without repetition in which a row would repeat a text, with that text. -/
def clash? (t : Table) (row : Row) (skip : Option Nat) : Option (String × String) :=
  t.unique.findSome? fun column =>
    match row.text? column with
    | some value => if t.holds column value skip then some (column, value) else none
    | none => none

/-- The table with a value of a column replaced, and the number of rows in which it was. -/
def repointed (t : Table) (column source target : String) : Table × Nat :=
  let rows := t.rows.map fun row =>
    if row.has column source then row.set column (.str target) else row
  ({ t with rows }, t.rows.countP (·.has column source))

/-- The table without the rows that have one of some texts in a column, and the number of those. -/
def without (t : Table) (column : String) (values : List String) : Table × Nat :=
  let gone (row : Row) : Bool := values.any fun value => row.has column value
  ({ t with rows := t.rows.filter fun row => !gone row }, t.rows.countP gone)

end Table

/-- A detail row is added when a row of `ownerTable` is updated that has none. -/
structure DetailTrigger where
  ownerTable : String
  detail : DetailTable

/-- A change of the tables. -/
inductive Event where
  | repointed (table source target : String)
  | deleted (table id : String)
  | triggered (table owner : String)
  | inserted (table : String)
  deriving DecidableEq

namespace Event

/-- An event in words. -/
def text : Event → String
  | repointed table source target => "repoint " ++ table ++ " " ++ source ++ "->" ++ target
  | deleted table id => "delete " ++ table ++ " " ++ id
  | triggered table owner => "trigger " ++ table ++ " " ++ owner
  | inserted table => "insert " ++ table

end Event

/-- Tables in memory. -/
structure Tables where
  /-- The time with which triggers stamp their rows. -/
  clock : Instant
  tables : List (String × Table) := []
  triggers : List DetailTrigger := []
  /-- Table and value of the counts that fail. -/
  failingCounts : List (String × String) := []
  /-- Table and id of the deletes that are refused. -/
  failingDeletes : List (String × String) := []
  /-- How many calls changed a row. -/
  writes : Nat := 0
  /-- How many rows triggers have added. -/
  added : Nat := 0
  events : List Event := []

namespace Tables

/-! ## Tables by name -/

/-- The table of a name. -/
def find? (s : Tables) (name : String) : Option Table :=
  s.tables.lookup name

/-- A table put into a list under its name, in place of one that has the name. -/
def place (name : String) (t : Table) : List (String × Table) → List (String × Table)
  | [] => [(name, t)]
  | (n, u) :: rest => if n = name then (n, t) :: rest else (n, u) :: place name t rest

/-- The store with a table under a name. -/
def put (s : Tables) (name : String) (t : Table) : Tables :=
  { s with tables := place name t s.tables }

/-- The store with a table of a name changed, if there is one. -/
def modify (s : Tables) (name : String) (f : Table → Table) : Tables :=
  match s.find? name with
  | some t => s.put name (f t)
  | none => s

/-- The rows of a table; none where there is no such table. -/
def rows (s : Tables) (name : String) : List Row :=
  ((s.find? name).map Table.rows).getD []

/-- The store with an event noted. -/
def note (s : Tables) (e : Event) : Tables :=
  { s with events := s.events ++ [e] }

/-- The store with one more call counted that changed `n` rows, if `n` is not zero. -/
def wrote (s : Tables) (n : Nat) : Tables :=
  if n = 0 then s else { s with writes := s.writes + 1 }

/-! ## Setting up -/

/-- An empty table with some columns. -/
def createTable (s : Tables) (name : String) (columns : List String) : Tables :=
  s.put name { columns }

/-- No text may occur twice in a column from now on. -/
def addUnique (s : Tables) (table column : String) : Tables :=
  s.modify table fun t => { t with unique := t.unique ++ [column] }

/-- A row put into a table as it is. -/
def seed (s : Tables) (table : String) (row : Row) : Tables :=
  s.modify table fun t => { t with rows := t.rows ++ [row] }

/-- A trigger added. -/
def addTrigger (s : Tables) (trigger : DetailTrigger) : Tables :=
  { s with triggers := s.triggers ++ [trigger] }

/-- Counts of a value in a table fail from now on. -/
def failCount (s : Tables) (table value : String) : Tables :=
  { s with failingCounts := s.failingCounts ++ [(table, value)] }

/-- Deletes of an id in a table are refused from now on. -/
def failDelete (s : Tables) (table id : String) : Tables :=
  { s with failingDeletes := s.failingDeletes ++ [(table, id)] }

/-! ## Reading -/

/-- The answer that a table of some name gives. -/
def reading {α : Type} (s : Tables) (name : String) (f : Table → Reply α) : Reply α :=
  match s.find? name with
  | some t => f t
  | none => .error (.unknownTable name)

/-- Fails unless a table has all of some columns. -/
def checkColumns (s : Tables) (table : String) (columns : List String) : Reply Unit :=
  s.reading table fun t =>
    let missing := columns.filter fun c => !t.columns.contains c
    if missing.isEmpty then .ok () else .error (.unknownColumns table missing)

/-- The entities of a table, in the order of its rows. -/
def fetchEntities (s : Tables) (table : EntityTable) : Reply (List Entity) :=
  s.reading table.table fun t => .ok (t.rows.filterMap (Row.entity? table))

/-- The detail records of a table, in the order of its rows. -/
def fetchDetails (s : Tables) (table : DetailTable) : Reply (List DetailRecord) :=
  s.reading table.table fun t => .ok (t.rows.filterMap (Row.detail? table))

/-- How many rows have a text in a column. -/
def countReferences (s : Tables) (table column value : String) : Reply Nat :=
  if s.failingCounts.contains (table, value) then .error (.countInterrupted table column value)
  else s.reading table fun t => .ok (t.rows.countP (·.has column value))

/-- The texts of a column in ascending order, without repetition. -/
def distinctValues (s : Tables) (table column : String) : Reply (List String) :=
  s.reading table fun t => .ok (sortedTexts (t.rows.filterMap (·.text? column)))

/-! ## Writing -/

/-- A change of a table of some name. -/
def changing {α : Type} (s : Tables) (name : String) (f : Table → Reply α × Tables) :
    Reply α × Tables :=
  match s.find? name with
  | some t => f t
  | none => (.error (.unknownTable name), s)

/-- A value of a column replaced in every row that has it. -/
def repoint (s : Tables) (table column source target : String) : Reply Nat × Tables :=
  s.changing table fun t =>
    let (t, n) := t.repointed column source target
    (.ok n, ((s.put table t).wrote n).note (.repointed table source target))

/-- Rows deleted by the text of a column. A delete that is set up to be refused refuses them all. -/
def deleteIds (s : Tables) (table column : String) (ids : List String) : Reply Nat × Tables :=
  match ids.find? fun id => s.failingDeletes.contains (table, id) with
  | some id => (.error (.stillReferenced table column id), s)
  | none =>
    s.changing table fun t =>
      let (t, n) := t.without column ids
      (.ok n, ids.foldl (fun s id => s.note (.deleted table id)) ((s.put table t).wrote n))

/-- A row added, unless it repeats a text where none may occur twice. -/
def insert (s : Tables) (table : String) (row : Row) : Reply Unit × Tables :=
  s.changing table fun t =>
    match t.clash? row none with
    | some (column, value) => (.error (.duplicateValue table column value), s)
    | none => (.ok (), (s.put table { t with rows := t.rows ++ [row] }).wrote 1)

/-- The row that a trigger adds. -/
def triggeredRow (s : Tables) (detail : DetailTable) (owner : String) : Row :=
  let row := Row.set [] detail.idColumn (.str ("auto-" ++ decimal (s.added + 1)))
  let row := Row.set row detail.ownerColumn (.str owner)
  Row.set row detail.createdColumn (.str s.clock.textWithOffset)

/-- One trigger for an owner. -/
def fire (s : Tables) (detail : DetailTable) (owner : String) : Reply Unit × Tables :=
  s.changing detail.table fun t =>
    if t.rows.any fun row => row.has detail.ownerColumn owner then (.ok (), s)
    else
      let row := s.triggeredRow detail owner
      match insert { s with added := s.added + 1 } detail.table row with
      | (.ok (), s) => (.ok (), s.note (.triggered detail.table owner))
      | (.error e, s) => (.error e, s)

/-- Triggers for an owner, one after the other, up to the first that fails. -/
def fireAll (owner : String) : List DetailTrigger → Tables → Reply Unit × Tables
  | [], s => (.ok (), s)
  | trigger :: rest, s =>
    match s.fire trigger.detail owner with
    | (.ok (), s) => fireAll owner rest s
    | (.error e, s) => (.error e, s)

/-- The rows of a table at some places patched, one after the other, up to the first that would
repeat a text where none may occur twice. -/
def patchRows (name : String) (patch : Row) : List Nat → Table → Reply Unit × Table
  | [], t => (.ok (), t)
  | i :: rest, t =>
    match t.rows[i]? with
    | none => patchRows name patch rest t
    | some row =>
      let row := row.patched patch
      match t.clash? row (some i) with
      | some (column, value) => (.error (.duplicateValue name column value), t)
      | none => patchRows name patch rest { t with rows := t.rows.set i row }

/-- The places of the rows that have a text in a column. -/
def placesOf (t : Table) (column value : String) : List Nat :=
  (t.rows.zipIdx.filter fun (row, _) => row.has column value).map (·.2)

/-- Columns set in the rows with an id. The triggers of the table follow. -/
def updateById (s : Tables) (table idColumn id : String) (patch : Row) : Reply Nat × Tables :=
  s.changing table fun t =>
    let places := placesOf t idColumn id
    match patchRows table patch places t with
    | (.error e, t) => (.error e, s.put table t)
    | (.ok (), t) =>
      let s := (s.put table t).wrote places.length
      if places.isEmpty then (.ok 0, s)
      else
        match fireAll id (s.triggers.filter (·.ownerTable == table)) s with
        | (.ok (), s) => (.ok places.length, s)
        | (.error e, s) => (.error e, s)

/-- A row added, with its event. -/
def insertRow (s : Tables) (table : String) (row : Row) : Reply Unit × Tables :=
  match s.insert table row with
  | (.ok (), s) => (.ok (), s.note (.inserted table))
  | (.error e, s) => (.error e, s)

/-! ## Calls -/

/-- The answer to each call. There are no transactions. -/
def call : (r : Request) → Tables → Reply r.Answer × Tables
  | .checkColumns table columns, s => (s.checkColumns table columns, s)
  | .fetchEntities table, s => (s.fetchEntities table, s)
  | .countReferences table column value, s => (s.countReferences table column value, s)
  | .repoint table column source target, s => s.repoint table column source target
  | .deleteIds table column ids, s => s.deleteIds table column ids
  | .distinctValues table column, s => (s.distinctValues table column, s)
  | .fetchDetails table, s => (s.fetchDetails table, s)
  | .deleteWhere table column value, s => s.deleteIds table column [value]
  | .updateById table idColumn id patch, s => s.updateById table idColumn id patch
  | .insertRow table row, s => s.insertRow table row
  | .merge _, s => (.ok none, s)

/-- Tables in memory as a store. -/
def store : Store Tables where
  backend := "memory"
  call := call

end Tables

end RegistryDedup
