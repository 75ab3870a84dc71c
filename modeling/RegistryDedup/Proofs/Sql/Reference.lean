import RegistryDedup.Proofs.Sql.Quoting
import RegistryDedup.Proofs.Store.Tables
import RegistryDedup.Proofs.Text.Split
import RegistryDedup.Proofs.Transcript
import RegistryDedup.Sql.Transaction

/-!
# A reference database

A database in which the statements of a merge take effect on rows. A statement that succeeded takes
effect, one that failed has none; how many rows it says that it changed is left open. What a
transaction changes is kept by `COMMIT` and lost by `ROLLBACK`, and `ROLLBACK TO` takes back what
was changed since a savepoint.

- `Change`: what a statement of a merge does to the rows, and the statement that says so.
- `Query.change?`: the change that a statement says, read off its text. By `change?_query` this is
  the change that the statement was made for, whatever its names are.
- `Database`: the rows that are kept, and those that an open transaction sees.
- `Database.play`: the database after some statements with their results.
-/

namespace RegistryDedup.Sql

open Text

/-! ## Changes -/

/-- A table by its schema and its name. -/
abbrev Relation := String × String

/-- The rows of each table. -/
abbrev Rows := Relation → List Row

/-- What a statement of a merge does to the rows. -/
inductive Change where
  | move (table column source target : String)
  | remove (table column value : String)
  deriving DecidableEq

namespace Change

/-- The statement that makes a change. -/
def query : Change → Query
  | move table column source target => repointQuery table column source target
  | remove table column value => deleteQuery table column value

/-- The table that is changed. -/
def relation : Change → Relation
  | move table _ _ _ => splitTable table
  | remove table _ _ => splitTable table

/-- The rows of that table after the change. -/
def applyRows : Change → List Row → List Row
  | move _ column source target, rows => rows.map (·.moved column source target)
  | remove _ column value, rows => rows.filter fun row => !row.has column value

/-- All rows after the change. -/
def apply (c : Change) (rows : Rows) : Rows := fun r =>
  if r = c.relation then c.applyRows (rows r) else rows r

end Change

/-- All rows after some changes, one after the other. -/
def Rows.changed (rows : Rows) (changes : List Change) : Rows :=
  changes.foldl (fun rows c => c.apply rows) rows

@[simp] theorem Rows.changed_nil (rows : Rows) : rows.changed [] = rows := rfl

@[simp] theorem Rows.changed_cons (rows : Rows) (c : Change) (changes : List Change) :
    rows.changed (c :: changes) = Rows.changed (c.apply rows) changes := rfl

theorem Rows.changed_append (rows : Rows) (changes changes' : List Change) :
    rows.changed (changes ++ changes') = Rows.changed (rows.changed changes) changes' :=
  List.foldl_append

/-! ## Reading a statement -/

/-- The two names that stand in a statement after two pieces of its text. -/
def readNames? (lead between sql : List Char) : Option (String × String) := do
  let (table, rest) ← readName? (← afterLead lead sql)
  let (column, _) ← readName? (← afterLead between rest)
  return (table, column)

/-- The table and the column of a statement that replaces values. -/
def readMove? (sql : String) : Option (String × String) :=
  readNames? "UPDATE ".toList " SET ".toList sql.toList

/-- The table and the column of a statement that deletes rows. -/
def readRemove? (sql : String) : Option (String × String) :=
  readNames? "DELETE FROM ".toList " WHERE ".toList sql.toList

/-- The change that the names in a statement and its parameters stand for. -/
def Query.reading? (q : Query) : Option Change :=
  match q.params with
  | [.text target, .text source] =>
    (readMove? q.sql).map fun (table, column) => .move table column source target
  | [.text value] => (readRemove? q.sql).map fun (table, column) => .remove table column value
  | _ => none

/-- The change that a statement says, if it is the statement of one. -/
def Query.change? (q : Query) : Option Change :=
  q.reading?.filter fun c => c.query.sql == q.sql

/-- All rows after a statement that succeeded. A statement that says no change makes none. -/
def Query.effect (q : Query) (rows : Rows) : Rows :=
  match q.change? with
  | some c => c.apply rows
  | none => rows

theorem endsName_append {piece : List Char} {c : Char} (hpiece : piece.head? = some c)
    (hquote : c ≠ '"') (hdot : c ≠ '.') (rest : List Char) : EndsName (piece ++ rest) := by
  cases piece with
  | nil => cases hpiece
  | cons d ds =>
    obtain rfl := Option.some.inj hpiece
    exact ⟨fun _ heq => hquote (List.cons.inj heq).1, fun _ heq => hdot (List.cons.inj heq).1⟩

theorem readNames?_append {lead between rest : String} (table column : String)
    (hbetween : ∀ cs, EndsName (between.toList ++ cs)) (hrest : EndsName rest.toList) :
    readNames? lead.toList between.toList
      (lead ++ (quoteName table ++ (between ++ (quoteName column ++ rest)))).toList =
      some (table, column) := by
  simp only [readNames?, String.toList_append, afterLead_append, Option.bind_eq_bind,
    Option.bind_some, readName?_quoteName (hbetween _), readName?_quoteName hrest, Option.pure_def]

/-- Both names stand at the start of the text, whatever else it says. -/
theorem repointSql_lead (table column : String) : ∃ rest, repointSql table column =
    "UPDATE " ++ (quoteName table ++ (" SET " ++ (quoteName column ++
      (" = (json_populate_record(NULL::" ++ rest)))) := by
  unfold repointSql
  simp only [String.append_assoc]
  exact ⟨_, rfl⟩

theorem deleteSql_lead (table column : String) : deleteSql table column =
    "DELETE FROM " ++ (quoteName table ++ (" WHERE " ++ (quoteName column ++ "::text = $1"))) := by
  unfold deleteSql
  simp only [String.append_assoc]

theorem readMove?_repointSql (table column : String) :
    readMove? (repointSql table column) = some (table, column) := by
  obtain ⟨rest, hlead⟩ := repointSql_lead table column
  rw [readMove?, hlead]
  refine readNames?_append table column (fun cs => ?_) ?_
  · exact endsName_append (c := ' ') (by simp) (by decide) (by decide) cs
  · rw [String.toList_append]
    exact endsName_append (c := ' ') (by simp) (by decide) (by decide) _

theorem readRemove?_deleteSql (table column : String) :
    readRemove? (deleteSql table column) = some (table, column) := by
  rw [readRemove?, deleteSql_lead]
  refine readNames?_append table column (fun cs => ?_) ?_
  · exact endsName_append (c := ' ') (by simp) (by decide) (by decide) cs
  · rw [← List.append_nil "::text = $1".toList]
    exact endsName_append (c := ':') (by simp) (by decide) (by decide) []

theorem Change.reading?_query (c : Change) : c.query.reading? = some c := by
  cases c with
  | move table column source target =>
    unfold Query.reading? Change.query repointQuery
    dsimp only
    rw [readMove?_repointSql, Option.map_some]
  | remove table column value =>
    unfold Query.reading? Change.query deleteQuery
    dsimp only
    rw [readRemove?_deleteSql, Option.map_some]

theorem Change.change?_query (c : Change) : c.query.change? = some c := by
  rw [Query.change?, c.reading?_query, Option.filter_some, if_pos (beq_self_eq_true _)]

@[simp] theorem Change.effect_query (c : Change) (rows : Rows) :
    c.query.effect rows = c.apply rows := by
  rw [Query.effect, c.change?_query]

/-- No two changes have the same statement. -/
theorem Change.query_injective {c c' : Change} (h : c.query = c'.query) : c = c' :=
  Option.some.inj (c.change?_query.symm.trans (h ▸ c'.change?_query))

/-! ## Transactions -/

/-- What a transaction sees, and what it saw at its savepoints, the last one first. -/
structure Pending where
  now : Rows
  savepoints : List (Nat × Rows) := []

/-- The rows that are kept, and the open transaction, if there is one. -/
structure Database where
  kept : Rows
  pending : Option Pending := none

/-- Statements with their results. -/
abbrev Dialogue := List Session.Exchange

/-- A statement with its result. -/
def sent (q : Query) (result : Except SqlError Outcome) : Session.Exchange :=
  ⟨.query q, result⟩

/-- A control statement, which has no result. -/
def controlled (c : Control) : Session.Exchange :=
  ⟨.control c, ()⟩

@[simp] theorem sent_inj {q q' : Query} {result result' : Except SqlError Outcome} :
    sent q result = sent q' result' ↔ q = q' ∧ result = result' := by
  constructor
  · intro h
    cases h
    exact ⟨rfl, rfl⟩
  · rintro ⟨rfl, rfl⟩
    rfl

@[simp] theorem controlled_inj {c c' : Control} : controlled c = controlled c' ↔ c = c' := by
  constructor
  · intro h
    cases h
    rfl
  · rintro rfl
    rfl

@[simp] theorem sent_ne_controlled (q : Query) (result : Except SqlError Outcome) (c : Control) :
    sent q result ≠ controlled c := nofun

@[simp] theorem controlled_ne_sent (c : Control) (q : Query) (result : Except SqlError Outcome) :
    controlled c ≠ sent q result := nofun

namespace Pending

/-- The transaction at a statement for a part of it. -/
def control (p : Pending) : Control → Pending
  | .savepoint n => { p with savepoints := (n, p.now) :: p.savepoints }
  | .release n => { p with savepoints := (p.savepoints.dropWhile (·.1 ≠ n)).tail }
  | .rollbackTo n =>
    match p.savepoints.dropWhile (·.1 ≠ n) with
    | [] => p
    | (m, rows) :: older => ⟨rows, (m, rows) :: older⟩
  | .begin | .commit | .rollback => p

end Pending

namespace Database

/-- What a session sees: the rows of its transaction, or those that are kept. -/
def seen (db : Database) : Rows :=
  (db.pending.map Pending.now).getD db.kept

/-- The database after a control statement. -/
def control (db : Database) : Control → Database
  | .begin => { db with pending := some (db.pending.getD ⟨db.kept, []⟩) }
  | .commit => ⟨db.seen, none⟩
  | .rollback => ⟨db.kept, none⟩
  | c => { db with pending := db.pending.map (·.control c) }

/-- The database after a statement that succeeded. Outside of a transaction it is kept at once. -/
def execute (db : Database) (q : Query) : Database :=
  match db.pending with
  | some p => { db with pending := some { p with now := q.effect p.now } }
  | none => { db with kept := q.effect db.kept }

/-- The database after a statement with its result. -/
def after (db : Database) : Session.Exchange → Database
  | ⟨.control c, _⟩ => db.control c
  | ⟨.query q, result⟩ =>
    match (result : Except SqlError Outcome) with
    | .ok _ => db.execute q
    | .error _ => db

/-- The database after some statements with their results. -/
def play (db : Database) (h : Dialogue) : Database :=
  h.foldl after db

@[simp] theorem play_nil (db : Database) : db.play [] = db := rfl

@[simp] theorem play_cons (db : Database) (e : Session.Exchange) (h : Dialogue) :
    db.play (e :: h) = (db.after e).play h := rfl

theorem play_append (db : Database) (h h' : Dialogue) :
    db.play (h ++ h') = (db.play h).play h' :=
  List.foldl_append

end Database

end RegistryDedup.Sql
