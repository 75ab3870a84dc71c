import RegistryDedup.Json.Printer
import RegistryDedup.Json.Record
import RegistryDedup.Registry.Basic
import RegistryDedup.Text.Blank
import RegistryDedup.Time.Printer
import RegistryDedup.Time.Reader

/-!
# The journal of a run

Before the first change for a group, a run writes down what it is about to do. A journal is a text
file with one entry a line, each a JSON object.

- `JournalEntry.line`: an entry as it is written.
- `JournalEntry.read?`: an entry as it is read.
- `Journal.append`, `Journal.readAll?`: a whole journal.
-/

namespace RegistryDedup

open Text

/-- An entity that is about to be deleted. -/
structure JournalLoser where
  id : String
  name : String
  created : Option Instant
  deriving DecidableEq

/-- What a run is about to do with a group: references to the losers go to the entity that is
kept, then the losers are deleted. -/
structure JournalEntry where
  run : String
  time : Instant
  key : String
  keep : String
  losers : List JournalLoser
  dependents : List String
  deriving DecidableEq

namespace JournalLoser

/-- The loser that an entity is. -/
def ofEntity (e : Entity) : JournalLoser :=
  ⟨e.id, e.name, e.created⟩

/-- Of an entity are kept its id, its name and the time when it was created. -/
theorem eq_ofEntity_iff {l : JournalLoser} {e : Entity} :
    l = ofEntity e ↔ l.id = e.id ∧ l.name = e.name ∧ l.created = e.created := by
  cases l
  simp [ofEntity]

/-- A loser as it is written. -/
def toJson (l : JournalLoser) : Json :=
  .obj [("id", .str l.id), ("name", .str l.name),
    ("created_at", .optional (l.created.map Instant.text))]

/-- A time that is a string, null or missing. -/
def created? (member : Option Tree) : Option (Option Instant) := do
  match ← Tree.optionalText? member with
  | some s => return some (← Instant.readLoose? s)
  | none => return none

/-- A loser as it is read. -/
def ofTree? (tree : Tree) : Option JournalLoser := do
  match ← tree.members? ["id", "name", "created_at"] with
  | [id, name, created] =>
    return ⟨← Tree.textMember? id, ← Tree.textMember? name, ← created? created⟩
  | _ => none

end JournalLoser

namespace JournalEntry

/-- The entry for a group whose survivor is chosen. -/
def ofGroup (run : String) (time : Instant) (key keep : String) (losers : List Entity)
    (dependents : List Dependent) : JournalEntry :=
  ⟨run, time, key, keep, losers.map JournalLoser.ofEntity, dependents.map Dependent.text⟩

/-- An entry as it is written. -/
def toJson (e : JournalEntry) : Json :=
  .obj [("run_id", .str e.run), ("at", .str e.time.text), ("key", .str e.key),
    ("keep_id", .str e.keep), ("losers", .arr (e.losers.map JournalLoser.toJson)),
    ("dependents", .strings e.dependents)]

/-- An entry on a line of its own, without the end of the line. -/
def line (e : JournalEntry) : String :=
  e.toJson.compact

/-- An entry as it is read. -/
def ofTree? (tree : Tree) : Option JournalEntry := do
  match ← tree.members? ["run_id", "at", "key", "keep_id", "losers", "dependents"] with
  | [run, time, key, keep, losers, dependents] =>
    return {
      run := ← Tree.textMember? run
      time := ← Instant.readLoose? (← Tree.textMember? time)
      key := ← Tree.textMember? key
      keep := ← Tree.textMember? keep
      losers := ← Tree.itemsOf? JournalLoser.ofTree? losers
      dependents := ← Tree.itemsOf? Tree.text? dependents }
  | _ => none

/-- The entry that a line holds. -/
def read? (line : List Char) : Option JournalEntry :=
  (Tree.ofText? line).bind ofTree?

end JournalEntry

namespace Journal

/-- The journal with one more entry. -/
def append (text : String) (e : JournalEntry) : String :=
  text ++ e.line ++ "\n"

/-- The entries of a journal in order. Blank lines do not count; any other line has to be an
entry. -/
def readAll? (text : String) : Option (List JournalEntry) :=
  ((linesOf text.toList).filter fun line => !allBlank line).mapM JournalEntry.read?

end Journal

end RegistryDedup
