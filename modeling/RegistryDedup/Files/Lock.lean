import RegistryDedup.Files.Directory
import RegistryDedup.Store.Failure
import RegistryDedup.Text.Blank
import RegistryDedup.Time.Printer

/-!
# The lock of a run

A run that writes creates a lock file and removes it at its end, however it ends. Where the file is
there already, another run has the lock, or died with it.

- `Lock.acquire`: the lock file created, or the reason why the run may not start.
- `Lock.release`: the lock file removed, whoever wrote it.
- `Lock.defaultPath`: where the lock of a table is, unless it is said otherwise.
-/

namespace RegistryDedup

open Text

namespace Lock

/-- Who has a lock. -/
structure Holder where
  process : Nat
  since : Instant

/-- The text of a lock file. -/
def Holder.text (h : Holder) : String :=
  "pid=" ++ decimal h.process ++ " at=" ++ h.since.textWithOffset ++ "\n"

/-- The lock file created with the text of its holder. -/
def acquire (d : Directory) (path : String) (holder : Holder) : Except Failure Directory :=
  match d.create path holder.text with
  | .ok d => .ok d
  | .error .alreadyExists =>
    .error (.lockHeld path (trimmed ((d.read path).toOption.getD "")))
  | .error e => .error (.lockUnavailable path e.text)

/-- The lock file removed, if there is one. -/
def release (d : Directory) (path : String) : Directory :=
  (d.remove path).toOption.getD d

/-- The lock file of a table, in a directory for temporary files. A dot in the name of the table
gives an underscore. -/
def defaultPath (directory table : String) : String :=
  directory ++ "/forest-admin-" ++ replaced "." "_" table ++ ".lock"

end Lock

end RegistryDedup
