import RegistryDedup.Files.Directory
import RegistryDedup.Store.Failure

/-!
# What ends an undertaking early

A `Trouble` is a reason with what was going on when it came up, the widest circumstance first. Its
message gives them all, with a colon between them.
-/

namespace RegistryDedup

/-- Why an undertaking ended early. -/
inductive Reason where
  | store (failure : Failure)
  | plain (text : String)
  /-- A text is not the JSON that it should be. -/
  | json
  | file (error : FileError)
  deriving DecidableEq

namespace Reason

/-- The text of a reason. -/
def message : Reason → String
  | store f => f.message
  | plain text => text
  | json => "malformed JSON"
  | file e => e.text

end Reason

/-- A reason and the circumstances, the widest first. -/
structure Trouble where
  contexts : List String
  reason : Reason
  deriving DecidableEq

namespace Trouble

/-- A failure of a store, without circumstances. -/
def ofFailure (f : Failure) : Trouble :=
  ⟨[], .store f⟩

/-- A reason in plain words. -/
def ofText (text : String) : Trouble :=
  ⟨[], .plain text⟩

/-- The trouble within a wider circumstance. -/
def within (context : String) (t : Trouble) : Trouble :=
  { t with contexts := context :: t.contexts }

/-- The circumstances and the reason in words. -/
def message (t : Trouble) : String :=
  String.intercalate ": " (t.contexts ++ [t.reason.message])

/-- A result whose failure counts as trouble. -/
def ofReply {α : Type} : Except Failure α → Except Trouble α
  | .ok a => .ok a
  | .error f => .error (ofFailure f)

/-- A result whose trouble came up within a circumstance. -/
def during {α : Type} (context : String) : Except Trouble α → Except Trouble α
  | .ok a => .ok a
  | .error t => .error (t.within context)

end Trouble

end RegistryDedup
