import RegistryDedup.Http.Message
import RegistryDedup.Json.Record
import RegistryDedup.Store.Failure
import RegistryDedup.Store.Row
import RegistryDedup.Text.Excerpt

/-!
# Replies of the server

- `classify`: the failure that a response without success stands for. An error code in the body
  counts more than the status.
- `contentTotal?`: how many rows there are, from the header that tells which rows these are.
- `readRows?`: the rows in a body.
-/

namespace RegistryDedup.Postgrest

open Text

/-- What the body of an unsuccessful response says. -/
structure ErrorBody where
  code : Option String
  message : Option String
  details : Option String
  deriving DecidableEq

namespace ErrorBody

/-- A body that is an error record. -/
def ofTree? (tree : Tree) : Option ErrorBody := do
  match ← tree.members? ["code", "message", "details"] with
  | [code, message, details] =>
    return ⟨← Tree.optionalText? code, ← Tree.optionalText? message,
      ← Tree.optionalText? details⟩
  | _ => none

/-- The error record in a body. -/
def read? (body : String) : Option ErrorBody :=
  (Tree.ofText? body.toList).bind ofTree?

/-- The message, with details in parentheses. -/
def text (e : ErrorBody) : String :=
  e.message.getD "" ++
    match e.details with
    | some details => " (" ++ details ++ ")"
    | none => ""

end ErrorBody

/-- How many bytes of a body are shown that is no error record. -/
def excerptLength : Nat := 300

/-- What a body tells: the text of its error record, or else the body itself. -/
def bodyText (body : String) : String :=
  match (ErrorBody.read? body).map ErrorBody.text with
  | some text => if text.isEmpty then excerptText excerptLength body else text
  | none => excerptText excerptLength body

/-- The failure that a response without success stands for. -/
def classify (status : Nat) (body : String) : Failure :=
  let text := bodyText body
  let byStatus : Failure := .status status (phraseOf status) text
  match (ErrorBody.read? body).bind (·.code) with
  | some code => if kindOfCode code = .other then byStatus else .code code text
  | none => byStatus

/-- The total in a header such as `0-24/3573`. -/
def contentTotal? (header : String) : Option Nat :=
  match cutAtLast '/' header.toList with
  | some (_, total) => readNat max64 (trim total)
  | none => none

/-- Whether a character may be read in a header. -/
def isVisible (c : Char) : Bool :=
  c == '\t' || (0x20 ≤ c.toNat && c.toNat < 0x7F)

/-- The total that a response reports. -/
def responseTotal? (r : HttpResponse) : Option Nat := do
  let header ← r.range
  guard (header.toList.all isVisible)
  contentTotal? header

/-- The items of a body that is an array. -/
def readItems? (body : String) : Option (List Json) :=
  match Json.parse? body with
  | some (.arr items) => some items
  | _ => none

/-- The rows of a body that is an array of objects. -/
def readRows? (body : String) : Option (List Row) := do
  (← readItems? body).mapM fun
    | .obj fields => some fields
    | _ => none

end RegistryDedup.Postgrest
