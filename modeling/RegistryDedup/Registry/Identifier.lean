import RegistryDedup.Registry.Basic
import RegistryDedup.Store.Failure
import RegistryDedup.Text.Integer
import RegistryDedup.Text.Blank

/-!
# Names of tables and columns

A name is made of ASCII letters, digits and underscores and does not start with a digit. It may be
preceded by the name of a schema and a dot.

- `isIdentifier`, `checkIdentifier`: whether a text is such a name.
- `Dependent.readList`: dependents as a comma-separated list of `table:column`.
- `readItems`: the items of a comma-separated list.
-/

namespace RegistryDedup

open Text

/-- Whether a character may stand in a name. -/
def isNameChar (c : Char) : Bool :=
  ('a' ≤ c && c ≤ 'z') || ('A' ≤ c && c ≤ 'Z') || isDigit c || c == '_'

/-- Whether a text is a name without a schema. -/
def isSimpleName : List Char → Bool
  | [] => false
  | c :: cs => !isDigit c && (c :: cs).all isNameChar

/-- Whether a text is a name, with or without a schema. -/
def isIdentifier (s : String) : Bool :=
  let names := splitOn '.' s.toList
  names.length ≤ 2 && names.all isSimpleName

/-- Refuses a text that is no name. -/
def checkIdentifier (s : String) : Except Failure Unit :=
  if isIdentifier s then .ok () else .error (.invalidName s)

/-- Refuses the first text of a list that is no name. -/
def checkIdentifiers : List String → Except Failure Unit
  | [] => .ok ()
  | s :: rest => do
    checkIdentifier s
    checkIdentifiers rest

/-- The items of a comma-separated list, without blanks around them; items of blanks only do not
count. -/
def readItems (s : String) : List String :=
  (((splitOn ',' s.toList).map trim).filter (!·.isEmpty)).map String.ofList

namespace Dependent

/-- A dependent, written as `table:column`. -/
def read (item : String) : Except Failure Dependent :=
  match cutFirst ':' item with
  | none => .error (.malformedDependent item)
  | some (table, column) => do
    let dependent : Dependent := ⟨trimmed table, trimmed column⟩
    checkIdentifier dependent.table
    checkIdentifier dependent.column
    return dependent

/-- Dependents without repetition, in the order of first occurrence, as a comma-separated list. -/
def readList (s : String) : Except Failure (List Dependent) :=
  (readItems s).foldlM
    (fun found item => do
      let dependent ← read item
      return if found.contains dependent then found else found ++ [dependent])
    []

end Dependent

example : isIdentifier "public.regions_2" ∧ ¬ isIdentifier "a.b.c" ∧ ¬ isIdentifier "a." := by
  decide

end RegistryDedup
