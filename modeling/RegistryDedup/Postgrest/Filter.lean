import RegistryDedup.Text.Blank
import RegistryDedup.Text.Split

/-!
# Filters

Rows are chosen by filters in the query of a request.

- `eqFilter`: a column that is equal to a value.
- `inFilter`: a column that is equal to one of some values. Each value stands between quotes, in
  which a quote or a backslash is preceded by a backslash.
-/

namespace RegistryDedup.Postgrest

open Text

/-- Equal to a value. -/
def eqFilter (value : String) : String :=
  "eq." ++ value

/-- A value between quotes. Backslashes are doubled first, and then each quote gets one, so that no
backslash in front of a quote is doubled. -/
def filterItem (value : String) : List Char :=
  let doubled := replaceAll ['\\'] ['\\', '\\'] value.toList
  '"' :: replaceAll ['"'] ['\\', '"'] doubled ++ ['"']

/-- Equal to one of some values. -/
def inFilter (values : List String) : String :=
  String.ofList ("in.(".toList ++ joinWith [','] (values.map filterItem) ++ [')'])

example : inFilter ["a1", "we\"ird"] = "in.(\"a1\",\"we\\\"ird\")" := by decide +kernel

end RegistryDedup.Postgrest
