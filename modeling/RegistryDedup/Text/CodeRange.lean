import RegistryDedup.Text.Hex
import RegistryDedup.Text.Split

/-!
# Ranges of characters

Tables of characters are written as lines of ranges in base sixteen, with spaces between them:
`41-5A AA` are the letters from A to Z and one more.

- `CodeRange`: characters from a first to a last one.
- `entries`, `readRanges`: what the lines of a table hold.
- `inRanges`: whether a character is in one of some ranges.
-/

namespace RegistryDedup.Text

/-- The characters from a first to a last one. -/
structure CodeRange where
  first : Nat
  last : Nat
  deriving DecidableEq

namespace CodeRange

/-- Whether a character is in a range. -/
def contains (r : CodeRange) (c : Char) : Bool :=
  r.first ≤ c.toNat && c.toNat ≤ r.last

/-- The range that a text stands for. -/
def read (s : String) : CodeRange :=
  let value (digits : List Char) : Nat := (hexValue? digits).getD 0
  match cutAtFirst '-' s.toList with
  | some (first, last) => ⟨value first, value last⟩
  | none => ⟨value s.toList, value s.toList⟩

end CodeRange

/-- The entries of a table. -/
def entries (lines : List String) : List String :=
  lines.flatMap (parts ' ')

/-- The ranges of a table. -/
def readRanges (lines : List String) : List CodeRange :=
  (entries lines).map CodeRange.read

/-- Whether a character is in one of some ranges. -/
def inRanges (ranges : List CodeRange) (c : Char) : Bool :=
  ranges.any (·.contains c)

end RegistryDedup.Text
