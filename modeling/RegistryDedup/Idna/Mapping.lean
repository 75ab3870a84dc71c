import RegistryDedup.Idna.MappingTable
import RegistryDedup.Text.CodeRange

/-!
# What becomes of the characters of a host name

- `Change`: what stands in for the characters of a range.
- `Status`: whether a character stays, is replaced, or may not be there.
- `statusOf`: the status of a character.
- `mapped`: a name with its characters replaced, if it has none that may not be there.
-/

namespace RegistryDedup.Idna

open Text

/-- What stands in for the characters of a range. -/
structure Change where
  range : CodeRange
  /-- Whether only every other character is replaced, from the first one on. -/
  alternating : Bool
  /-- What stands in for the first character. Where it is one character, the next ones are replaced
  by those that follow it. -/
  image : List Nat
  deriving DecidableEq

namespace Change

/-- The change that an entry stands for. -/
def read (entry : String) : Change :=
  let (range, image) := match entry.splitOn "=" with
    | [range, image] => (range, (image.splitOn "+").map fun s => (hexValue? s.toList).getD 0)
    | _ => (entry, [])
  ⟨.read (replaced "~" "-" range), contains "~" range, image⟩

/-- Whether a character is replaced by a change. -/
def covers (change : Change) (c : Char) : Bool :=
  change.range.contains c &&
    (!change.alternating || (c.toNat - change.range.first) % 2 == 0)

/-- What stands in for a character. -/
def imageOf (change : Change) (c : Char) : List Char :=
  match change.image with
  | [first] => [Char.ofNat (first + (c.toNat - change.range.first))]
  | image => image.map Char.ofNat

end Change

/-- All changes. -/
def changes : List Change :=
  (entries mappedLines).map Change.read

/-- The characters that no name may have. -/
def disallowed : List CodeRange :=
  readRanges disallowedLines

/-- Whether a character stays, is replaced, or may not be there. -/
inductive Status where
  | valid
  | changed (image : List Char)
  | disallowed
  deriving DecidableEq

/-- The status of a character. Of ASCII, only letters in upper case do not stay. -/
def statusOf (c : Char) : Status :=
  if c.toNat < 0x80 then (if c.isUpper then .changed [c.toLower] else .valid)
  else
    match changes.find? (·.covers c) with
    | some change => .changed (change.imageOf c)
    | none => if inRanges disallowed c then .disallowed else .valid

/-- A name with its characters replaced. -/
def mapped : List Char → Option (List Char)
  | [] => some []
  | c :: cs =>
    match statusOf c with
    | .valid => (mapped cs).map (c :: ·)
    | .changed image => (mapped cs).map (image ++ ·)
    | .disallowed => none

end RegistryDedup.Idna
