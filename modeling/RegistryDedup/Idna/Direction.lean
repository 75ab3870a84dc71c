import RegistryDedup.Idna.DirectionTable
import RegistryDedup.Text.CodeRange

/-!
# Names that are written from right to left

A name in which some character is written from right to left can be shown in more than one way
unless each of its labels keeps to some rules.

- `Direction.of`: the direction of a character.
- `isBidirectional`: whether a name has a character that is written from right to left.
- `keepsDirection`: whether a label keeps to the rules.
-/

namespace RegistryDedup.Idna

open Text

/-- The characters of each direction but the usual one. -/
def directions : List (Direction × List CodeRange) :=
  directionLines.map fun (direction, lines) => (direction, readRanges lines)

namespace Direction

/-- The direction of a character. -/
def of (c : Char) : Direction :=
  ((directions.find? fun (_, ranges) => inRanges ranges c).map (·.1)).getD .leftToRight

/-- Whether a direction makes a name one that goes both ways. -/
def turns : Direction → Bool
  | rightToLeft | arabicLetter | arabicNumber => true
  | _ => false

/-- Whether characters of a direction may be in a label from left to right. -/
def fitsLeftToRight : Direction → Bool
  | leftToRight | europeanNumber | europeanSeparator | commonSeparator | europeanTerminator
  | neutral | boundary | mark => true
  | _ => false

/-- Whether characters of a direction may be in a label from right to left. -/
def fitsRightToLeft : Direction → Bool
  | leftToRight | other => false
  | _ => true

end Direction

/-- Whether a name has a character that is written from right to left. -/
def isBidirectional (name : List Char) : Bool :=
  name.any fun c => (Direction.of c).turns

/-- Whether a label keeps to the rules: its first character decides on its direction, the others go
with it, and the last one, marks aside, is a letter or number. -/
def keepsDirection (label : List Char) : Bool :=
  let all := label.map Direction.of
  match all.head?, (all.reverse.dropWhile (· == .mark)).head? with
  | some .leftToRight, some last =>
    all.all Direction.fitsLeftToRight && (last == .leftToRight || last == .europeanNumber)
  | some .rightToLeft, some last | some .arabicLetter, some last =>
    all.all Direction.fitsRightToLeft &&
      [.rightToLeft, .arabicLetter, .europeanNumber, .arabicNumber].contains last &&
      !(all.contains .europeanNumber && all.contains .arabicNumber)
  | none, _ => true
  | _, _ => false

end RegistryDedup.Idna
