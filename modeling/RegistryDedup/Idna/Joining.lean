import RegistryDedup.Idna.JoiningTable
import RegistryDedup.Text.Composition

/-!
# Joiners

Two characters without shape make their neighbours join or keep them from joining. A name may have
them only where they make a difference.

- `Joiner.fits`: whether a character may stand between others.
- `joinersFit`: whether all joiners of a label may be where they are.
-/

namespace RegistryDedup.Idna

open Text

namespace Joiner

/-- The character that makes its neighbours join. -/
def join : Char := '\u200d'

/-- The character that keeps its neighbours from joining. -/
def part : Char := '\u200c'

/-- The class of marks that take the vowel from a letter. -/
def vowelKiller : Nat := 9

/-- The letters that join the next one. -/
def joinsNext : List CodeRange :=
  readRanges joinsBothLines ++ readRanges joinsNextLines

/-- The letters that join the previous one. -/
def joinsPrevious : List CodeRange :=
  readRanges joinsBothLines ++ readRanges joinsPreviousLines

/-- The characters that do not come between joining letters. -/
def transparent : List CodeRange :=
  readRanges transparentLines

/-- Whether the first character that is not transparent is one of some letters. -/
def reaches (letters : List CodeRange) (s : List Char) : Bool :=
  ((s.dropWhile (inRanges transparent)).head?.map (inRanges letters)).getD false

/-- Whether a character may stand after `before`, which is reversed, and before `after`. Either
joiner may follow a mark that takes the vowel; that which parts may also stand between letters that
would join. -/
def fits (before : List Char) (c : Char) (after : List Char) : Bool :=
  (c != join && c != part) || (before.head?.map (markClass · == vowelKiller)).getD false ||
    (c == part && reaches joinsNext before && reaches joinsPrevious after)

end Joiner

/-- Whether all joiners of a text after `before`, which is reversed, may be where they are. -/
def joinersFitAfter : (before : List Char) → List Char → Bool
  | _, [] => true
  | before, c :: cs => Joiner.fits before c cs && joinersFitAfter (c :: before) cs

/-- Whether all joiners of a label may be where they are. -/
def joinersFit (label : List Char) : Bool :=
  joinersFitAfter [] label

end RegistryDedup.Idna
