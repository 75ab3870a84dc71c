import RegistryDedup.Text.CodeRange
import RegistryDedup.Text.LetterTable

/-!
# Letters and digits

`isLetterOrDigit` tells the characters that words and numbers are made of, in any script, from
blanks, punctuation and symbols.
-/

namespace RegistryDedup.Text

/-- Letters and numerals outside of ASCII. -/
def letters : List CodeRange :=
  readRanges letterLines

/-- Whether a character is a letter or a numeral. -/
def isLetterOrDigit (c : Char) : Bool :=
  c.isAlphanum || (0x80 ≤ c.toNat && inRanges letters c)

end RegistryDedup.Text
