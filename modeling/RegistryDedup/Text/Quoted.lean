import RegistryDedup.Text.EscapeTable
import RegistryDedup.Text.Hex

/-!
# Quoted text

Text in an error message stands between double quotes, so that it can be told apart from the words
around it. A quote and a backslash are escaped, line breaks, tabs and the null character have an
escape of their own, and characters that leave no mark of their own are given by number.

- `quoted`: one text.
- `quotedList`: a list of texts in brackets.
-/

namespace RegistryDedup.Text

/-- Whether a character leaves a mark of its own. -/
def isMarked (c : Char) : Bool :=
  let n := c.toNat
  if n < 0x20 then false
  else if n < 0x7F then true
  else !unmarkedRanges.any fun (first, last) => first ≤ n && n ≤ last

/-- How one character is written inside quotes. -/
def quotedChar (c : Char) : List Char :=
  if c = '"' then ['\\', '"']
  else if c = '\\' then ['\\', '\\']
  else if c = '\n' then ['\\', 'n']
  else if c = '\r' then ['\\', 'r']
  else if c = '\t' then ['\\', 't']
  else if c.toNat = 0 then ['\\', '0']
  else if isMarked c then [c]
  else ['\\', 'u', '\x7b'] ++ hexDigits c.toNat ++ ['\x7d']

/-- A text between double quotes. -/
def quoted (s : String) : String :=
  String.ofList ('"' :: s.toList.flatMap quotedChar ++ ['"'])

/-- Texts between double quotes, separated by commas, in brackets. -/
def quotedList (xs : List String) : String :=
  "[" ++ String.intercalate ", " (xs.map quoted) ++ "]"

end RegistryDedup.Text
