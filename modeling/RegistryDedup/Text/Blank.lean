/-!
# Blank characters, words and trimming

Text is handled as a list of characters.

- `isBlank`: the characters that separate words (the white space of Unicode).
- `words`: the maximal runs of characters that are not blank, in order.
- `collapse`: the words with one space between neighbours.
- `trimStart`, `trimEnd`, `trim`: the text without the blanks at its start, its end, or both.
-/

namespace RegistryDedup.Text

/-- The characters that separate words. -/
def isBlank (c : Char) : Bool :=
  let n := c.toNat
  (0x9 ≤ n && n ≤ 0xD) || n == 0x20 || n == 0x85 || n == 0xA0 || n == 0x1680 ||
    (0x2000 ≤ n && n ≤ 0x200A) || n == 0x2028 || n == 0x2029 || n == 0x202F || n == 0x205F ||
    n == 0x3000

/-- The text without the blanks at its start. -/
def trimStart (s : List Char) : List Char :=
  s.dropWhile isBlank

/-- The text without the blanks at its end. -/
def trimEnd : List Char → List Char
  | [] => []
  | c :: cs =>
    match trimEnd cs with
    | [] => if isBlank c then [] else [c]
    | d :: ds => c :: d :: ds

/-- The text without the blanks at either end. -/
def trim (s : List Char) : List Char :=
  trimEnd (trimStart s)

/-- The maximal runs of characters that are not blank. -/
def words : List Char → List (List Char)
  | [] => []
  | c :: cs =>
    if isBlank c then words cs
    else
      match cs, words cs with
      | d :: _, w :: ws => if isBlank d then [c] :: w :: ws else (c :: w) :: ws
      | _, ws => [c] :: ws

/-- Pieces of text one after the other, with `between` between neighbours. -/
def joinWith (between : List Char) : List (List Char) → List Char
  | [] => []
  | [w] => w
  | w :: v :: ws => w ++ between ++ joinWith between (v :: ws)

/-- The words of a text with one space between neighbours. -/
def collapse (s : List Char) : List Char :=
  joinWith [' '] (words s)

/-- Whether the text has blanks only. -/
def allBlank (s : List Char) : Bool :=
  s.all isBlank

/-- `trim` on strings. -/
def trimmed (s : String) : String :=
  String.ofList (trim s.toList)

/-- Whether a string has blanks only. -/
def isBlankText (s : String) : Bool :=
  allBlank s.toList

example : words "  a\tbc \n d ".toList = ["a".toList, "bc".toList, "d".toList] := by decide
example : trim " \u00a0a b\u3000".toList = "a b".toList := by decide
example : isBlank '\u200b' = false ∧ isBlank '\ufeff' = false ∧ isBlank '\x1c' = false := by decide

end RegistryDedup.Text
