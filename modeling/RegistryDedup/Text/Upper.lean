import RegistryDedup.Text.CaseTable
import RegistryDedup.Text.Blank

/-!
# Upper case

`upperChar` gives the upper-case form of one character, which may be several characters (`ß` gives
`SS`); `upper` replaces each character of a text by its upper-case form. The form of a character
does not depend on its neighbours.
-/

namespace RegistryDedup.Text

/-- The upper-case form of one character. -/
def upperChar (c : Char) : List Char :=
  let n := c.toNat
  if n < 0x80 then
    [if 0x61 ≤ n && n ≤ 0x7A then Char.ofNat (n - 0x20) else c]
  else
    match upperExpansions.lookup n with
    | some codes => codes.map Char.ofNat
    | none =>
      match upperRuns.find? (·.covers n) with
      | some run => [Char.ofNat (run.image n)]
      | none => [c]

/-- The upper-case form of a text. -/
def upper (s : List Char) : List Char :=
  s.flatMap upperChar

/-- ASCII letters in lower case; all else unchanged. -/
def lowerAscii (s : List Char) : List Char :=
  s.map Char.toLower

/-- ASCII letters in upper case; all else unchanged. -/
def upperAscii (s : List Char) : List Char :=
  s.map Char.toUpper

example : upper "Großraum".toList = "GROSSRAUM".toList := by decide +kernel
example : upper "ﬁſ".toList = "FIS".toList := by decide +kernel

end RegistryDedup.Text
