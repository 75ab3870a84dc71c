import RegistryDedup.Time.Instant
import RegistryDedup.Text.Integer
import RegistryDedup.Text.Blank

/-!
# Reading instants

Three forms are read.

- Strict: `2024-03-01T10:00:00.5+07:00`. Two digits for each part, four for the year, an offset or
  `Z` at the end.
- Local: the same without an offset, taken as universal time. Each number may have fewer digits and
  blanks in front of it, and a year with a sign may have any number of digits. Date and time are
  apart by a `T`, or by blanks, or by nothing.
- Loose: as the local form, with blanks also before each mark and an offset or `Z` at the end.

Main definitions:

- `Instant.read?`: the strict form, else the local one. For cells of a table.
- `Instant.readLoose?`: the loose form. For entries of a journal.
-/

namespace RegistryDedup

open Text

namespace Clock

/-- Between `min` and `max` digits, and the text after them. -/
def takeDigits (min max : Nat) (s : List Char) : Option (Nat × List Char) :=
  let ds := (s.takeWhile isDigit).take max
  if ds.length < min then none else some (digitsValue ds, s.drop ds.length)

/-- The text after a given character. -/
def expect (c : Char) : List Char → Option (List Char)
  | d :: rest => if d = c then some rest else none
  | [] => none

/-- A fraction of a second in nanoseconds, if the text goes on with a point. Digits after the ninth
are dropped. -/
def readFraction : List Char → Option (Nat × List Char)
  | '.' :: rest =>
    let ds := rest.takeWhile isDigit
    if ds.isEmpty then none
    else
      let kept := ds.take 9
      some (digitsValue kept * Nat.pow 10 (9 - kept.length), rest.drop ds.length)
  | s => some (0, s)

/-- The minutes of an offset, two digits below 60. -/
def offsetMinutes : List Char → Option (Nat × List Char)
  | a :: b :: rest =>
    if isDigit a && isDigit b && digitValue a ≤ 5 then
      some (10 * digitValue a + digitValue b, rest)
    else none
  | _ => none

/-- An offset from universal time in seconds: `Z`, or a sign, hours and minutes, where `between`
takes what stands between hours and minutes. Offsets are less than a day. -/
def readOffset (between : List Char → Option (List Char)) : List Char → Option (Int × List Char)
  | c :: rest =>
    if c = 'Z' ∨ c = 'z' then some (0, rest)
    else if c = '+' ∨ c = '-' ∨ c = '\u2212' then
      match rest with
      | a :: b :: rest =>
        if isDigit a && isDigit b then do
          let (minutes, rest) ← offsetMinutes (← between rest)
          let seconds : Nat := (10 * digitValue a + digitValue b) * 3600 + minutes * 60
          guard (seconds < secondsPerDay)
          return (if c = '+' then (seconds : Int) else -(seconds : Int), rest)
        else none
      | _ => none
    else none
  | [] => none

/-- A number of one or two digits, after blanks. -/
def readPart (s : List Char) : Option (Nat × List Char) :=
  takeDigits 1 2 (trimStart s)

/-- A year, after blanks: up to four digits, or a sign and any number of digits. -/
def readYear (s : List Char) : Option (Int × List Char) :=
  match trimStart s with
  | '-' :: rest => (takeDigits 1 rest.length rest).map fun (n, rest) => (-(n : Int), rest)
  | '+' :: rest => (takeDigits 1 rest.length rest).map fun (n, rest) => ((n : Int), rest)
  | s => (takeDigits 1 4 s).map fun (n, rest) => ((n : Int), rest)

/-- Year, month and day with marks that `mark` takes. -/
def readDate (mark : Char → List Char → Option (List Char)) (s : List Char) :
    Option (Date × List Char) := do
  let (year, s) ← readYear s
  let (month, s) ← readPart (← mark '-' s)
  let (day, s) ← readPart (← mark '-' s)
  return (← Date.ofFields? year month day, s)

/-- Hour, minute, second and nanoseconds with marks that `mark` takes. -/
def readTime (mark : Char → List Char → Option (List Char)) (s : List Char) :
    Option ((Nat × Nat × Nat × Nat) × List Char) := do
  let (hour, s) ← readPart s
  let (minute, s) ← readPart (← mark ':' s)
  let (second, s) ← readPart (← mark ':' s)
  let (nano, s) ← readFraction s
  return ((hour, minute, second, nano), s)

/-- The mark between date and time of the strict and the loose form. -/
def timeMark : List Char → Option (List Char)
  | c :: rest => if c = 'T' ∨ c = 't' ∨ c = ' ' then some rest else none
  | [] => none

/-- A character with blanks in front of it. -/
def spacedMark (c : Char) (s : List Char) : Option (List Char) :=
  expect c (trimStart s)

/-- Whether a text begins with `UTC` in any case. -/
def startsWithUtc (s : List Char) : Bool :=
  upperAscii3 s == ['U', 'T', 'C']
where
  /-- The first three characters with ASCII letters in upper case. -/
  upperAscii3 (s : List Char) : List Char := (s.take 3).map Char.toUpper

end Clock

namespace Instant

open Clock

/-- The strict form. -/
def readStrict? (s : List Char) : Option Instant := do
  let (year, s) ← takeDigits 4 4 s
  let (month, s) ← takeDigits 2 2 (← expect '-' s)
  let (day, s) ← takeDigits 2 2 (← expect '-' s)
  let (hour, s) ← takeDigits 2 2 (← timeMark s)
  let (minute, s) ← takeDigits 2 2 (← expect ':' s)
  let (second, s) ← takeDigits 2 2 (← expect ':' s)
  let (nano, s) ← readFraction s
  let (offset, s) ← readOffset (expect ':') s
  guard s.isEmpty
  ofLocal? (← Date.ofFields? year month day) hour minute second nano offset

/-- The local form, with the mark between date and time that `mark` takes. -/
def readLocal? (mark : List Char → Option (List Char)) (s : List Char) : Option Instant := do
  let (date, s) ← readDate expect s
  let ((hour, minute, second, nano), s) ← readTime expect (← mark s)
  guard s.isEmpty
  ofLocal? date hour minute second nano 0

/-- The loose form. -/
def readLooseText? (s : List Char) : Option Instant := do
  let (date, s) ← readDate spacedMark s
  let ((hour, minute, second, nano), s) ← readTime spacedMark (← timeMark s)
  let s := trimStart s
  let (offset, s) ←
    if startsWithUtc s then some (0, s.drop 3)
    else readOffset (fun s => some (s.dropWhile fun c => c == ':' || isBlank c)) s
  guard (allBlank s)
  ofLocal? date hour minute second nano offset

/-- The instant that a cell of a table holds: the strict form, or else the local one. -/
def read? (s : String) : Option Instant :=
  let s := s.toList
  (readStrict? s).or ((readLocal? (expect 'T') s).or (readLocal? (some ∘ trimStart) s))

/-- The instant that an entry of a journal holds. -/
def readLoose? (s : String) : Option Instant :=
  readLooseText? s.toList

end Instant

end RegistryDedup
