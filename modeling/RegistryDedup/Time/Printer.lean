import RegistryDedup.Time.Instant
import RegistryDedup.Text.Split

/-!
# Writing instants

An instant is written as date, `T`, time of day and the mark of universal time. The fraction of a
second has three, six or nine digits, the fewest that are exact, and is left out where it is zero.
Years of four digits have no sign, all others have one.

- `Instant.text`: with `Z` for universal time.
- `Instant.textWithOffset`: with `+00:00` for universal time.
- `Instant.stamp`: without marks between the parts.
-/

namespace RegistryDedup

open Text

/-- A number in at least `width` digits, with zeros in front. -/
def padded (width n : Nat) : List Char :=
  let digits := Nat.toDigits 10 n
  List.replicate (width - digits.length) '0' ++ digits

/-- How a year is written. -/
def yearText (year : Int) : List Char :=
  if 0 ≤ year ∧ year ≤ 9999 then padded 4 year.natAbs
  else (if year < 0 then '-' else '+') :: padded 4 year.natAbs

namespace Instant

/-- How the fraction of a second is written. -/
def fractionText (nano : Nat) : List Char :=
  if nano = 0 then []
  else if nano % Nat.pow 10 6 = 0 then '.' :: padded 3 (nano / Nat.pow 10 6)
  else if nano % Nat.pow 10 3 = 0 then '.' :: padded 6 (nano / Nat.pow 10 3)
  else '.' :: padded 9 nano

/-- Date and time of day. -/
def clockText (t : Instant) : List Char :=
  yearText t.date.year ++ '-' :: padded 2 t.date.month ++ '-' :: padded 2 t.date.day ++
    'T' :: padded 2 t.hour ++ ':' :: padded 2 t.minute ++ ':' :: padded 2 t.secondOfMinute ++
    fractionText t.subsecond

/-- An instant, with `Z` for universal time. -/
def text (t : Instant) : String :=
  String.ofList (t.clockText ++ ['Z'])

/-- An instant, with `+00:00` for universal time. -/
def textWithOffset (t : Instant) : String :=
  String.ofList (t.clockText ++ "+00:00".toList)

/-- An instant without marks between the parts of date and time, to the second. -/
def stamp (t : Instant) : String :=
  String.ofList (yearText t.date.year ++ padded 2 t.date.month ++ padded 2 t.date.day ++
    'T' :: padded 2 t.hour ++ padded 2 t.minute ++ padded 2 t.secondOfMinute ++ ['Z'])

end Instant

end RegistryDedup
