import RegistryDedup.Text.Split

/-!
# Spans of time

A `Span` is a number of nanoseconds. `Span.text` writes it in the greatest unit of which it has at
least one, with the fraction of that unit and without trailing zeros: `1.5ms`, `30s`, `250µs`.
-/

namespace RegistryDedup

/-- A span of time. -/
structure Span where
  nanos : Nat
  deriving DecidableEq, Repr

namespace Span

open Text

/-- A number of microseconds. -/
def micros (n : Nat) : Span := ⟨n * Nat.pow 10 3⟩

/-- A number of milliseconds. -/
def millis (n : Nat) : Span := ⟨n * Nat.pow 10 6⟩

/-- A number of seconds. -/
def seconds (n : Nat) : Span := ⟨n * Nat.pow 10 9⟩

/-- The whole milliseconds of a span. -/
def toMillis (s : Span) : Nat :=
  s.nanos / Nat.pow 10 6

/-- The decimal fraction `n / 10 ^ places`, without trailing zeros; nothing where it is zero. -/
def fractionText (places n : Nat) : List Char :=
  if n = 0 then []
  else
    let digits := Nat.toDigits 10 n
    let all := List.replicate (places - digits.length) '0' ++ digits
    '.' :: (all.reverse.dropWhile (· == '0')).reverse

/-- A number of nanoseconds in a unit of `10 ^ places` nanoseconds. -/
def inUnit (places : Nat) (unit : String) (n : Nat) : String :=
  let whole := Nat.pow 10 places
  decimal (n / whole) ++ String.ofList (fractionText places (n % whole)) ++ unit

/-- How a span is written. -/
def text (s : Span) : String :=
  if Nat.pow 10 9 ≤ s.nanos then inUnit 9 "s" s.nanos
  else if Nat.pow 10 6 ≤ s.nanos then inUnit 6 "ms" s.nanos
  else if Nat.pow 10 3 ≤ s.nanos then inUnit 3 "µs" s.nanos
  else inUnit 0 "ns" s.nanos

end Span

end RegistryDedup
