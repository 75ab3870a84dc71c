import RegistryDedup.Decimal.Binary64

/-!
# Shortest decimal digits

`shortest` gives the decimal number with the fewest digits that is nearer to a double than to any
other double, and of those with so few digits the one nearest to it. All arithmetic is exact: the
double and the two ends of the interval of numbers that round to it are compared as natural
numbers over a common denominator.
-/

namespace RegistryDedup.Decimal

/-- The decimal number `coefficient * 10 ^ exponent`. -/
structure Scientific where
  coefficient : Nat
  exponent : Int
  deriving DecidableEq, Repr

/-- How many decimal digits a number has. -/
def digitCount (n : Nat) : Nat :=
  (Nat.toDigits 10 n).length

/-- The least power of ten above the positive quotient `num / den`. -/
def decimalOrder (num den : Nat) : Int :=
  if den ≤ num then digitCount (num / den) else 1 - (digitCount ((den - 1) / num) : Int)

/-- The numbers that round to a double, in quarters of its last place: the double itself, the
distances to the lower and to the upper end, and whether the ends belong to it. -/
structure RoundingInterval where
  centre : Nat
  below : Nat
  above : Nat
  closed : Bool

namespace RoundingInterval

/-- The interval of a positive double. Below a power of two the doubles are twice as dense. -/
def ofBinary64 (x : Binary64) : RoundingInterval where
  centre := 4 * x.significand
  below := if x.significand = Nat.pow 2 52 ∧ Binary64.minExponent < x.exponent then 1 else 2
  above := 2
  closed := x.significand % 2 == 0

/-- Whether the number `n / den`, in the unit of the interval, rounds to the double. -/
def covers (i : RoundingInterval) (n den : Nat) : Bool :=
  let low := (i.centre - i.below) * den
  let high := (i.centre + i.above) * den
  if i.closed then low ≤ n && n ≤ high else low < n && n < high

end RoundingInterval

/-- The nearest number of the form `c * 10 ^ place` that rounds to the double, if there is one;
of two as near the one with the even coefficient. -/
def onGrid (x : Binary64) (place : Int) : Option Scientific :=
  let i := RoundingInterval.ofBinary64 x
  let quarter := x.exponent - 2
  -- one step of the grid, in quarters of the last place, is `step / den`
  let step := Nat.pow 10 place.toNat * Nat.pow 2 (-quarter).toNat
  let den := Nat.pow 10 (-place).toNat * Nat.pow 2 quarter.toNat
  let low := i.centre * den / step
  let high := low + 1
  let toLow := i.centre * den - low * step
  let toHigh := high * step - i.centre * den
  match i.covers (low * step) den, i.covers (high * step) den with
  | true, true =>
    some ⟨if toLow < toHigh || (toLow == toHigh && low % 2 == 0) then low else high, place⟩
  | true, false => some ⟨low, place⟩
  | false, true => some ⟨high, place⟩
  | false, false => none

/-- The first hit on the grids of `digits`, `digits + 1`, ... digits, on at most `tries` grids. -/
def firstOnGrid (x : Binary64) (order : Int) : (tries digits : Nat) → Option Scientific
  | 0, _ => none
  | tries + 1, digits =>
    (onGrid x (order - digits)).or (firstOnGrid x order tries (digits + 1))

/-- The number without trailing zeros in its coefficient. -/
def Scientific.trim (d : Scientific) : Scientific :=
  let rec go : Nat → Scientific → Scientific
    | 0, d => d
    | fuel + 1, d =>
      if d.coefficient ≠ 0 ∧ d.coefficient % 10 = 0 then
        go fuel ⟨d.coefficient / 10, d.exponent + 1⟩
      else d
  go (digitCount d.coefficient) d

/-- The shortest decimal number that rounds to a double. Seventeen digits always suffice. -/
def shortest (x : Binary64) : Scientific :=
  if x.isZero then ⟨0, 0⟩
  else
    ((firstOnGrid x (decimalOrder x.numerator x.denominator) 17 1).getD ⟨0, 0⟩).trim

example : (Binary64.ofQuotient false 1 10).map shortest = some ⟨1, -1⟩ := by decide +kernel
example : shortest ⟨false, 1, -1074⟩ = ⟨5, -324⟩ := by decide +kernel
example : shortest ⟨false, 2 ^ 53 - 1, 971⟩ = ⟨17976931348623157, 292⟩ := by decide +kernel
example : (Binary64.ofNat (10 ^ 23)).map shortest = some ⟨1, 23⟩ := by decide +kernel

end RegistryDedup.Decimal
