/-!
# Double-precision numbers

A finite double is a sign, a significand below `2 ^ 53` and a power of two. Every operation takes
the exact result, a quotient of natural numbers, and rounds it once to the nearest double; of two
nearest ones the one with the even significand is taken. A result beyond the greatest double is no
double.

Powers are spelled `Nat.pow` in definitions, so that they mean the same with and without the powers
of monoids in scope.

- `ofQuotient`: the double nearest to a quotient.
- `mul`, `div`: product and quotient, rounded.
-/

namespace RegistryDedup.Decimal

/-- The finite double `significand * 2 ^ exponent`, with its sign. Zero has a sign too. -/
structure Binary64 where
  negative : Bool
  significand : Nat
  exponent : Int
  deriving DecidableEq, Repr

/-- The whole number nearest to `num / den`; of two nearest ones the even one. -/
def roundHalfEven (num den : Nat) : Nat :=
  let quotient := num / den
  let twice := 2 * (num % den)
  if twice < den then quotient
  else if den < twice then quotient + 1
  else quotient + quotient % 2

namespace Binary64

/-- The least exponent of a double. -/
def minExponent : Int := -1074

/-- The greatest exponent of a double. -/
def maxExponent : Int := 971

/-- Zero, with a sign. -/
def zero (negative : Bool) : Binary64 :=
  ⟨negative, 0, minExponent⟩

/-- Whether the double is a zero. -/
def isZero (x : Binary64) : Bool :=
  x.significand == 0

/-- The double with the other sign. -/
def neg (x : Binary64) : Binary64 :=
  { x with negative := !x.negative }

/-- The power of two at or below the positive quotient `num / den`. -/
def binaryOrder (num den : Nat) : Int :=
  let guess : Int := (num.log2 : Int) - den.log2
  if den * Nat.pow 2 guess.toNat ≤ num * Nat.pow 2 (-guess).toNat then guess else guess - 1

/-- The double nearest to `num / den`, or `none` beyond the greatest double. -/
def ofQuotient (negative : Bool) (num den : Nat) : Option Binary64 :=
  if num = 0 then some (zero negative)
  else
    let exponent := max (binaryOrder num den - 52) minExponent
    let significand :=
      roundHalfEven (num * Nat.pow 2 (-exponent).toNat) (den * Nat.pow 2 exponent.toNat)
    let x : Binary64 :=
      if significand < Nat.pow 2 53 then ⟨negative, significand, exponent⟩
      else ⟨negative, Nat.pow 2 52, exponent + 1⟩
    if x.exponent ≤ maxExponent then some x else none

/-- The double nearest to a natural number, or `none` beyond the greatest double. -/
def ofNat (n : Nat) : Option Binary64 :=
  ofQuotient false n 1

/-- Numerator of the magnitude. -/
def numerator (x : Binary64) : Nat :=
  x.significand * Nat.pow 2 x.exponent.toNat

/-- Denominator of the magnitude. -/
def denominator (x : Binary64) : Nat :=
  Nat.pow 2 (-x.exponent).toNat

/-- The product, rounded to the nearest double. -/
def mul (x y : Binary64) : Option Binary64 :=
  ofQuotient (x.negative != y.negative) (x.numerator * y.numerator)
    (x.denominator * y.denominator)

/-- The quotient by a double other than zero, rounded to the nearest double. -/
def div (x y : Binary64) : Option Binary64 :=
  ofQuotient (x.negative != y.negative) (x.numerator * y.denominator)
    (x.denominator * y.numerator)

end Binary64

example : Binary64.ofNat 1 = some ⟨false, 2 ^ 52, -52⟩ := by decide
example : Binary64.ofNat (2 ^ 53 + 1) = some ⟨false, 2 ^ 52, 1⟩ := by decide
example : Binary64.ofQuotient true 1 (2 ^ 1075) = some (Binary64.zero true) := by decide +kernel
example : Binary64.ofNat (2 ^ 1024) = none := by decide +kernel

end RegistryDedup.Decimal
