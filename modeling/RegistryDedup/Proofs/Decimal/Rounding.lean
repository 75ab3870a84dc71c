import Mathlib.Algebra.Order.Field.Power
import Mathlib.Data.Rat.Cast.Order
import Mathlib.Tactic.FieldSimp
import Mathlib.Tactic.Linarith
import Mathlib.Tactic.Positivity
import Mathlib.Tactic.Ring
import RegistryDedup.Decimal.Binary64

/-!
# Rounding to doubles

- `le_roundHalfEven_iff`: when a quotient is rounded to no less than a whole number.
- `binaryOrder_spec`: the power of two at or below a quotient.
- `ofQuotient_eq_none_iff`: a quotient has no double from the middle between the greatest double and
  the next power of two on.
- `abs_magnitude_sub_le`: how far a double is from what was rounded to it.
-/

namespace RegistryDedup.Decimal

variable {num den m : Nat}

/-! ## Whole numbers -/

/-- A quotient is rounded to `m` or more from the middle between `m - 1` and `m` on. The middle itself
belongs to the even one of the two. -/
theorem le_roundHalfEven_iff (hden : 0 < den) (hm : 0 < m) : m ≤ roundHalfEven num den ↔
    if m % 2 = 0 then (2 * m - 1) * den ≤ 2 * num else (2 * m - 1) * den < 2 * num := by
  obtain ⟨k, rfl⟩ : ∃ k, m = k + 1 := ⟨m - 1, by omega⟩
  have hnum : num = den * (num / den) + num % den := (Nat.div_add_mod num den).symm
  have hmod := Nat.mod_lt num hden
  have hbounds : num / den ≤ roundHalfEven num den ∧ roundHalfEven num den ≤ num / den + 1 := by
    unfold roundHalfEven
    dsimp only
    split_ifs <;> omega
  have hodd : 2 * (k + 1) - 1 = 2 * k + 1 := by omega
  rw [hodd]
  -- Only where the whole part of the quotient is `k` is it the rounding that decides.
  obtain hk | hk | hk := Nat.lt_trichotomy k (num / den)
  · -- Below the quotient there is nothing to round.
    have hprod : den * (k + 1) ≤ den * (num / den) := Nat.mul_le_mul_left den hk
    have hlt : (2 * k + 1) * den < 2 * num := by
      calc (2 * k + 1) * den < 2 * (den * (k + 1)) := by ring_nf; omega
        _ ≤ 2 * num := by omega
    refine iff_of_true (by omega) ?_
    split
    · exact hlt.le
    · exact hlt
  · subst hk
    have htwice : (2 * (num / den) + 1) * den = 2 * (den * (num / den)) + den := by ring
    rw [htwice]
    unfold roundHalfEven
    dsimp only
    split_ifs <;> omega
  · have hprod : den * (num / den + 1) ≤ den * k := Nat.mul_le_mul_left den hk
    have hlt : 2 * num < (2 * k + 1) * den := by
      rw [Nat.mul_succ] at hprod
      calc 2 * num < 2 * (den * k) := by omega
        _ ≤ (2 * k + 1) * den := by ring_nf; omega
    refine iff_of_false (by omega) ?_
    split <;> omega

/-! ## Powers of two -/

namespace Binary64

theorem two_pow_pos (n : Nat) : 0 < Nat.pow 2 n :=
  Nat.pow_pos (by decide)

/-- A power of two as it stands in a quotient of natural numbers. -/
theorem two_zpow_mul (e : Int) :
    (2 : ℚ) ^ e * (Nat.pow 2 (-e).toNat : Nat) = (Nat.pow 2 e.toNat : Nat) := by
  obtain ⟨n, rfl | rfl⟩ := e.eq_nat_or_neg
  · simp
  · simp

theorem le_iff_two_zpow_le (e : Int) : den * Nat.pow 2 e.toNat ≤ num * Nat.pow 2 (-e).toNat ↔
    (den : ℚ) * 2 ^ e ≤ num := by
  have hpos : (0 : ℚ) < (Nat.pow 2 (-e).toNat : Nat) := by
    exact_mod_cast two_pow_pos _
  rw [← mul_le_mul_iff_left₀ hpos, mul_assoc, two_zpow_mul]
  norm_cast

theorem two_zpow_log2 (hnum : 0 < num) :
    (2 : ℚ) ^ (num.log2 : Int) ≤ num ∧ (num : ℚ) < 2 ^ ((num.log2 : Int) + 1) := by
  constructor
  · exact_mod_cast Nat.log2_self_le hnum.ne'
  · exact_mod_cast Nat.lt_log2_self (n := num)

/-- The power of two at or below a quotient. -/
theorem binaryOrder_spec (hnum : 0 < num) (hden : 0 < den) :
    (den : ℚ) * 2 ^ binaryOrder num den ≤ num ∧
      (num : ℚ) < den * 2 ^ (binaryOrder num den + 1) := by
  obtain ⟨hnumlow, hnumhigh⟩ := two_zpow_log2 hnum
  obtain ⟨hdenlow, hdenhigh⟩ := two_zpow_log2 hden
  have htwo : (2 : ℚ) ≠ 0 := by norm_num
  unfold binaryOrder
  dsimp only
  generalize hguess : (num.log2 : Int) - den.log2 = guess
  split
  · next h =>
    refine ⟨(le_iff_two_zpow_le guess).mp h, hnumhigh.trans_le ?_⟩
    calc (2 : ℚ) ^ ((num.log2 : Int) + 1) = 2 ^ (den.log2 : Int) * 2 ^ (guess + 1) := by
          rw [← zpow_add₀ htwo]
          congr 1
          omega
      _ ≤ den * 2 ^ (guess + 1) := by gcongr
  · next h =>
    rw [le_iff_two_zpow_le, not_le] at h
    refine ⟨?_, by rwa [sub_add_cancel]⟩
    calc (den : ℚ) * 2 ^ (guess - 1) ≤ 2 ^ ((den.log2 : Int) + 1) * 2 ^ (guess - 1) := by gcongr
      _ = 2 ^ (num.log2 : Int) := by
          rw [← zpow_add₀ htwo]
          congr 1
          omega
      _ ≤ num := hnumlow

/-- Only one power of two is at or below a quotient and above its half. -/
theorem binaryOrder_eq {order : Int} (hnum : 0 < num) (hden : 0 < den)
    (hlow : (den : ℚ) * 2 ^ order ≤ num) (hhigh : (num : ℚ) < den * 2 ^ (order + 1)) :
    binaryOrder num den = order := by
  obtain ⟨hlow', hhigh'⟩ := binaryOrder_spec hnum hden
  have hpos : (0 : ℚ) < den := by exact_mod_cast hden
  have hone : (1 : ℚ) < 2 := by norm_num
  have hle := (zpow_lt_zpow_iff_right₀ hone).mp
    (lt_of_mul_lt_mul_left (hlow.trans_lt hhigh') hpos.le)
  have hge := (zpow_lt_zpow_iff_right₀ hone).mp
    (lt_of_mul_lt_mul_left (hlow'.trans_lt hhigh) hpos.le)
  omega

/-- A quotient that is no less than one has a power of two below it that is a natural number. -/
theorem binaryOrder_nonneg (hden : 0 < den) (hle : den ≤ num) : 0 ≤ binaryOrder num den := by
  have hle' : (den : ℚ) ≤ num := by exact_mod_cast hle
  have hpos : (0 : ℚ) < den := by exact_mod_cast hden
  have hmul : (den : ℚ) * 1 < den * 2 ^ (binaryOrder num den + 1) := by
    rw [mul_one]
    exact hle'.trans_lt (binaryOrder_spec (hden.trans_le hle) hden).2
  have hone : (1 : ℚ) < 2 ^ (binaryOrder num den + 1) := lt_of_mul_lt_mul_left hmul hpos.le
  have hexponent := (one_lt_zpow_iff_right₀ (by norm_num : (1 : ℚ) < 2)).mp hone
  omega

/-! ## Quotients -/

/-- The number that a double stands for, without its sign. -/
def magnitude (x : Binary64) : ℚ :=
  x.significand * 2 ^ x.exponent

theorem denominator_pos (x : Binary64) : 0 < x.denominator :=
  two_pow_pos _

theorem numerator_eq (x : Binary64) : (x.numerator : ℚ) = x.magnitude * x.denominator := by
  rw [magnitude, denominator, mul_assoc, two_zpow_mul, numerator, Nat.cast_mul]

/-- The exponent with which a quotient is rounded. -/
def roundingExponent (num den : Nat) : Int :=
  max (binaryOrder num den - 52) minExponent

/-- The significand to which a quotient is rounded. It may be `2 ^ 53`, which stands for the next
power of two. -/
def roundedSignificand (num den : Nat) : Nat :=
  roundHalfEven (num * Nat.pow 2 (-roundingExponent num den).toNat)
    (den * Nat.pow 2 (roundingExponent num den).toNat)

theorem ofQuotient_eq (hnum : 0 < num) (negative : Bool) : ofQuotient negative num den =
    let x : Binary64 :=
      if roundedSignificand num den < Nat.pow 2 53 then
        ⟨negative, roundedSignificand num den, roundingExponent num den⟩
      else ⟨negative, Nat.pow 2 52, roundingExponent num den + 1⟩
    if x.exponent ≤ maxExponent then some x else none :=
  if_neg hnum.ne'

theorem roundHalfEven_error (hden : 0 < den) :
    2 * num ≤ 2 * (den * roundHalfEven num den) + den ∧
      2 * (den * roundHalfEven num den) ≤ 2 * num + den := by
  have hnum := Nat.div_add_mod num den
  have hmod := Nat.mod_lt num hden
  unfold roundHalfEven
  dsimp only
  split_ifs
  · omega
  · rw [Nat.mul_succ]
    omega
  · obtain heven | hodd := Nat.mod_two_eq_zero_or_one (num / den)
    · rw [heven, Nat.add_zero]
      omega
    · rw [hodd, Nat.mul_succ]
      omega

/-- What a quotient is rounded to is no farther from it than half of the last place. -/
theorem roundedSignificand_error (hden : 0 < den) :
    (num : ℚ) / den ≤ roundedSignificand num den * 2 ^ roundingExponent num den +
        2 ^ roundingExponent num den / 2 ∧
      roundedSignificand num den * 2 ^ roundingExponent num den ≤
        (num : ℚ) / den + 2 ^ roundingExponent num den / 2 := by
  have hscale := two_zpow_mul (roundingExponent num den)
  have hden' : 0 < den * Nat.pow 2 (roundingExponent num den).toNat :=
    Nat.mul_pos hden (two_pow_pos _)
  obtain ⟨hlow, hhigh⟩ := @roundHalfEven_error
    (num * Nat.pow 2 (-roundingExponent num den).toNat) _ hden'
  have hdown : 0 < Nat.pow 2 (-roundingExponent num den).toNat := two_pow_pos _
  unfold roundedSignificand
  generalize roundHalfEven _ _ = r at *
  generalize (2 : ℚ) ^ roundingExponent num den = unit at *
  generalize Nat.pow 2 (-roundingExponent num den).toNat = down at *
  generalize Nat.pow 2 (roundingExponent num den).toNat = up at *
  have hlow' : (2 : ℚ) * (num * down) ≤ 2 * (den * up * r) + den * up := by exact_mod_cast hlow
  have hhigh' : (2 : ℚ) * (den * up * r) ≤ 2 * (num * down) + den * up := by exact_mod_cast hhigh
  have hpos : (0 : ℚ) < den := by exact_mod_cast hden
  have hpos' : (0 : ℚ) < down := by exact_mod_cast hdown
  rw [← hscale] at hlow' hhigh'
  constructor
  · rw [div_le_iff₀ hpos]
    refine le_of_mul_le_mul_right ?_ hpos'
    linarith
  · rw [← sub_le_iff_le_add, le_div_iff₀ hpos]
    refine le_of_mul_le_mul_right ?_ hpos'
    linarith

theorem binaryOrder_le_roundingExponent (num den : Nat) :
    binaryOrder num den ≤ roundingExponent num den + 52 := by
  unfold roundingExponent
  omega

/-- The significand has no more than 53 digits, but for the next power of two. -/
theorem roundedSignificand_le (hnum : 0 < num) (hden : 0 < den) :
    roundedSignificand num den ≤ Nat.pow 2 53 := by
  have hscale := two_zpow_mul (roundingExponent num den)
  have hup : 0 < den * Nat.pow 2 (roundingExponent num den).toNat :=
    Nat.mul_pos hden (two_pow_pos _)
  have hpos : (0 : ℚ) < den := by exact_mod_cast hden
  have hdown : (0 : ℚ) < (Nat.pow 2 (-roundingExponent num den).toNat : Nat) := by
    exact_mod_cast two_pow_pos _
  have hbelow : (num : ℚ) < den * (2 ^ roundingExponent num den * 2 ^ 53) := by
    refine (binaryOrder_spec hnum hden).2.trans_le (mul_le_mul_of_nonneg_left ?_ hpos.le)
    have horder := binaryOrder_le_roundingExponent num den
    calc (2 : ℚ) ^ (binaryOrder num den + 1) ≤ 2 ^ (roundingExponent num den + 53) :=
          zpow_le_zpow_right₀ (by norm_num) (by omega)
      _ = 2 ^ roundingExponent num den * 2 ^ 53 := by
          rw [zpow_add₀ (by norm_num)]
          norm_cast
  have hscaled : num * Nat.pow 2 (-roundingExponent num den).toNat <
      den * Nat.pow 2 (roundingExponent num den).toNat * 2 ^ 53 := by
    have hmul := mul_lt_mul_of_pos_right hbelow hdown
    have hright : (den : ℚ) * (2 ^ roundingExponent num den * 2 ^ 53) *
        (Nat.pow 2 (-roundingExponent num den).toNat : Nat) =
        den * (Nat.pow 2 (roundingExponent num den).toNat : Nat) * 2 ^ 53 := by
      rw [← hscale]
      ring
    rw [hright] at hmul
    exact_mod_cast hmul
  -- Even the middle above `2 ^ 53` is out of reach.
  by_contra hlarge
  have hle : Nat.pow 2 53 + 1 ≤ roundedSignificand num den := by omega
  have htwice := (le_roundHalfEven_iff hup (by omega)).mp hle
  have hodd : 2 * (Nat.pow 2 53 + 1) - 1 = 2 ^ 54 + 1 := rfl
  rw [if_neg (by decide), hodd] at htwice
  generalize num * Nat.pow 2 (-roundingExponent num den).toNat = n at *
  generalize den * Nat.pow 2 (roundingExponent num den).toNat = d at *
  omega

/-- What stands for a quotient: the significand times a power of two. -/
theorem magnitude_of_ofQuotient {negative : Bool} {x : Binary64} (hnum : 0 < num) (hden : 0 < den)
    (hx : ofQuotient negative num den = some x) :
    x.magnitude = roundedSignificand num den * 2 ^ roundingExponent num den := by
  rw [ofQuotient_eq hnum] at hx
  dsimp only at hx
  by_cases hsmall : roundedSignificand num den < Nat.pow 2 53
  · rw [if_pos hsmall] at hx
    obtain ⟨-, hx⟩ := Option.ite_none_right_eq_some.mp hx
    obtain rfl := Option.some.inj hx
    rfl
  · have heq : roundedSignificand num den = Nat.pow 2 53 :=
      Nat.le_antisymm (roundedSignificand_le hnum hden) (Nat.not_lt.mp hsmall)
    rw [if_neg hsmall] at hx
    obtain ⟨-, hx⟩ := Option.ite_none_right_eq_some.mp hx
    obtain rfl := Option.some.inj hx
    rw [heq]
    show ((Nat.pow 2 52 : Nat) : ℚ) * 2 ^ (roundingExponent num den + 1) = _
    rw [zpow_add₀ (by norm_num), zpow_one]
    norm_num
    ring

/-- The middle between the greatest double and the next power of two. -/
def overflow : Nat :=
  (Nat.pow 2 54 - 1) * Nat.pow 2 970

/-- There is no double where the exponent is too great, or would be after the next power of two. -/
theorem ofQuotient_eq_none (hnum : 0 < num) (negative : Bool) :
    ofQuotient negative num den = none ↔ 971 < roundingExponent num den ∨
      roundingExponent num den = 971 ∧ Nat.pow 2 53 ≤ roundedSignificand num den := by
  rw [ofQuotient_eq hnum]
  dsimp only
  by_cases hsmall : roundedSignificand num den < Nat.pow 2 53
  · rw [if_pos hsmall, ite_eq_right_iff]
    simp only [reduceCtorEq, imp_false, maxExponent]
    omega
  · rw [if_neg hsmall, ite_eq_right_iff]
    simp only [reduceCtorEq, imp_false, maxExponent]
    omega

/-- With the greatest exponent the significand decides. -/
theorem le_roundedSignificand_iff (hden : 0 < den) (hgreatest : roundingExponent num den = 971) :
    Nat.pow 2 53 ≤ roundedSignificand num den ↔ overflow * den ≤ num := by
  have hdown : Nat.pow 2 (-971 : Int).toNat = 1 := rfl
  have hup : Nat.pow 2 (971 : Int).toNat = 2 * Nat.pow 2 970 := by decide +kernel
  have hodd : 2 * Nat.pow 2 53 - 1 = Nat.pow 2 54 - 1 := rfl
  have hunit : 0 < den * (2 * Nat.pow 2 970) := by
    rw [← hup]
    exact Nat.mul_pos hden (two_pow_pos _)
  rw [roundedSignificand, hgreatest, hdown, hup, Nat.mul_one, le_roundHalfEven_iff hunit (by decide),
    if_pos (by decide), hodd, overflow]
  generalize Nat.pow 2 970 = half
  generalize Nat.pow 2 54 - 1 = odd
  have hswap : odd * (den * (2 * half)) = 2 * (odd * half * den) := by ring
  rw [hswap]
  omega

/-- A quotient has no double from the middle between the greatest double and the next power of two
on. -/
theorem ofQuotient_eq_none_iff (hden : 0 < den) (negative : Bool) :
    ofQuotient negative num den = none ↔ overflow * den ≤ num := by
  obtain rfl | hnum := Nat.eq_zero_or_pos num
  · have hpos : 0 < overflow * den := Nat.mul_pos (by decide +kernel) hden
    refine iff_of_false ?_ (by omega)
    rw [ofQuotient, if_pos rfl]
    exact Option.some_ne_none _
  obtain ⟨hlow, hhigh⟩ := binaryOrder_spec hnum hden
  have hpos : (0 : ℚ) < den := by exact_mod_cast hden
  have hexponent : roundingExponent num den = max (binaryOrder num den - 52) (-1074) := rfl
  rw [ofQuotient_eq_none hnum]
  obtain hsmall | hedge | hlarge := Int.lt_trichotomy (roundingExponent num den) 971
  · -- The quotient is below the half of the next power of two.
    have hbelow : num < den * 2 ^ 1023 := by
      have hmono : (2 : ℚ) ^ (binaryOrder num den + 1) ≤ 2 ^ (1023 : Int) :=
        zpow_le_zpow_right₀ (by norm_num) (by omega)
      exact_mod_cast hhigh.trans_le (mul_le_mul_of_nonneg_left hmono hpos.le)
    have hover : 2 ^ 1023 * den ≤ overflow * den :=
      Nat.mul_le_mul_right den (by decide +kernel)
    rw [Nat.mul_comm] at hbelow
    exact iff_of_false (by omega) (by omega)
  · rw [← le_roundedSignificand_iff hden hedge]
    omega
  · have habove : den * 2 ^ 1024 ≤ num := by
      have hmono : (2 : ℚ) ^ (1024 : Int) ≤ 2 ^ binaryOrder num den :=
        zpow_le_zpow_right₀ (by norm_num) (by omega)
      exact_mod_cast (mul_le_mul_of_nonneg_left hmono hpos.le).trans hlow
    have hover : overflow * den ≤ 2 ^ 1024 * den :=
      Nat.mul_le_mul_right den (by decide +kernel)
    rw [Nat.mul_comm] at habove
    exact iff_of_true (.inl hlarge) (by omega)

-- From here on only its size matters.
attribute [irreducible] overflow

/-- A double is no farther from what was rounded to it than by a part in `2 ^ 53`, unless this is
less than one. -/
theorem magnitude_bounds {negative : Bool} {x : Binary64} (hden : 0 < den) (hle : den ≤ num)
    (hx : ofQuotient negative num den = some x) :
    (num : ℚ) / den * (1 - 1 / 2 ^ 53) ≤ x.magnitude ∧
      x.magnitude ≤ (num : ℚ) / den * (1 + 1 / 2 ^ 53) := by
  have hnum : 0 < num := hden.trans_le hle
  have hpos : (0 : ℚ) < den := by exact_mod_cast hden
  obtain ⟨hlow, -⟩ := binaryOrder_spec hnum hden
  obtain ⟨herrlow, herrhigh⟩ := @roundedSignificand_error num den hden
  -- The exponent is not the least one, so that the last place is small.
  have horder := binaryOrder_nonneg hden hle
  have hexponent : roundingExponent num den = binaryOrder num den - 52 := by
    have hmax : roundingExponent num den = max (binaryOrder num den - 52) (-1074) := rfl
    omega
  have hunit : (2 : ℚ) ^ roundingExponent num den * 2 ^ 52 ≤ (num : ℚ) / den := by
    rw [hexponent, le_div_iff₀ hpos, mul_comm _ (den : ℚ)]
    refine le_trans (le_of_eq ?_) hlow
    rw [zpow_sub₀ (by norm_num)]
    norm_num
  rw [magnitude_of_ofQuotient hnum hden hx]
  constructor
  · linarith
  · linarith

/-- A natural number has no double from the same one on. -/
theorem ofNat_eq_none_iff {n : Nat} : ofNat n = none ↔ overflow ≤ n := by
  rw [ofNat, ofQuotient_eq_none_iff Nat.one_pos, Nat.mul_one]

theorem ofNat_bounds {n : Nat} {x : Binary64} (hx : ofNat n = some x) :
    (n : ℚ) * (1 - 1 / 2 ^ 53) ≤ x.magnitude ∧ x.magnitude ≤ n * (1 + 1 / 2 ^ 53) := by
  obtain rfl | hn := Nat.eq_zero_or_pos n
  · obtain rfl : zero false = x := Option.some.inj hx
    simp [magnitude, zero]
  · simpa using magnitude_bounds Nat.one_pos hn hx

/-- A product has no double just where it is too large. -/
theorem mul_eq_none_iff {x y : Binary64} :
    x.mul y = none ↔ (overflow : ℚ) ≤ x.magnitude * y.magnitude := by
  have hx : (0 : ℚ) < x.denominator := by exact_mod_cast x.denominator_pos
  have hy : (0 : ℚ) < y.denominator := by exact_mod_cast y.denominator_pos
  have hswap : x.magnitude * x.denominator * (y.magnitude * y.denominator) =
      x.magnitude * y.magnitude * (x.denominator * y.denominator) := by ring
  rw [mul, ofQuotient_eq_none_iff (Nat.mul_pos x.denominator_pos y.denominator_pos),
    ← Nat.cast_le (α := ℚ), Nat.cast_mul, Nat.cast_mul, Nat.cast_mul, numerator_eq, numerator_eq,
    hswap, mul_le_mul_iff_left₀ (mul_pos hx hy)]

end Binary64

end RegistryDedup.Decimal
