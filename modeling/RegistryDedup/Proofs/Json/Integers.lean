import RegistryDedup.Proofs.Decimal.Rounding
import RegistryDedup.Proofs.Json.Extension
import RegistryDedup.Proofs.Text.Digits

/-!
# Whole numbers in JSON texts

A whole number that fits 64 bits stays as it is. Any other one becomes a double, whose text is never
that of a whole number, or is refused where it is too large for one. Its leading digits are rounded
first and their product with a power of ten again, so that the numbers that are refused begin a
little below the greatest double.

- `integerText`: a whole number as it is written.
- `NumberText.scaled_eq_none_iff`, `NumberText.magnitude?_eq_none_iff`: the numbers that are refused.
- `Json.parse?_integerText`: what a whole number is read as.
- `Number.floatText_marked`: doubles are written with a point or an exponent.
-/

namespace RegistryDedup

open Text Decimal

/-- A whole number as it is written. -/
def integerText (negative : Bool) (digits : List Char) : List Char :=
  if negative then '-' :: digits else digits

namespace NumberText

variable {negative : Bool} {digits : List Char} {s k : Nat}

/-! ## Leading digits -/

/-- The leading digits that fit 64 bits are taken: no digits are left, or the next one would not
fit. -/
theorem collect_spec (hdigits : ∀ c ∈ digits, isDigit c = true) (taken : List Char)
    (hfits : digitsValue taken ≤ max64) :
    ∃ front, digits = front ++ (collect digits (digitsValue taken)).2 ∧
      (collect digits (digitsValue taken)).1 = digitsValue (taken ++ front) ∧
      (collect digits (digitsValue taken)).1 ≤ max64 ∧
      ((collect digits (digitsValue taken)).2 = [] ∨
        max64 < 10 * (collect digits (digitsValue taken)).1 + 9) := by
  induction digits generalizing taken with
  | nil => exact ⟨[], rfl, by rw [List.append_nil]; rfl, hfits, .inl rfl⟩
  | cons d ds ih =>
    rw [List.forall_mem_cons] at hdigits
    have hd := digitValue_lt hdigits.1
    have hnext : 10 * digitsValue taken + digitValue d = digitsValue (taken ++ [d]) := by
      rw [digitsValue_append, digitsValue_singleton, List.length_singleton, Nat.pow_one, Nat.mul_comm]
    rw [collect, hnext]
    split
    · next hfits' =>
      obtain ⟨front, hsplit, hvalue, hle, hend⟩ := ih hdigits.2 (taken ++ [d]) hfits'
      refine ⟨d :: front, ?_, ?_, hle, hend⟩
      · rw [List.cons_append, ← hsplit]
      · rw [hvalue, List.append_assoc, List.singleton_append]
    · next hlarge =>
      refine ⟨[], rfl, by rw [List.append_nil], hfits, .inr ?_⟩
      dsimp only
      omega

/-! ## Doubles -/

/-- Leading digits from which on a number with 289 more digits is too large for a double. -/
def refusedFrom : Nat := 17976931348623156225

theorem scaled_natCast (s k : Nat) : scaled s k = (Binary64.ofNat s).bind fun x =>
    if k ≤ maxPower then (powerOfTen k).bind x.mul else if x.isZero then some x else none := by
  unfold scaled
  have hneg : ¬ ((k : Int) < 0) := by omega
  simp only [if_neg hneg, Int.natAbs_natCast]
  rfl

theorem exists_ofNat (hs : s ≤ max64) : ∃ x, Binary64.ofNat s = some x ∧
    (s : ℚ) * (1 - 1 / 2 ^ 53) ≤ x.magnitude ∧ x.magnitude ≤ s * (1 + 1 / 2 ^ 53) := by
  have hsome : Binary64.ofNat s ≠ none := by
    rw [ne_eq, Binary64.ofNat_eq_none_iff]
    have hlarge : max64 < Binary64.overflow := by decide +kernel
    omega
  obtain ⟨x, hx⟩ := Option.ne_none_iff_exists'.mp hsome
  exact ⟨x, hx, Binary64.ofNat_bounds hx⟩

theorem pow_ten_le (m n : Nat) (h : m ≤ n) : Nat.pow 10 m ≤ Nat.pow 10 n :=
  Nat.pow_le_pow_right (by decide) h

theorem exists_powerOfTen (hk : k ≤ maxPower) : ∃ p, powerOfTen k = some p ∧
    (Nat.pow 10 k : Nat) * (1 - 1 / 2 ^ 53) ≤ p.magnitude ∧
      p.magnitude ≤ (Nat.pow 10 k : Nat) * (1 + 1 / 2 ^ 53) := by
  have hsome : powerOfTen k ≠ none := by
    rw [ne_eq, powerOfTen, Binary64.ofNat_eq_none_iff, Nat.not_le]
    have hgreatest : Nat.pow 10 maxPower < Binary64.overflow := by decide +kernel
    exact Nat.lt_of_le_of_lt (pow_ten_le k maxPower hk) hgreatest
  obtain ⟨p, hp⟩ := Option.ne_none_iff_exists'.mp hsome
  exact ⟨p, hp, Binary64.ofNat_bounds hp⟩

/-- A product of doubles is in range if that of the numbers they were rounded from is, by some more
than rounding may add. -/
theorem magnitude_mul_lt {x p : Binary64} {m n a b : Nat} (hm : m ≤ a) (hn : n ≤ b)
    (hx : x.magnitude ≤ m * (1 + 1 / 2 ^ 53)) (hp : p.magnitude ≤ n * (1 + 1 / 2 ^ 53))
    (h : a * b * 121 < Binary64.overflow * 100) :
    x.magnitude * p.magnitude < Binary64.overflow := by
  -- Rounding adds less than a tenth to a factor.
  have hcast : (a : ℚ) * b * 121 < Binary64.overflow * 100 := by exact_mod_cast h
  have hleft : x.magnitude ≤ a * (11 / 10) :=
    hx.trans (mul_le_mul (Nat.cast_le.mpr hm) (by norm_num) (by norm_num) a.cast_nonneg)
  have hright : p.magnitude ≤ b * (11 / 10) :=
    hp.trans (mul_le_mul (Nat.cast_le.mpr hn) (by norm_num) (by norm_num) b.cast_nonneg)
  have hnonneg : 0 ≤ p.magnitude := by
    unfold Binary64.magnitude
    positivity
  calc x.magnitude * p.magnitude ≤ a * (11 / 10) * (b * (11 / 10)) :=
        mul_le_mul hleft hright hnonneg (by positivity)
    _ < Binary64.overflow := by linarith

/-- A product of doubles is out of range if that of the numbers they were rounded from is, by some
more than rounding may take. -/
theorem le_magnitude_mul {x p : Binary64} {m n a b : Nat} (hm : a ≤ m) (hn : b ≤ n)
    (hx : m * (1 - 1 / 2 ^ 53) ≤ x.magnitude) (hp : n * (1 - 1 / 2 ^ 53) ≤ p.magnitude)
    (h : Binary64.overflow * 1000000 ≤ a * b * 998001) :
    (Binary64.overflow : ℚ) ≤ x.magnitude * p.magnitude := by
  -- Rounding takes less than a thousandth from a factor.
  have hcast : (Binary64.overflow : ℚ) * 1000000 ≤ a * b * 998001 := by exact_mod_cast h
  have hleft : a * (999 / 1000) ≤ x.magnitude :=
    (mul_le_mul (Nat.cast_le.mpr hm) (by norm_num) (by norm_num) m.cast_nonneg).trans hx
  have hright : b * (999 / 1000) ≤ p.magnitude :=
    (mul_le_mul (Nat.cast_le.mpr hn) (by norm_num) (by norm_num) n.cast_nonneg).trans hp
  have hnonneg : (0 : ℚ) ≤ a * (999 / 1000) := by positivity
  calc (Binary64.overflow : ℚ) ≤ a * (999 / 1000) * (b * (999 / 1000)) := by linarith
    _ ≤ x.magnitude * p.magnitude :=
        mul_le_mul hleft hright (by positivity) (hnonneg.trans hleft)

theorem magnitude_natCast (negative : Bool) (m e : Nat) :
    Binary64.magnitude ⟨negative, m, e⟩ = (m * 2 ^ e : Nat) := by
  show (m : ℚ) * 2 ^ (e : Int) = _
  norm_cast

/-- The double of a number of 64 bits that takes all of them: its last eleven bits are rounded. -/
theorem magnitude_ofNat_of_le {x : Binary64} (hlow : 2 ^ 63 ≤ s) (hhigh : s ≤ max64)
    (hx : Binary64.ofNat s = some x) : x.magnitude = (roundHalfEven s 2048 * 2048 : Nat) := by
  have hpos : 0 < s := by omega
  have horder : Binary64.binaryOrder s 1 = 63 := by
    refine Binary64.binaryOrder_eq hpos Nat.one_pos ?_ ?_
    · norm_cast
    · have hlt : s < 2 ^ 64 := by
        have hmax : max64 = 2 ^ 64 - 1 := rfl
        omega
      norm_cast
  have hexponent : Binary64.roundingExponent s 1 = 11 := by
    rw [Binary64.roundingExponent, horder]
    rfl
  have hsignificand : Binary64.roundedSignificand s 1 = roundHalfEven s 2048 := by
    rw [Binary64.roundedSignificand, hexponent]
    exact congrArg (roundHalfEven · 2048) (Nat.mul_one s)
  rw [Binary64.magnitude_of_ofQuotient hpos Nat.one_pos hx, hexponent, hsignificand]
  norm_cast

/-- With 289 more digits the leading ones decide whether a number is in range. -/
theorem overflow_le_iff {x p : Binary64} (hs : s ≤ max64) (hx : Binary64.ofNat s = some x)
    (hp : powerOfTen 289 = some p) :
    (Binary64.overflow : ℚ) ≤ x.magnitude * p.magnitude ↔ refusedFrom ≤ s := by
  by_cases hlow : 2 ^ 63 ≤ s
  · -- Both doubles are known here, but for the rounding of the leading digits.
    have hpower : powerOfTen 289 = some ⟨false, 4621297602213964, (908 : Nat)⟩ := by
      decide +kernel
    obtain rfl := Option.some.inj (hp.symm.trans hpower)
    have hproduct : x.magnitude * Binary64.magnitude ⟨false, 4621297602213964, (908 : Nat)⟩ =
        (roundHalfEven s 2048 * (2048 * (4621297602213964 * 2 ^ 908)) : Nat) := by
      rw [magnitude_ofNat_of_le hlow hs hx, magnitude_natCast, ← Nat.cast_mul, Nat.mul_assoc]
    have hbelow : 8777798510069900 * (2048 * (4621297602213964 * 2 ^ 908)) < Binary64.overflow := by
      decide +kernel
    have habove : Binary64.overflow ≤
        8777798510069901 * (2048 * (4621297602213964 * 2 ^ 908)) := by
      decide +kernel
    have hrounded : 8777798510069901 ≤ roundHalfEven s 2048 ↔ refusedFrom ≤ s := by
      rw [le_roundHalfEven_iff (by decide) (by decide), if_neg (by decide), refusedFrom]
      omega
    rw [hproduct, Nat.cast_le, ← hrounded]
    generalize 2048 * (4621297602213964 * 2 ^ 908) = unit at *
    constructor
    · intro hle
      by_contra hlt
      have hmul : roundHalfEven s 2048 * unit ≤ 8777798510069900 * unit :=
        Nat.mul_le_mul_right unit (by omega)
      omega
    · intro hle
      exact habove.trans (Nat.mul_le_mul_right unit hle)
  · obtain ⟨p', hp', -, hhigh⟩ := exists_powerOfTen (k := 289) (by decide)
    obtain rfl := Option.some.inj (hp.symm.trans hp')
    have hlt := magnitude_mul_lt (Nat.le_of_not_le hlow) (Nat.le_refl _)
      (Binary64.ofNat_bounds hx).2 hhigh (by decide +kernel)
    refine iff_of_false (not_le.mpr hlt) ?_
    rw [refusedFrom]
    omega

/-- Leading digits and a number of digits that are left, as they come from a text, have no double
from some leading digits on. -/
theorem scaled_eq_none_iff (hs : s ≤ max64) (hk : k = 0 ∨ max64 < 10 * s + 9) :
    scaled s k = none ↔ 289 < k ∨ k = 289 ∧ refusedFrom ≤ s := by
  obtain ⟨x, hx, hxlow, hxhigh⟩ := exists_ofNat hs
  rw [scaled_natCast, hx, Option.bind_some]
  by_cases hpower : k ≤ maxPower
  · obtain ⟨p, hp, hplow, hphigh⟩ := exists_powerOfTen hpower
    rw [if_pos hpower, hp, Option.bind_some, Binary64.mul_eq_none_iff]
    obtain hsmall | hedge | hlarge := Nat.lt_trichotomy k 289
    · have hle := pow_ten_le k 288 (by omega)
      have hlt := magnitude_mul_lt hs hle hxhigh hphigh (by decide +kernel)
      exact iff_of_false (not_le.mpr hlt) (by omega)
    · rw [hedge] at hp
      rw [overflow_le_iff hs hx hp]
      omega
    · -- Digits are left, so that the leading ones are as many as fit 64 bits.
      have hleading : 1844674407370955161 ≤ s := by
        have hmax : max64 = 18446744073709551615 := rfl
        omega
      exact iff_of_true
        (le_magnitude_mul hleading (pow_ten_le 290 k hlarge) hxlow hplow (by decide +kernel))
        (.inl hlarge)
  · have hmany : 289 < k := by
      have hmax : maxPower = 308 := rfl
      omega
    have hzero : x.isZero = false := by
      rw [Binary64.isZero, beq_eq_false_iff_ne]
      intro hsignificand
      have hmagnitude : x.magnitude = 0 := by simp [Binary64.magnitude, hsignificand]
      have hpos : (0 : ℚ) < s := by
        have hmax : max64 = 18446744073709551615 := rfl
        exact_mod_cast (show 0 < s by omega)
      rw [hmagnitude] at hxlow
      linarith
    rw [if_neg hpower, hzero]
    exact iff_of_true rfl (.inl hmany)

/-- The number of digits that are left decides first, and then the leading ones. -/
theorem le_scaled_iff {least count r : Nat} (hr : r < 10 ^ k) (hs : s < least * 10)
    (hleast : count < k → least ≤ s * 10) :
    least * Nat.pow 10 count ≤ s * 10 ^ k + r ↔ count < k ∨ k = count ∧ least ≤ s := by
  show least * 10 ^ count ≤ s * 10 ^ k + r ↔ _
  obtain hlt | rfl | hlt := Nat.lt_trichotomy k count
  · refine iff_of_false (Nat.not_le.mpr ?_) (by omega)
    calc s * 10 ^ k + r < (s + 1) * 10 ^ k := by
          rw [Nat.succ_mul]
          omega
      _ ≤ least * 10 * 10 ^ k := Nat.mul_le_mul_right _ hs
      _ = least * 10 ^ (k + 1) := by ring
      _ ≤ least * 10 ^ count := Nat.mul_le_mul_left _ (Nat.pow_le_pow_right (by decide) hlt)
  · constructor
    · intro hle
      by_contra hless
      have hprod : (s + 1) * 10 ^ k ≤ least * 10 ^ k := Nat.mul_le_mul_right _ (by omega)
      rw [Nat.succ_mul] at hprod
      omega
    · intro hle
      have hprod : least * 10 ^ k ≤ s * 10 ^ k := Nat.mul_le_mul_right _ (by omega)
      omega
  · refine iff_of_true ?_ (.inl hlt)
    calc least * 10 ^ count ≤ s * 10 * 10 ^ count := Nat.mul_le_mul_right _ (hleast hlt)
      _ = s * 10 ^ (count + 1) := by ring
      _ ≤ s * 10 ^ k := Nat.mul_le_mul_left _ (Nat.pow_le_pow_right (by decide) hlt)
      _ ≤ s * 10 ^ k + r := Nat.le_add_right _ _

/-- The least number that is too large for a double. -/
def refused : Nat := refusedFrom * Nat.pow 10 289

/-- A whole number is too large for a double just from this one on. -/
theorem magnitude?_eq_none_iff (hdigits : ∀ c ∈ digits, isDigit c = true) :
    magnitude? ⟨negative, digits, none, none⟩ = none ↔ refused ≤ digitsValue digits := by
  obtain ⟨front, hsplit, hvalue, hfits, hend⟩ := collect_spec hdigits [] (by decide)
  have hscaled : magnitude? ⟨negative, digits, none, none⟩ =
      scaled (collect digits 0).1 (collect digits 0).2.length := rfl
  have hzero : digitsValue [] = 0 := rfl
  rw [hzero] at hsplit hvalue hfits hend
  rw [hscaled]
  generalize (collect digits 0).1 = s at *
  generalize (collect digits 0).2 = rest at *
  have hrest : digitsValue rest < 10 ^ rest.length :=
    digitsValue_lt fun c hc => hdigits c (hsplit ▸ List.mem_append_right _ hc)
  have hwhole : digitsValue digits = s * 10 ^ rest.length + digitsValue rest := by
    rw [hsplit, digitsValue_append, hvalue, List.nil_append]
  have hcount : rest.length = 0 ∨ max64 < 10 * s + 9 :=
    hend.imp_left fun hnil => List.length_eq_zero_iff.mpr hnil
  have hmax : max64 = 18446744073709551615 := rfl
  have hfrom : refusedFrom = 17976931348623156225 := rfl
  rw [scaled_eq_none_iff hfits hcount, hwhole, refused]
  generalize 289 = count
  exact (le_scaled_iff hrest (by omega) (by omega)).symm

/-- Whether a whole number fits 64 bits, signed if it is below zero. -/
def Fits (negative : Bool) (n : Nat) : Prop :=
  if negative then 0 < n ∧ n ≤ Nat.pow 2 63 else n ≤ max64

instance (negative : Bool) (n : Nat) : Decidable (Fits negative n) :=
  inferInstanceAs (Decidable (if negative then 0 < n ∧ n ≤ Nat.pow 2 63 else n ≤ max64))

theorem value?_of_fits (h : Fits negative (digitsValue digits)) :
    value? ⟨negative, digits, none, none⟩ =
      some (.int (if negative then -(digitsValue digits : Int) else digitsValue digits)) := by
  unfold value?
  cases negative with
  | false => exact if_pos h
  | true =>
    have hrange : 0 < digitsValue digits ∧ digitsValue digits ≤ Nat.pow 2 63 := h
    have hboth : (0 < digitsValue digits && digitsValue digits ≤ Nat.pow 2 63) = true := by
      simpa using hrange
    exact if_pos hboth

theorem value?_of_not_fits (h : ¬ Fits negative (digitsValue digits)) :
    value? ⟨negative, digits, none, none⟩ = double? ⟨negative, digits, none, none⟩ := by
  unfold value?
  cases negative with
  | false => exact if_neg h
  | true =>
    have hboth : ¬ (0 < digitsValue digits && digitsValue digits ≤ Nat.pow 2 63) = true := by
      simpa [Fits] using h
    exact if_neg hboth

end NumberText

/-! ## Reading -/

section

variable {negative : Bool} {digits : List Char}

theorem isSpace_of_isDigit {c : Char} (hc : isDigit c = true) : Tree.isSpace c = false := by
  by_contra hspace
  rw [Bool.not_eq_false, Tree.isSpace] at hspace
  simp only [Bool.or_eq_true, beq_iff_eq] at hspace
  obtain ((rfl | rfl) | rfl) | rfl := hspace <;> exact absurd hc (by decide)

theorem readUnsigned_numeral (hdigits : Numeral digits) :
    Tree.readUnsigned negative digits = some (⟨negative, digits, none, none⟩, []) := by
  refine Tree.readUnsigned_eq_some.mpr ⟨digits, [], none, [], none, ?_, ?_, rfl, rfl, rfl⟩
  · rw [Tree.spanDigits, List.span_eq_takeWhile_dropWhile,
      List.takeWhile_eq_self_iff.mpr hdigits.digits, List.dropWhile_eq_nil_iff.mpr hdigits.digits]
  · have hne : digits.isEmpty = false := by simpa using hdigits.ne_nil
    rw [hne, Bool.not_false, Bool.true_and, Bool.or_eq_true, beq_iff_eq, bne_iff_ne]
    exact hdigits.leading

/-- A whole number is one value of a JSON text. -/
theorem ofText?_integerText (hdigits : Numeral digits) :
    Tree.ofText? (integerText negative digits) =
      some (.number ⟨negative, digits, none, none⟩) := by
  refine Tree.ofText?_eq_some.mpr ⟨[], ?_, rfl⟩
  obtain ⟨c, ds, rfl⟩ := List.exists_cons_of_ne_nil hdigits.ne_nil
  have hc : isDigit c = true := hdigits.digits c List.mem_cons_self
  cases negative with
  | false =>
    have hminus : c ≠ '-' := by
      rintro rfl
      cases hc
    have hread : Tree.readNumber (c :: ds) = Tree.readUnsigned false (c :: ds) := by
      rw [Tree.readNumber]
      intro rest heq
      exact hminus (List.cons.inj heq).1
    show Tree.read _ (c :: ds) = _
    rw [Tree.read_number (.inr hc) (Tree.skipSpace_cons (isSpace_of_isDigit hc) ds), hread,
      readUnsigned_numeral hdigits]
    rfl
  | true =>
    show Tree.read _ ('-' :: c :: ds) = _
    rw [Tree.read_number (.inl rfl) (Tree.skipSpace_cons rfl (c :: ds))]
    show ((Tree.readUnsigned true (c :: ds)).map _) = _
    rw [readUnsigned_numeral hdigits]
    rfl

/-- What a whole number is read as. -/
theorem Json.parse?_integerText (hdigits : Numeral digits) :
    Json.parse? (String.ofList (integerText negative digits)) =
      (NumberText.value? ⟨negative, digits, none, none⟩).map .num := by
  rw [Json.parse?, String.toList_ofList, ofText?_integerText hdigits, Option.bind_some]
  rfl

/-! ## Writing -/

/-- A whole number of 64 bits is written with its digits. -/
theorem Number.text_int (hdigits : Numeral digits)
    (hfits : NumberText.Fits negative (digitsValue digits)) :
    Number.text (.int (if negative then -(digitsValue digits : Int) else digitsValue digits)) =
      integerText negative digits := by
  have hwritten := hdigits.toDigits_digitsValue
  cases negative with
  | false =>
    show (signedDecimal (digitsValue digits : Int)).toList = digits
    rw [signedDecimal, if_neg (by omega), decimal, String.toList_ofList, Int.natAbs_natCast,
      hwritten]
  | true =>
    have hpos : 0 < digitsValue digits := hfits.1
    show (signedDecimal (-(digitsValue digits : Int))).toList = '-' :: digits
    rw [signedDecimal, if_pos (by omega), decimal, String.toList_append, Int.natAbs_neg,
      Int.natAbs_natCast, hwritten]
    exact congrArg ('-' :: ·) String.toList_ofList

/-- A double is written with a point or an exponent. -/
theorem Number.scientificText_marked (d : Scientific) :
    ∃ c ∈ Number.scientificText d, c = '.' ∨ c = 'e' := by
  unfold Number.scientificText
  dsimp only
  split_ifs
  · exact ⟨'.', by simp, .inl rfl⟩
  · exact ⟨'.', by simp, .inl rfl⟩
  · exact ⟨'.', by simp, .inl rfl⟩
  · exact ⟨'e', by simp, .inr rfl⟩
  · exact ⟨'e', by simp, .inr rfl⟩

theorem Number.floatText_marked (x : Binary64) :
    ∃ c ∈ Number.floatText x, c = '.' ∨ c = 'e' := by
  unfold Number.floatText
  by_cases hzero : x.isZero = true
  · exact ⟨'.', by simp [hzero], .inl rfl⟩
  · obtain ⟨c, hc, hmark⟩ := Number.scientificText_marked (shortest x)
    rw [if_neg hzero]
    exact ⟨c, List.mem_append_right _ hc, hmark⟩

/-- No double is written as a whole number. -/
theorem Number.floatText_ne_integerText (hdigits : Numeral digits) (x : Binary64) :
    Number.floatText x ≠ integerText negative digits := by
  intro heq
  obtain ⟨c, hc, hmark⟩ := Number.floatText_marked x
  rw [heq] at hc
  have hchar : c = '-' ∨ isDigit c = true := by
    cases negative with
    | false => exact .inr (hdigits.digits c hc)
    | true => exact (List.mem_cons.mp hc).imp_right (hdigits.digits c)
  obtain rfl | rfl := hmark <;> exact absurd hchar (by decide)

end

end RegistryDedup
