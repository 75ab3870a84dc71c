import Mathlib.Algebra.Group.Nat.Defs
import Mathlib.Data.List.Basic
import Mathlib.Data.List.Induction
import RegistryDedup.Text.Integer

/-!
# Decimal digits

- `digitsValue_append`, `digitsValue_lt`: the value of digits, by their places.
- `Numeral`: the digits of a number as they are written, without zeros in front.
- `Numeral.toDigits_digitsValue`: such digits are those of their value.
-/

namespace RegistryDedup.Text

variable {s t : List Char} {c : Char}

/-! ## Values -/

theorem digitsValue_eq (ds : List Char) : digitsValue ds = Nat.ofDigitChars 10 ds 0 :=
  Nat.ofDigitChars_eq_foldl.symm

/-- Digits count by their places. -/
theorem digitsValue_append (s t : List Char) :
    digitsValue (s ++ t) = digitsValue s * 10 ^ t.length + digitsValue t := by
  rw [digitsValue_eq, digitsValue_eq, digitsValue_eq, Nat.ofDigitChars_append,
    Nat.ofDigitChars_eq_ofDigitChars_zero, Nat.mul_comm]

theorem digitValue_lt (hc : isDigit c = true) : digitValue c < 10 := by
  obtain ⟨hlow, hhigh⟩ : '0'.toNat ≤ c.toNat ∧ c.toNat ≤ '9'.toNat := Char.isDigit_iff_toNat.mp hc
  show c.toNat - 48 < 10
  have hnine : '9'.toNat = 57 := rfl
  omega

theorem digitsValue_singleton (c : Char) : digitsValue [c] = digitValue c := by
  show 10 * 0 + digitValue c = digitValue c
  omega

/-- The value of digits is below the power of ten of their number. -/
theorem digitsValue_lt (hs : ∀ c ∈ s, isDigit c = true) : digitsValue s < 10 ^ s.length := by
  induction s with
  | nil => decide
  | cons c s ih =>
    rw [List.forall_mem_cons] at hs
    have hc := digitValue_lt hs.1
    have hrest := ih hs.2
    have hsplit := digitsValue_append [c] s
    rw [List.singleton_append, digitsValue_singleton] at hsplit
    rw [hsplit, List.length_cons, Nat.pow_succ]
    have hle : digitValue c * 10 ^ s.length ≤ 9 * 10 ^ s.length :=
      Nat.mul_le_mul_right _ (by omega)
    omega

/-! ## Numbers as they are written -/

/-- The digits of a number as they are written: at least one, and without zeros in front. -/
structure Numeral (s : List Char) : Prop where
  ne_nil : s ≠ []
  digits : ∀ c ∈ s, isDigit c = true
  leading : s = ['0'] ∨ s.head? ≠ some '0'

/-- A digit is the one of its value. -/
theorem digitChar_digitValue (hc : isDigit c = true) : Nat.digitChar (digitValue c) = c := by
  have hlt := digitValue_lt hc
  obtain ⟨hlow, -⟩ : '0'.toNat ≤ c.toNat ∧ c.toNat ≤ '9'.toNat := Char.isDigit_iff_toNat.mp hc
  have hvalue : digitValue c = c.toNat - 48 := rfl
  have hzero : '0'.toNat = 48 := rfl
  apply Char.toNat_inj.mp
  rw [Nat.toNat_digitChar_of_lt_ten hlt]
  omega

namespace Numeral

/-- A number as it is written has the digits of its value. -/
theorem toDigits_digitsValue (hs : Numeral s) : Nat.toDigits 10 (digitsValue s) = s := by
  induction s using List.reverseRecOn with
  | nil => exact absurd rfl hs.ne_nil
  | append_singleton front c ih =>
    have hc : isDigit c = true := hs.digits c (by simp)
    have hlast : Nat.toDigits 10 (digitValue c) = [c] := by
      rw [Nat.toDigits_of_lt_base (digitValue_lt hc), digitChar_digitValue hc]
    by_cases hfront : front = []
    · subst hfront
      rw [List.nil_append, digitsValue_singleton, hlast]
    · -- What stands before the last digit is a number as it is written, and not zero.
      have hhead : front.head? ≠ some '0' := by
        obtain hzero | hhead := hs.leading
        · have hlength := congrArg List.length hzero
          rw [List.length_append, List.length_singleton, List.length_singleton] at hlength
          exact absurd (List.eq_nil_of_length_eq_zero (by omega)) hfront
        · rwa [List.head?_append_of_ne_nil _ hfront] at hhead
      have hnumeral : Numeral front :=
        ⟨hfront, fun d hd => hs.digits d (List.mem_append_left _ hd), .inr hhead⟩
      have hpos : 0 < digitsValue front := by
        by_contra hzero
        have hdigits := ih hnumeral
        rw [Nat.eq_zero_of_not_pos hzero] at hdigits
        exact hhead (congrArg List.head? hdigits).symm
      have happend := Nat.toDigits_append_toDigits (by decide) hpos (digitValue_lt hc)
      rw [ih hnumeral, hlast, Nat.mul_comm] at happend
      rw [digitsValue_append, digitsValue_singleton, List.length_singleton, Nat.pow_one, ← happend]

end Numeral

end RegistryDedup.Text
