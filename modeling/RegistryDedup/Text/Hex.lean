import RegistryDedup.Text.Integer

/-!
# Numbers in base sixteen

- `hexDigit?`: the value of a digit, in upper or lower case.
- `hexValue?`: the value of several digits.
- `hexDigits`: the digits of a number, in lower case.
-/

namespace RegistryDedup.Text

/-- The value of a digit in base sixteen. -/
def hexDigit? (c : Char) : Option Nat :=
  if isDigit c then some (digitValue c)
  else if 'a' ≤ c && c ≤ 'f' then some (c.toNat - 'a'.toNat + 10)
  else if 'A' ≤ c && c ≤ 'F' then some (c.toNat - 'A'.toNat + 10)
  else none

/-- The value of digits in base sixteen. -/
def hexValue? (s : List Char) : Option Nat :=
  s.foldlM (fun n c => (hexDigit? c).map (16 * n + ·)) 0

/-- The digits of a number in base sixteen, in lower case. -/
def hexDigits (n : Nat) : List Char :=
  Nat.toDigits 16 n

example : hexValue? "1aF".toList = some 0x1AF ∧ hexDigits 0x1AF = "1af".toList := by
  decide +kernel

end RegistryDedup.Text
