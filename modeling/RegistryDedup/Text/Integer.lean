/-!
# Reading whole numbers

A whole number is an optional sign and at least one decimal digit, with nothing around them. The
value has to fit the range asked for.

- `readNat`: numbers from 0 up to a bound, with an optional `+`.
- `readInt`: numbers between two bounds, with an optional `+` or `-`.
- `readNumber`: as `readNat`, with the reason where a text is no number.
-/

namespace RegistryDedup.Text

/-- Whether a character is a decimal digit. -/
def isDigit (c : Char) : Bool :=
  '0' ≤ c && c ≤ '9'

/-- The value of a decimal digit. -/
def digitValue (c : Char) : Nat :=
  c.toNat - '0'.toNat

/-- The value of decimal digits, read from the left. -/
def digitsValue (s : List Char) : Nat :=
  s.foldl (fun n c => 10 * n + digitValue c) 0

/-- The value of a text of decimal digits only, at least one. -/
def readDigits (s : List Char) : Option Nat :=
  if s.isEmpty || !s.all isDigit then none else some (digitsValue s)

/-- A whole number of at most `max`, with an optional plus sign. -/
def readNat (max : Nat) (s : List Char) : Option Nat :=
  let digits := match s with
    | '+' :: rest => rest
    | _ => s
  (readDigits digits).filter (· ≤ max)

/-- A whole number between `min` and `max`, with an optional sign. -/
def readInt (min max : Int) (s : List Char) : Option Int :=
  let value := match s with
    | '-' :: rest => (readDigits rest).map fun n => -(n : Int)
    | '+' :: rest => (readDigits rest).map fun n => (n : Int)
    | _ => (readDigits s).map fun n => (n : Int)
  value.filter fun n => min ≤ n && n ≤ max

/-- Why a text is no number. -/
inductive NumberFault where
  | empty
  | badDigit
  | tooLarge
  deriving DecidableEq

/-- Why a text is no number, in words. -/
def NumberFault.text : NumberFault → String
  | empty => "cannot parse integer from empty string"
  | badDigit => "invalid digit found in string"
  | tooLarge => "number too large to fit in target type"

/-- The number that digits give after `n`. The first character that does not fit decides on the
fault. -/
def readFrom (max : Nat) : List Char → (n : Nat) → Except NumberFault Nat
  | [], n => .ok n
  | c :: cs, n =>
    if !isDigit c then .error .badDigit
    else if max < 10 * n + digitValue c then .error .tooLarge
    else readFrom max cs (10 * n + digitValue c)

/-- A whole number of at most `max`, with an optional plus sign, or why the text is none. -/
def readNumber (max : Nat) (s : List Char) : Except NumberFault Nat :=
  match s with
  | [] => .error .empty
  | ['+'] => .error .badDigit
  | '+' :: digits => readFrom max digits 0
  | digits => readFrom max digits 0

/-- The greatest number of 16 bits. -/
def max16 : Nat := Nat.pow 2 16 - 1

/-- The greatest number of 32 bits. -/
def max32 : Nat := Nat.pow 2 32 - 1

/-- The greatest number of 64 bits. -/
def max64 : Nat := Nat.pow 2 64 - 1

example : readNat max32 "+6".toList = some 6 ∧ readNat max32 "-0".toList = none := by decide
example : readInt (-(2 ^ 63)) (2 ^ 63 - 1) "-0".toList = some 0 := by decide

end RegistryDedup.Text
