import RegistryDedup.Json.Basic
import RegistryDedup.Json.Tree

/-!
# Values of JSON text

- `NumberText.value?`: a number without fraction and exponent that fits 64 bits stays whole. Any
  other number is a double: its digits are collected in a number of 64 bits, digits that no longer
  fit are dropped, and the result is scaled by a power of ten. Collecting and scaling round once
  each.
- `unescape?`: the characters of a string. Escapes of surrogates have to come in pairs.
- `Tree.value?`: the value of a tree. Members of an object are put in the order of their names, and
  the last of equal names counts. Values nested deeper than `maxDepth` are refused.
- `Json.parse?`: the value of a text.
-/

namespace RegistryDedup

open Text Decimal

/-! ## Numbers -/

namespace NumberText

/-- The double `10 ^ n`, for `n` up to 308. -/
def powerOfTen (n : Nat) : Option Binary64 :=
  Binary64.ofNat (Nat.pow 10 n)

/-- The greatest power of ten that is a double. -/
def maxPower : Nat := 308

/-- A double scaled down by `10 ^ n`, in steps of at most `10 ^ 308`. After `steps` steps of that
size every double is zero. -/
def scaleDown (x : Binary64) (n : Nat) : (steps : Nat) → Option Binary64
  | 0 => some (Binary64.zero false)
  | steps + 1 =>
    if n ≤ maxPower then do x.div (← powerOfTen n)
    else if x.isZero then some x
    else do scaleDown (← x.div (← powerOfTen maxPower)) (n - maxPower) steps

/-- A whole number times a power of ten: the number is rounded to a double first, then the
product or the quotient is. There is no result beyond the greatest double. -/
def scaled (significand : Nat) (exponent : Int) : Option Binary64 := do
  let x ← Binary64.ofNat significand
  if exponent < 0 then scaleDown x exponent.natAbs 4
  else if exponent.natAbs ≤ maxPower then x.mul (← powerOfTen exponent.natAbs)
  else if x.isZero then some x
  else none

/-- Digits appended to a number for as long as it fits 64 bits, with the digits left over. -/
def collect : (digits : List Char) → (significand : Nat) → Nat × List Char
  | [], n => (n, [])
  | d :: ds, n =>
    let next := 10 * n + digitValue d
    if next ≤ max64 then collect ds next else (n, d :: ds)

/-- The greatest exponent that is read as a number. -/
def maxExponent : Nat := Nat.pow 2 31 - 1

/-- A number within the range of exponents. -/
def clampExponent (n : Int) : Int :=
  max (-(maxExponent : Int) - 1) (min maxExponent n)

/-- The magnitude of a number as a double. -/
def magnitude? (t : NumberText) : Option Binary64 :=
  let (whole, dropped) := collect t.whole 0
  let fraction := t.fraction.getD []
  let (significand, ignored) := collect fraction whole
  let place : Int := (dropped.length : Int) - (fraction.length - ignored.length)
  match t.exponent with
  | none => scaled significand place
  | some (down, digits) =>
    let n := digitsValue digits
    if maxExponent < n then
      if significand = 0 ∨ down then some (Binary64.zero false) else none
    else scaled significand (clampExponent (if down then place - n else place + n))

/-- The number as a double. -/
def double? (t : NumberText) : Option Number :=
  t.magnitude?.map fun x => .float (if t.negative then x.neg else x)

/-- The value of a number, if it is in range. -/
def value? (t : NumberText) : Option Number :=
  if t.fraction.isNone && t.exponent.isNone then
    let n := digitsValue t.whole
    if t.negative then
      if 0 < n && n ≤ Nat.pow 2 63 then some (.int (-n)) else t.double?
    else if n ≤ max64 then some (.int n) else t.double?
  else t.double?

end NumberText

/-! ## Strings -/

/-- The value of a hexadecimal digit. -/
def hexValue (c : Char) : Nat :=
  if isDigit c then digitValue c
  else if 'a' ≤ c && c ≤ 'f' then c.toNat - 'a'.toNat + 10
  else c.toNat - 'A'.toNat + 10

/-- The value of four hexadecimal digits. -/
def hexWord (a b c d : Char) : Nat :=
  ((hexValue a * 16 + hexValue b) * 16 + hexValue c) * 16 + hexValue d

/-- The character that an escape of two characters stands for. -/
def escaped (c : Char) : Char :=
  match c with
  | 'b' => '\x08'
  | 'f' => '\x0c'
  | 'n' => '\n'
  | 'r' => '\r'
  | 't' => '\t'
  | c => c

/-- The characters of a string whose escapes are well formed. A leading surrogate has to be
followed by a trailing one, and a trailing one has to follow a leading one. -/
def unescape? : List Char → Option (List Char)
  | [] => some []
  | '\\' :: 'u' :: a :: b :: c :: d :: rest =>
    let lead := hexWord a b c d
    if lead < 0xD800 || 0xDFFF < lead then (unescape? rest).map (Char.ofNat lead :: ·)
    else if 0xDC00 ≤ lead then none
    else
      match rest with
      | '\\' :: 'u' :: e :: f :: g :: h :: rest =>
        let trail := hexWord e f g h
        if 0xDC00 ≤ trail && trail ≤ 0xDFFF then
          (unescape? rest).map
            (Char.ofNat (0x10000 + (lead - 0xD800) * 0x400 + (trail - 0xDC00)) :: ·)
        else none
      | _ => none
  | '\\' :: c :: rest => (unescape? rest).map (escaped c :: ·)
  | c :: rest => (unescape? rest).map (c :: ·)

/-! ## Values -/

/-- How deep values may nest. -/
def maxDepth : Nat := 127

namespace Tree

/-- The text of a string. -/
def text? : Tree → Option String
  | .string raw => (unescape? raw).map String.ofList
  | _ => none

mutual

/-- The value of a tree in which at most `depth` arrays and objects nest. -/
def valueWithin (depth : Nat) : Tree → Option Json
  | .null => some .null
  | .bool b => some (.bool b)
  | .number t => t.value?.map .num
  | .string raw => (unescape? raw).map fun s => .str (String.ofList s)
  | .array items =>
    match depth with
    | 0 => none
    | depth + 1 => (itemsWithin depth items).map .arr
  | .object fields =>
    match depth with
    | 0 => none
    | depth + 1 => (fieldsWithin depth fields).map fun fs => .obj (Fields.ofList fs)

/-- The values of the items of an array. -/
def itemsWithin (depth : Nat) : List Tree → Option (List Json)
  | [] => some []
  | t :: ts => do return (← valueWithin depth t) :: (← itemsWithin depth ts)

/-- The members of an object, in the order of the text. -/
def fieldsWithin (depth : Nat) : List (List Char × Tree) → Option (List (String × Json))
  | [] => some []
  | (name, t) :: rest => do
    let name ← unescape? name
    return (String.ofList name, ← valueWithin depth t) :: (← fieldsWithin depth rest)

end

/-- The value of a tree. -/
def value? (t : Tree) : Option Json :=
  t.valueWithin maxDepth

end Tree

/-- The value of a JSON text. -/
def Json.parse? (s : String) : Option Json :=
  (Tree.ofText? s.toList).bind Tree.value?

end RegistryDedup
