import RegistryDedup.Text.Split
import RegistryDedup.Text.Integer

/-!
# Labels in ASCII

A label with other characters is written in ASCII: first its ASCII characters, then, after a hyphen,
where the others belong, as numbers. The others come in the order of their codes, and each number
says how many places, through the text and through the codes, are passed over to get to the next
one. The digits of a number have weights that adapt to the numbers before it.

- `Punycode.encode`: a label in ASCII.
- `Punycode.decode`: the label that a text in ASCII stands for, if it stands for one.
-/

namespace RegistryDedup.Idna.Punycode

open Text

/-! ## Digits -/

/-- How many digits there are. -/
def base : Nat := 36

/-- The first code that is not written as it is. -/
def firstCode : Nat := 0x80

/-- The bias that the first number has. -/
def firstBias : Nat := 72

/-- The value of a digit: letters before figures. -/
def digit? (c : Char) : Option Nat :=
  if 'a' ≤ c ∧ c ≤ 'z' then some (c.toNat - 'a'.toNat)
  else if isDigit c then some (26 + digitValue c)
  else none

/-- The digit of a value. -/
def digitChar (value : Nat) : Char :=
  if value < 26 then Char.ofNat ('a'.toNat + value) else Char.ofNat ('0'.toNat + (value - 26))

/-- The digits from this one on go on with a number; smaller ones end it. `place` is the place of
the digit, in steps of `base`. -/
def threshold (bias place : Nat) : Nat :=
  if place ≤ bias then 1 else if bias + 26 ≤ place then 26 else place - bias

theorem threshold_pos (bias place : Nat) : 0 < threshold bias place := by
  unfold threshold
  split
  · omega
  · split <;> omega

theorem threshold_le (bias place : Nat) : threshold bias place ≤ 26 := by
  unfold threshold
  split
  · omega
  · split <;> omega

/-- A bias for numbers of about the size of `delta`. -/
def biasFor (delta : Nat) : Nat :=
  if 455 < delta then base + biasFor (delta / 35) else base * delta / (delta + 38)
termination_by delta
decreasing_by omega

/-- The bias after a number, where `count` characters are known. The first number is expected to be
much greater than those after it. -/
def adapted (delta count : Nat) (isFirst : Bool) : Nat :=
  let delta := if isFirst then delta / 700 else delta / 2
  biasFor (delta + delta / count)

/-! ## Writing -/

/-- The digits of a number. -/
def writeNumber (bias place number : Nat) : List Char :=
  let t := threshold bias place
  if number < t then [digitChar number]
  else
    digitChar (t + (number - t) % (base - t)) ::
      writeNumber bias (place + base) ((number - t) / (base - t))
termination_by number
decreasing_by
  have := threshold_pos bias place
  have := threshold_le bias place
  exact Nat.lt_of_le_of_lt (Nat.div_le_self _ _) (by omega)

/-- What has been written of a label. -/
structure Writing where
  text : List Char
  /-- How many places have been passed over since the last number. -/
  delta : Nat
  bias : Nat
  /-- How many characters are written. -/
  count : Nat

namespace Writing

/-- One more character passed. It is written if it has the code that is looked for, and counts as
passed over if it has a smaller one. -/
def pass (code basic : Nat) (w : Writing) (c : Char) : Writing :=
  if c.toNat < code then { w with delta := w.delta + 1 }
  else if c.toNat = code then
    { text := w.text ++ writeNumber w.bias base w.delta
      delta := 0
      bias := adapted w.delta (w.count + 1) (w.count == basic)
      count := w.count + 1 }
  else w

/-- The numbers of the characters of `label` with some codes; `from'` is the first code that has not
been passed. -/
def numbers (label : List Char) (basic : Nat) : (from' : Nat) → List Nat → Writing → List Char
  | _, [], w => w.text
  | from', code :: codes, w =>
    let start := { w with delta := w.delta + (code - from') * (w.count + 1) }
    let passed := label.foldl (pass code basic) start
    numbers label basic (code + 1) codes { passed with delta := passed.delta + 1 }

end Writing

/-- A code put into an ascending list, unless it is there. -/
def insertCode (n : Nat) : List Nat → List Nat
  | [] => [n]
  | m :: ms => if n < m then n :: m :: ms else if n = m then m :: ms else m :: insertCode n ms

/-- A label in ASCII. -/
def encode (label : List Char) : List Char :=
  let isBasic (c : Char) : Bool := c.toNat < firstCode
  let basic := label.filter isBasic
  let codes := (label.filter (!isBasic ·)).foldr (fun c codes => insertCode c.toNat codes) []
  let lead := if basic.isEmpty then [] else basic ++ ['-']
  lead ++ Writing.numbers label basic.length firstCode codes ⟨[], 0, firstBias, basic.length⟩

/-! ## Reading -/

/-- The greatest number that is read. -/
def maxNumber : Nat := Nat.pow 2 32 - 1

/-- A number added to `sum`, and the text after it. -/
def readNumber (bias : Nat) : (place weight sum : Nat) → List Char → Option (Nat × List Char)
  | _, _, _, [] => none
  | place, weight, sum, c :: cs => do
    let digit ← digit? c
    let sum := sum + digit * weight
    guard (sum ≤ maxNumber)
    let t := threshold bias place
    if digit < t then return (sum, cs)
    guard (weight * (base - t) ≤ maxNumber)
    readNumber bias (place + base) (weight * (base - t)) sum cs

/-- A number has at least one digit. -/
theorem length_of_readNumber {bias place weight sum n : Nat} {s rest : List Char}
    (h : readNumber bias place weight sum s = some (n, rest)) : rest.length < s.length := by
  induction s generalizing place weight sum with
  | nil => cases h
  | cons c cs ih =>
    obtain ⟨digit, _, h⟩ := Option.bind_eq_some_iff.mp h
    obtain ⟨_, _, h⟩ := Option.bind_eq_some_iff.mp h
    by_cases hlast : digit < threshold bias place
    · rw [if_pos hlast] at h
      cases h
      exact Nat.lt_succ_self _
    · rw [if_neg hlast] at h
      obtain ⟨_, _, h⟩ := Option.bind_eq_some_iff.mp h
      exact Nat.lt_succ_of_lt (ih h)

/-- The character of a code. -/
def char? (code : Nat) : Option Char :=
  if code.isValidChar then some (Char.ofNat code) else none

/-- The characters of some numbers put in among those of `done`. The last one got code `code` and
the place before `place`. -/
def readNumbers (code bias place : Nat) (done s : List Char) : Option (List Char) :=
  match s with
  | [] => some done
  | c :: cs =>
    match _h : readNumber bias base 1 place (c :: cs) with
    | none => none
    | some (sum, rest) =>
      let count := done.length + 1
      let code := code + sum / count
      match char? code with
      | none => none
      | some added =>
        let (before, after) := done.splitAt (sum % count)
        readNumbers code (adapted (sum - place) count (place == 0)) (sum % count + 1)
          (before ++ added :: after) rest
termination_by s.length
decreasing_by exact length_of_readNumber _h

/-- The label that a text in ASCII stands for. A hyphen at the start is not taken for the one that
comes before the numbers. -/
def decode (s : List Char) : Option (List Char) :=
  match cutAtLast '-' s with
  | some (c :: cs, numbers) => readNumbers firstCode firstBias 0 (c :: cs) numbers
  | _ => readNumbers firstCode firstBias 0 [] s

example : encode "faß".toList = "fa-hia".toList := by cbv
example : encode "他们为什么不说中文".toList = "ihqwcrb4cv8a8dqg056pqjye".toList := by cbv
example : decode "ihqwcrb4cv8a8dqg056pqjye".toList = some "他们为什么不说中文".toList := by cbv
example : decode "fa-hi".toList = none := by cbv

end RegistryDedup.Idna.Punycode
