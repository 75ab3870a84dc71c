import RegistryDedup.Text.CodeRange
import RegistryDedup.Text.CompositionTable

/-!
# Composed text

A character with a mark may be written as one character or as two. Composed text is written with as
few as possible, and with its marks in their order.

- `markClass`: the class of a character; zero for all that are no marks.
- `decomposed`: text with every character and its marks apart, marks in their order.
- `composed`: text with characters and marks put together.
- `isMark`: whether a character belongs to the one before it.
-/

namespace RegistryDedup.Text

/-- A character that is one with a mark after it. -/
structure Composite where
  base : Char
  mark : Char
  whole : Char
  deriving DecidableEq

/-- The character of a number in base sixteen. -/
def hexChar (s : String) : Char :=
  Char.ofNat ((hexValue? s.toList).getD 0)

/-- The composite that an entry `A+B=C` stands for. -/
def Composite.read (entry : String) : Option Composite :=
  match entry.splitOn "=" with
  | [parts, whole] =>
    match parts.splitOn "+" with
    | [base, mark] => some ⟨hexChar base, hexChar mark, hexChar whole⟩
    | _ => none
  | _ => none

/-- All composites but those of Korean. -/
def composites : List Composite :=
  (entries composedLines).filterMap Composite.read

/-- Marks by class. -/
def marksByClass : List (Nat × List CodeRange) :=
  markClasses.map fun (n, lines) => (n, readRanges lines)

/-- All marks. -/
def marks : List CodeRange :=
  readRanges markLines

/-- Whether a character belongs to the one before it. -/
def isMark (c : Char) : Bool :=
  0x300 ≤ c.toNat && inRanges marks c

/-- The class of a character; zero for all that are no marks. -/
def markClass (c : Char) : Nat :=
  if c.toNat < 0x300 then 0
  else ((marksByClass.find? fun (_, ranges) => inRanges ranges c).map (·.1)).getD 0

/-! ## Korean syllables

A syllable is a leading consonant, a vowel and perhaps a trailing consonant. All of them are there
as characters, in order. -/

namespace Syllable

/-- The first syllable. -/
def first : Nat := 0xAC00

/-- The first leading consonant, the first vowel, and the place before the first trailing
consonant. -/
def firstLead : Nat := 0x1100

@[inherit_doc firstLead]
def firstVowel : Nat := 0x1161

@[inherit_doc firstLead]
def beforeTrail : Nat := 0x11A7

/-- How many vowels there are. -/
def vowels : Nat := 21

/-- How many trailing consonants there are, with none as one of them. -/
def trails : Nat := 28

/-- How many leading consonants there are. -/
def leads : Nat := 19

/-- The place of a character among syllables. -/
def index? (c : Char) : Option Nat :=
  if first ≤ c.toNat && c.toNat < first + leads * vowels * trails then some (c.toNat - first)
  else none

/-- The letters of a syllable. -/
def letters (index : Nat) : List Char :=
  let lead := Char.ofNat (firstLead + index / (vowels * trails))
  let vowel := Char.ofNat (firstVowel + index / trails % vowels)
  if index % trails = 0 then [lead, vowel]
  else [lead, vowel, Char.ofNat (beforeTrail + index % trails)]

/-- A leading consonant and a vowel, or a syllable without trailing consonant and one, as one
character. -/
def join? (a b : Char) : Option Char :=
  let lead := a.toNat - firstLead
  let vowel := b.toNat - firstVowel
  let trail := b.toNat - beforeTrail
  if firstLead ≤ a.toNat && lead < leads && firstVowel ≤ b.toNat && vowel < vowels then
    some (Char.ofNat (first + (lead * vowels + vowel) * trails))
  else
    match index? a with
    | some index =>
      if index % trails = 0 && beforeTrail < b.toNat && trail < trails then
        some (Char.ofNat (first + index + trail))
      else none
    | none => none

end Syllable

/-! ## Taking apart -/

/-- A character with its marks apart, taken apart at most `depth` times. -/
def partsOf : (depth : Nat) → Char → List Char
  | 0, c => [c]
  | depth + 1, c =>
    match Syllable.index? c with
    | some index => Syllable.letters index
    | none =>
      match composites.find? (·.whole == c) with
      | some pair => partsOf depth pair.base ++ [pair.mark]
      | none => [c]

/-- How many marks a composite may have. -/
def maxMarks : Nat := 4

/-- A character put after a reversed text, before those marks at its end that are of a greater
class. -/
def placeMark (c : Char) : List Char → List Char
  | [] => [c]
  | d :: ds => if markClass c ≠ 0 ∧ markClass c < markClass d then d :: placeMark c ds else c :: d :: ds

/-- Text with its marks in the order of their classes. -/
def orderMarks (s : List Char) : List Char :=
  (s.foldl (fun done c => placeMark c done) []).reverse

/-- Text with every character and its marks apart. -/
def decomposed (s : List Char) : List Char :=
  orderMarks (s.flatMap fun c => if c.toNat < 0xC0 then [c] else partsOf maxMarks c)

/-! ## Putting together -/

/-- Two characters as one. -/
def compose? (a b : Char) : Option Char :=
  (Syllable.join? a b).or
    ((composites.find? fun pair => pair.base == a && pair.mark == b).map (·.whole))

/-- Text after a character `base` that marks may still join, and after `kept`, marks in reverse that
have not joined it; `level` is the class of the last of these. A mark joins only if none of its
class or of a greater one stands between. -/
def composeAfter (base : Char) (kept : List Char) (level : Nat) : List Char → List Char
  | [] => base :: kept.reverse
  | c :: cs =>
    let joined := if kept.isEmpty || level < markClass c then compose? base c else none
    match joined with
    | some whole => composeAfter whole kept level cs
    | none =>
      if markClass c = 0 then base :: kept.reverse ++ composeAfter c [] 0 cs
      else composeAfter base (c :: kept) (markClass c) cs

/-- Text taken apart put together. -/
def recompose : List Char → List Char
  | [] => []
  | c :: cs => if markClass c = 0 then composeAfter c [] 0 cs else c :: recompose cs

/-- Text with characters and marks put together. -/
def composed (s : List Char) : List Char :=
  recompose (decomposed s)

end RegistryDedup.Text
