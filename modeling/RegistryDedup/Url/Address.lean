import RegistryDedup.Text.Hex
import RegistryDedup.Text.Split

/-!
# Addresses of hosts

- `Ipv6.read?`, `Ipv6.text`: addresses of eight words of 16 bits. The longest run of zero words, if
  it has more than one, is left out where an address is written.
- `Ipv4.read?`, `Ipv4.text`: addresses of 32 bits. Their parts may be decimal, octal or hexadecimal,
  and the last one takes all bits that are left.
-/

namespace RegistryDedup.Url

open Text

namespace Ipv4

/-- The value of one part of an address. `0x` marks base sixteen and a leading zero base eight. -/
def part? (s : List Char) : Option Nat :=
  match s with
  | [] => none
  | '0' :: x :: rest =>
    if x = 'x' ∨ x = 'X' then hexValue? rest
    else if (x :: rest).all fun c => isDigit c && c != '8' && c != '9' then
      some ((x :: rest).foldl (fun n c => 8 * n + digitValue c) 0)
    else none
  | _ => readDigits s

/-- The parts of an address; an empty one at the end does not count. -/
def partsOf (host : List Char) : List (List Char) :=
  let all := splitOn '.' host
  if all.length > 1 && all.getLast? == some [] then all.dropLast else all

/-- Whether a host is meant as an address: its last part is a number. -/
def isMeant (host : List Char) : Bool :=
  match (partsOf host).getLast? with
  | some [] | none => false
  | some last =>
    last.all isDigit ||
      match last with
      | '0' :: x :: rest => (x == 'x' || x == 'X') && (hexValue? rest).isSome
      | _ => false

/-- The value of an address from the values of its parts. -/
def combine : List Nat → Option Nat
  | [] => none
  | values =>
    let leading := values.dropLast
    let last := values.getLast?.getD 0
    if leading.any (255 < ·) || Nat.pow 256 (5 - values.length) ≤ last || 4 < values.length then none
    else some (leading.zipIdx.foldl (fun n (v, i) => n + v * Nat.pow 256 (3 - i)) last)

/-- The value of an address. -/
def read? (host : List Char) : Option Nat :=
  ((partsOf host).mapM part?).bind combine

/-- An address as it is written: four numbers with points between them. -/
def text (n : Nat) : List Char :=
  (String.intercalate "." ([3, 2, 1, 0].map fun i => decimal (n / Nat.pow 256 i % 256))).toList

/-- Four decimal numbers below 256 without leading zeros, as two words. -/
def readPlain? (s : List Char) : Option (List Nat) := do
  let values ← (splitOn '.' s).mapM fun p => do
    let n ← readDigits p
    guard (n < 256 && (p.length == 1 || p.head? != some '0'))
    return n
  match values with
  | [a, b, c, d] => return [256 * a + b, 256 * c + d]
  | _ => none

end Ipv4

namespace Ipv6

/-- A word of one to four hexadecimal digits. -/
def word? (s : List Char) : Option Nat :=
  if s.isEmpty || 4 < s.length then none else hexValue? s

/-- Words with colons between them. The last two may be given as four decimal numbers. -/
def words? (s : List Char) : Option (List Nat) :=
  if s.isEmpty then some []
  else
    let pieces := splitOn ':' s
    match pieces.getLast? with
    | some last =>
      if last.contains '.' then do
        return (← pieces.dropLast.mapM word?) ++ (← Ipv4.readPlain? last)
      else pieces.mapM word?
    | none => some []

/-- The text before and after the first two colons in a row. -/
def cutAtGap : List Char → Option (List Char × List Char)
  | ':' :: ':' :: rest => some ([], rest)
  | c :: rest => (cutAtGap rest).map fun (before, after) => (c :: before, after)
  | [] => none

/-- The eight words of an address. Two colons in a row stand for as many zeros as are missing. -/
def read? (s : List Char) : Option (List Nat) := do
  match cutAtGap s with
  | none =>
    let words ← words? s
    guard (words.length == 8)
    return words
  | some (before, after) =>
    let first ← words? before
    let last ← words? after
    guard (first.length + last.length < 8 && !before.contains '.')
    return first ++ List.replicate (8 - first.length - last.length) 0 ++ last

/-- How many zeros a list starts with. -/
def zeros (words : List Nat) : Nat :=
  (words.takeWhile (· == 0)).length

/-- The place and the length of the first longest run of zeros. -/
def longestGap : List Nat → Nat × Nat
  | [] => (0, 0)
  | w :: ws =>
    let here := zeros (w :: ws)
    let (place, length) := longestGap ws
    if length ≤ here ∧ here ≠ 0 then (0, here) else (place + 1, length)

/-- Words with colons between them. -/
def wordsText (words : List Nat) : List Char :=
  (String.intercalate ":" (words.map fun w => String.ofList (Nat.toDigits 16 w))).toList

/-- An address as it is written. -/
def text (words : List Nat) : List Char :=
  let (place, length) := longestGap words
  if length < 2 then wordsText words
  else wordsText (words.take place) ++ ':' :: ':' :: wordsText (words.drop (place + length))

end Ipv6

end RegistryDedup.Url
