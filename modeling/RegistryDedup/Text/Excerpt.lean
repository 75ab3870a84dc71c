import RegistryDedup.Text.Utf8

/-!
# Excerpts

`excerpt` keeps a text that has at most a given number of bytes. A longer one is cut off and marked
with an ellipsis. Bytes are those of UTF-8; a character is kept whole or left out, so that the place
of the cut is moved back to a boundary.

- `isBoundary`: whether a character begins at a place among some bytes, or the bytes end there.
- `lastBoundary?`: the walk back from a place to a boundary.
- `excerpt`, `excerptText`: a text, or the beginning of it with an ellipsis.
-/

namespace RegistryDedup.Text

/-- The number of bytes of a text. -/
def byteLength (s : List Char) : Nat :=
  (s.map Char.utf8Size).foldr (· + ·) 0

/-- Whether a character begins at a place among the bytes of a text, or the bytes end there. -/
def isBoundary (bytes : List UInt8) (place : Nat) : Bool :=
  place == 0 ||
    match bytes[place]? with
    | some b => !Utf8.continues b
    | none => place == bytes.length

/-- The last boundary up to a place, by a walk back from there. There is none if the walk leads over
the beginning of the bytes. -/
def lastBoundary? (bytes : List UInt8) : (place : Nat) → Option Nat
  | 0 => if isBoundary bytes 0 then some 0 else none
  | place + 1 =>
    if isBoundary bytes (place + 1) then some (place + 1) else lastBoundary? bytes place

/-- The walk ends at the beginning of the bytes, if not before. -/
theorem isSome_lastBoundary? (bytes : List UInt8) (place : Nat) :
    (lastBoundary? bytes place).isSome := by
  induction place with
  | zero => rfl
  | succ place ih =>
    rw [lastBoundary?]
    split
    · rfl
    · exact ih

/-- A text of at most `max` bytes as it is, a longer one cut off and marked with an ellipsis. -/
def excerpt (max : Nat) (s : List Char) : List Char :=
  if byteLength s ≤ max then s
  else
    let bytes := Utf8.encode s
    let cut := (lastBoundary? bytes max).get (isSome_lastBoundary? bytes max)
    Utf8.decodeLossy (bytes.take cut) ++ ['…']

/-- `excerpt` on strings. -/
def excerptText (max : Nat) (s : String) : String :=
  String.ofList (excerpt max s.toList)

example : excerpt 2 "aé".toList = "a…".toList := by decide +kernel
example : excerpt 4 "😀x".toList = "😀…".toList := by decide +kernel

end RegistryDedup.Text
