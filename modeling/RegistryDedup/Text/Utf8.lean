import RegistryDedup.Text.Split

/-!
# Bytes as text

Text is stored in UTF-8, where a character takes one to four bytes. Not all bytes are text.

- `Utf8.Unit`: what the next bytes are: a character, some that begin none, or the beginning of a
  character that is cut off.
- `Utf8.units`: some bytes taken apart.
- `Utf8.decode`: the text of some bytes, or the first place where they are none.
- `Utf8.decodeLossy`: the text of any bytes, with a mark in place of those that are none.
-/

namespace RegistryDedup.Text.Utf8

/-- What the next bytes are. -/
inductive Unit where
  | char (c : Char)
  /-- So many bytes that begin no character. -/
  | broken (length : Nat)
  /-- The beginning of a character, and nothing after it. -/
  | cut
  deriving DecidableEq

/-- How many bytes a character has that begins with a byte. -/
def size? (first : UInt8) : Option Nat :=
  if first < 0x80 then some 1
  else if first < 0xC2 then none
  else if first < 0xE0 then some 2
  else if first < 0xF0 then some 3
  else if first < 0xF5 then some 4
  else none

/-- Whether a byte goes on with a character. -/
def continues (b : UInt8) : Bool :=
  0x80 ≤ b && b < 0xC0

/-- Whether a byte may be the second one after some first one. Longer forms than needed, surrogates
and numbers that are too great are left out. -/
def mayFollow (first b : UInt8) : Bool :=
  continues b &&
    if first == 0xE0 then 0xA0 ≤ b
    else if first == 0xED then b < 0xA0
    else if first == 0xF0 then 0x90 ≤ b
    else if first == 0xF4 then b < 0x90
    else true

/-- How many of some bytes go on with a character after its first byte. -/
def followers (first : UInt8) : List UInt8 → Nat
  | [] => 0
  | b :: rest => if mayFollow first b then 1 + (rest.takeWhile continues).length else 0

/-- The number in the bits of a character's bytes. -/
def codeOf (first : UInt8) (rest : List UInt8) : Nat :=
  let lead := match rest.length with
    | 0 => first.toNat
    | 1 => first.toNat - 0xC0
    | 2 => first.toNat - 0xE0
    | _ => first.toNat - 0xF0
  rest.foldl (fun n b => 64 * n + (b.toNat - 0x80)) lead

/-- What a byte and those after it are, with the number of bytes taken after the first one. -/
def next (first : UInt8) (rest : List UInt8) : Unit × Nat :=
  match size? first with
  | none => (.broken 1, 0)
  | some size =>
    let found := min (followers first rest) (size - 1)
    if found = size - 1 then (.char (Char.ofNat (codeOf first (rest.take found))), found)
    else if found = rest.length then (.cut, found)
    else (.broken (1 + found), found)

/-- Some bytes taken apart. -/
def units : List UInt8 → List Unit
  | [] => []
  | first :: rest =>
    let (unit, taken) := next first rest
    unit :: units (rest.drop taken)
termination_by bytes => bytes.length
decreasing_by
  simp only [List.length_drop, List.length_cons]
  omega

/-- Where bytes are no text. -/
structure Fault where
  /-- How many bytes of text there are before. -/
  index : Nat
  /-- How many bytes begin no character; none where a character is cut off. -/
  length : Option Nat
  deriving DecidableEq

/-- Where bytes are no text, in words. -/
def Fault.text (f : Fault) : String :=
  match f.length with
  | some n =>
    "invalid utf-8 sequence of " ++ decimal n ++ " bytes from index " ++ decimal f.index
  | none => "incomplete utf-8 byte sequence from index " ++ decimal f.index

/-- The text of some units, after some bytes, or the first place where they are none. -/
def read : (index : Nat) → List Unit → Except Fault (List Char)
  | _, [] => .ok []
  | index, .char c :: rest => (read (index + c.utf8Size) rest).map (c :: ·)
  | index, .broken n :: _ => .error ⟨index, some n⟩
  | index, .cut :: _ => .error ⟨index, none⟩

/-- The text of some bytes, or the first place where they are none. -/
def decode (bytes : List UInt8) : Except Fault (List Char) :=
  read 0 (units bytes)

/-- The text of any bytes. Bytes that begin no character, and a character that is cut off, have a
mark each. -/
def decodeLossy (bytes : List UInt8) : List Char :=
  (units bytes).map fun
    | .char c => c
    | .broken _ | .cut => '\ufffd'

/-- The bytes of a text. -/
def encode (s : List Char) : List UInt8 :=
  s.flatMap String.utf8EncodeChar

example : decode [0x61, 0xE2, 0x82, 0xAC] = .ok ['a', '€'] := by cbv
example : decode [0x61, 0xE2, 0x82, 0xE2] = .error ⟨1, some 2⟩ := by cbv
example : decode [0xF0, 0x9F] = .error ⟨0, none⟩ := by cbv
example : decodeLossy [0xC3, 0xA9, 0xFF, 0xE0, 0x80] = ['é', '\ufffd', '\ufffd', '\ufffd'] := by
  decide +kernel

end RegistryDedup.Text.Utf8
