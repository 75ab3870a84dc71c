import RegistryDedup.Text.Integer

/-!
# JSON text, taken apart

A `Tree` is what a JSON text is made of, with numbers and strings left as they are written. It
holds for every text of the grammar: how large a number may be, which escapes pair up, and how deep
values may nest is decided only where a tree is read as a value.

- `Tree.ofText?`: the tree of a text that is one value with blanks around it.
-/

namespace RegistryDedup

/-- A number as it is written. -/
structure NumberText where
  negative : Bool
  whole : List Char
  fraction : Option (List Char)
  exponent : Option (Bool × List Char)
  deriving DecidableEq, Repr

/-- A JSON text: numbers and strings as they are written, members in the order of the text. -/
inductive Tree where
  | null
  | bool (value : Bool)
  | number (text : NumberText)
  | string (raw : List Char)
  | array (items : List Tree)
  | object (fields : List (List Char × Tree))
  deriving Repr

namespace Tree

open Text

/-- The characters that may stand between the parts of a JSON text. -/
def isSpace (c : Char) : Bool :=
  c == ' ' || c == '\n' || c == '\r' || c == '\t'

/-- The text without the spaces at its start. -/
def skipSpace (s : List Char) : List Char :=
  s.dropWhile isSpace

/-- Whether a character is a hexadecimal digit. -/
def isHexDigit (c : Char) : Bool :=
  isDigit c || ('a' ≤ c && c ≤ 'f') || ('A' ≤ c && c ≤ 'F')

/-- The characters that an escape of two characters may name. -/
def isEscapable (c : Char) : Bool :=
  c == '"' || c == '\\' || c == '/' || c == 'b' || c == 'f' || c == 'n' || c == 'r' || c == 't'

/-- A string up to its closing quote, escapes as they are written, and the text after it. -/
def readString : List Char → Option (List Char × List Char)
  | [] => none
  | '"' :: rest => some ([], rest)
  | '\\' :: 'u' :: a :: b :: c :: d :: rest =>
    if isHexDigit a && isHexDigit b && isHexDigit c && isHexDigit d then
      (readString rest).map fun (raw, after) => ('\\' :: 'u' :: a :: b :: c :: d :: raw, after)
    else none
  | '\\' :: c :: rest =>
    if isEscapable c then
      (readString rest).map fun (raw, after) => ('\\' :: c :: raw, after)
    else none
  | ['\\'] => none
  | c :: rest =>
    if c.toNat < 0x20 then none
    else (readString rest).map fun (raw, after) => (c :: raw, after)

/-- Leading digits and the text after them. -/
def spanDigits (s : List Char) : List Char × List Char :=
  s.span isDigit

/-- The fraction of a number: none, or at least one digit after a point. -/
def readFraction : List Char → Option (Option (List Char) × List Char)
  | '.' :: rest =>
    match spanDigits rest with
    | ([], _) => none
    | (digits, rest) => some (some digits, rest)
  | s => some (none, s)

/-- The digits of an exponent, of which there is at least one. -/
def readExponentDigits (negative : Bool) (s : List Char) :
    Option (Option (Bool × List Char) × List Char) :=
  match spanDigits s with
  | ([], _) => none
  | (digits, rest) => some (some (negative, digits), rest)

/-- The exponent of a number: none, or an optional sign and at least one digit after an `e`. -/
def readExponent : List Char → Option (Option (Bool × List Char) × List Char)
  | c :: rest =>
    if c = 'e' ∨ c = 'E' then
      match rest with
      | '-' :: rest => readExponentDigits true rest
      | '+' :: rest => readExponentDigits false rest
      | rest => readExponentDigits false rest
    else some (none, c :: rest)
  | [] => some (none, [])

/-- A number without its sign. The whole part is `0` or starts with another digit. -/
def readUnsigned (negative : Bool) (s : List Char) : Option (NumberText × List Char) := do
  let (whole, rest) := spanDigits s
  guard (!whole.isEmpty && (whole == ['0'] || whole.head? != some '0'))
  let (fraction, rest) ← readFraction rest
  let (exponent, rest) ← readExponent rest
  return (⟨negative, whole, fraction, exponent⟩, rest)

/-- A number and the text after it. -/
def readNumber : List Char → Option (NumberText × List Char)
  | '-' :: rest => readUnsigned true rest
  | s => readUnsigned false s

mutual

/-- One value and the text after it. The first argument bounds the depth. -/
def read : Nat → List Char → Option (Tree × List Char)
  | 0, _ => none
  | fuel + 1, s =>
    match skipSpace s with
    | 'n' :: 'u' :: 'l' :: 'l' :: rest => some (.null, rest)
    | 't' :: 'r' :: 'u' :: 'e' :: rest => some (.bool true, rest)
    | 'f' :: 'a' :: 'l' :: 's' :: 'e' :: rest => some (.bool false, rest)
    | '"' :: rest => (readString rest).map fun (raw, after) => (.string raw, after)
    | '[' :: rest =>
      match skipSpace rest with
      | ']' :: rest => some (.array [], rest)
      | rest => (readItems fuel rest).map fun (items, after) => (.array items, after)
    | '\x7b' :: rest =>
      match skipSpace rest with
      | '\x7d' :: rest => some (.object [], rest)
      | rest => (readFields fuel rest).map fun (fields, after) => (.object fields, after)
    | s => (readNumber s).map fun (n, after) => (.number n, after)

/-- The items of an array up to its closing bracket. -/
def readItems : Nat → List Char → Option (List Tree × List Char)
  | 0, _ => none
  | fuel + 1, s =>
    match read fuel s with
    | none => none
    | some (item, rest) =>
      match skipSpace rest with
      | ']' :: rest => some ([item], rest)
      | ',' :: rest => (readItems fuel rest).map fun (items, after) => (item :: items, after)
      | _ => none

/-- The members of an object up to its closing brace. -/
def readFields : Nat → List Char → Option (List (List Char × Tree) × List Char)
  | 0, _ => none
  | fuel + 1, s =>
    match skipSpace s with
    | '"' :: rest =>
      match readString rest with
      | none => none
      | some (name, rest) =>
        match skipSpace rest with
        | ':' :: rest =>
          match read fuel rest with
          | none => none
          | some (value, rest) =>
            match skipSpace rest with
            | '\x7d' :: rest => some ([(name, value)], rest)
            | ',' :: rest =>
              (readFields fuel rest).map fun (fields, after) => ((name, value) :: fields, after)
            | _ => none
        | _ => none
    | _ => none

end

/-- The tree of a text that is one value with nothing but spaces around it. Each step into a value
takes a character, and at most one more step leads to the next, so the bound is never met. -/
def ofText? (s : List Char) : Option Tree :=
  match read (2 * s.length + 2) s with
  | some (tree, rest) => if (skipSpace rest).isEmpty then some tree else none
  | none => none

end Tree

end RegistryDedup
