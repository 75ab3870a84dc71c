import RegistryDedup.Text.Hex
import RegistryDedup.Text.Split
import RegistryDedup.Text.Utf8

/-!
# Percent encoding

- `inFragmentSet`, `inPathSet`, `inUserSet`, `inQuerySet`: the characters that each part of a URL
  gives by number.
- `percentEncoded`: the bytes of a text, those of some characters as they are and all others by
  number.
- `formEncoded`, `formQuery`: names and values of a query. A space is written as a plus sign.
- `percentDecoded`, `formPairs`: the way back.
-/

namespace RegistryDedup.Url

open Text

/-! ## Characters that have to be given by number -/

/-- Controls and all characters outside of ASCII. -/
def isControl (c : Char) : Bool :=
  c.toNat < 0x20 || 0x7E < c.toNat

/-- Characters that a fragment gives by number. -/
def inFragmentSet (c : Char) : Bool :=
  isControl c || c == ' ' || c == '"' || c == '<' || c == '>' || c == '\x60'

/-- Characters that a path gives by number. -/
def inPathSet (c : Char) : Bool :=
  inFragmentSet c || c == '#' || c == '?' || c == '\x7b' || c == '\x7d'

/-- Characters that user and password give by number. -/
def inUserSet (c : Char) : Bool :=
  inPathSet c || "/:;=@[\\]^|".toList.contains c

/-- Characters that a query gives by number. A query to a host of a known kind gives quotes so
too. -/
def inQuerySet (known : Bool) (c : Char) : Bool :=
  isControl c || c == ' ' || c == '"' || c == '#' || c == '<' || c == '>' || (known && c == '\'')

/-! ## Writing and reading -/

/-- A byte by number: a percent sign and two hexadecimal digits, upper case. -/
def percentByte (b : UInt8) : List Char :=
  ['%', (Nat.digitChar (b.toNat / 16)).toUpper, (Nat.digitChar (b.toNat % 16)).toUpper]

/-- The bytes of a character by number. -/
def percentChar (c : Char) : List Char :=
  (String.utf8EncodeChar c).flatMap percentByte

/-- A text with the characters that have to be given by number so given. -/
def percentEncoded (needsNumber : Char → Bool) (s : List Char) : List Char :=
  s.flatMap fun c => if needsNumber c then percentChar c else [c]

/-- Whether a character stands for itself in a query of names and values. -/
def isFormPlain (c : Char) : Bool :=
  c.isAlphanum || c == '*' || c == '-' || c == '.' || c == '_'

/-- A name or value of a query. -/
def formEncoded (s : String) : List Char :=
  s.toList.flatMap fun c =>
    if isFormPlain c then [c] else if c = ' ' then ['+'] else percentChar c

/-- Names with values as a query. -/
def formQuery : List (String × String) → List Char
  | [] => []
  | [(name, value)] => formEncoded name ++ '=' :: formEncoded value
  | (name, value) :: pair :: rest =>
    formEncoded name ++ '=' :: formEncoded value ++ '&' :: formQuery (pair :: rest)

/-- The bytes that a text with bytes by number stands for. -/
def percentDecoded : List Char → List UInt8
  | [] => []
  | '%' :: a :: b :: rest =>
    match hexDigit? a, hexDigit? b with
    | some high, some low => UInt8.ofNat (16 * high + low) :: percentDecoded rest
    | _, _ => '%'.toUInt8 :: percentDecoded (a :: b :: rest)
  | c :: rest => String.utf8EncodeChar c ++ percentDecoded rest

/-- A name or value of a query as it is meant. -/
def formDecoded (s : List Char) : String :=
  String.ofList (Utf8.decodeLossy (percentDecoded (s.map fun c => if c = '+' then ' ' else c)))

/-- The names of a query with their values. -/
def formPairs (query : List Char) : List (String × String) :=
  ((splitOn '&' query).filter (!·.isEmpty)).map fun pair =>
    match cutAtFirst '=' pair with
    | some (name, value) => (formDecoded name, formDecoded value)
    | none => (formDecoded pair, "")

example : formQuery [("a", "b c"), ("é", "")] = "a=b+c&%C3%A9=".toList := by decide +kernel

end RegistryDedup.Url
