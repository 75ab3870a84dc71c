import RegistryDedup.Json.Basic

/-!
# Writing JSON

- `Json.compact`: no spaces at all.
- `Json.pretty`: one item or member a line, two spaces deeper than what holds it.

Strings are written between double quotes. The quote, the backslash and control characters are
escaped, all other characters are written as they are.
-/

namespace RegistryDedup

open Text

/-- A hexadecimal digit, lower case. -/
def hexDigit (n : Nat) : Char :=
  Nat.digitChar n

/-- How a character is written in a string. -/
def escapedChar (c : Char) : List Char :=
  if c = '"' then ['\\', '"']
  else if c = '\\' then ['\\', '\\']
  else if c = '\n' then ['\\', 'n']
  else if c = '\r' then ['\\', 'r']
  else if c = '\t' then ['\\', 't']
  else if c.toNat = 8 then ['\\', 'b']
  else if c.toNat = 12 then ['\\', 'f']
  else if c.toNat < 0x20 then
    ['\\', 'u', '0', '0', hexDigit (c.toNat / 16), hexDigit (c.toNat % 16)]
  else [c]

/-- A string between quotes. -/
def stringText (s : String) : List Char :=
  '"' :: s.toList.flatMap escapedChar ++ ['"']

namespace Json

mutual

/-- A value without spaces. -/
def compactText : Json → List Char
  | .null => "null".toList
  | .bool true => "true".toList
  | .bool false => "false".toList
  | .num n => n.text
  | .str s => stringText s
  | .arr items => '[' :: compactItems items ++ [']']
  | .obj fields => '\x7b' :: compactFields fields ++ ['\x7d']

/-- Items with commas between them. -/
def compactItems : List Json → List Char
  | [] => []
  | [v] => compactText v
  | v :: w :: rest => compactText v ++ ',' :: compactItems (w :: rest)

/-- Members with commas between them. -/
def compactFields : List (String × Json) → List Char
  | [] => []
  | [(name, v)] => stringText name ++ ':' :: compactText v
  | (name, v) :: f :: rest =>
    stringText name ++ ':' :: compactText v ++ ',' :: compactFields (f :: rest)

end

/-- The start of a line at a depth. -/
def newLine (depth : Nat) : List Char :=
  '\n' :: List.replicate (2 * depth) ' '

mutual

/-- A value over several lines, whose first line is at a depth. -/
def prettyText (depth : Nat) : Json → List Char
  | .arr (v :: rest) =>
    '[' :: newLine (depth + 1) ++ prettyText (depth + 1) v ++ prettyItems (depth + 1) rest ++
      newLine depth ++ [']']
  | .obj ((name, v) :: rest) =>
    '\x7b' :: newLine (depth + 1) ++ stringText name ++ ':' :: ' ' :: prettyText (depth + 1) v ++
      prettyFields (depth + 1) rest ++ newLine depth ++ ['\x7d']
  | .null => "null".toList
  | .bool true => "true".toList
  | .bool false => "false".toList
  | .num n => n.text
  | .str s => stringText s
  | .arr [] => ['[', ']']
  | .obj [] => ['\x7b', '\x7d']

/-- Further items, each after a comma on a line of its own. -/
def prettyItems (depth : Nat) : List Json → List Char
  | [] => []
  | v :: rest => ',' :: newLine depth ++ prettyText depth v ++ prettyItems depth rest

/-- Further members, each after a comma on a line of its own. -/
def prettyFields (depth : Nat) : List (String × Json) → List Char
  | [] => []
  | (name, v) :: rest =>
    ',' :: newLine depth ++ stringText name ++ ':' :: ' ' :: prettyText depth v ++
      prettyFields depth rest

end

/-- A value on one line, without spaces. -/
def compact (v : Json) : String :=
  String.ofList (compactText v)

/-- A value over several lines. -/
def pretty (v : Json) : String :=
  String.ofList (prettyText 0 v)

end Json

end RegistryDedup
