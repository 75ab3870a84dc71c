import RegistryDedup.Command.Environment
import RegistryDedup.Text.Letter

/-!
# Files with variables

A file may hold variables for the environment, one a line: a name, an equals sign and a value. The
word `export` may stand in front of the name. Blank lines do not count, and neither does what
follows a `#` at the start of a line or after the blanks behind a value.

Within a value, and between double quotes too, a backslash makes the next character an ordinary one,
and a dollar sign with a name, in braces or without, stands for the value of that variable. A name
without braces ends with the first character that is no letter or digit. Between single quotes all
characters are ordinary. A value ends with the first blank outside of quotes.

- `EnvFile.readValue?`: a value.
- `EnvFile.readLine?`: a line.
- `Environment.load`: the environment with the variables of a file that it does not have. The first
  malformed line ends the file.
-/

namespace RegistryDedup

open Text

namespace EnvFile

/-! ## Values -/

/-- Where in a value the next character stands. -/
inductive Place where
  | text
  /-- After a backslash. -/
  | escape
  /-- Between single quotes. -/
  | single
  /-- In the name of a variable. -/
  | name (name : List Char)
  /-- In the name of a variable, in braces. -/
  | braced (name : List Char)
  /-- Behind the value, where only blanks may follow. -/
  | behind
  /-- In a comment behind the value. -/
  | comment
  deriving DecidableEq

/-- A value that is read as far as to some character. -/
structure Reader where
  output : List Char := []
  place : Place := .text
  /-- Whether double quotes are open. -/
  inDouble : Bool := false
  deriving DecidableEq

/-- The value of a variable, or nothing. -/
def valueOf (env : Environment) (name : List Char) : List Char :=
  ((env.lookup (String.ofList name)).getD "").toList

/-- What a character after a backslash stands for. -/
def escaped? (c : Char) : Option Char :=
  if c = 'n' then some '\n'
  else if ['\\', '\'', '"', '$', ' '].contains c then some c
  else none

namespace Reader

/-- One more character of the value. -/
def push (r : Reader) (c : Char) : Reader :=
  { r with output := r.output ++ [c], place := .text }

/-- The value of a variable put in. -/
def insert (env : Environment) (r : Reader) (name : List Char) : Reader :=
  { r with output := r.output ++ valueOf env name, place := .text }

/-- A character that is not in a special place. -/
def nextText (r : Reader) (c : Char) : Reader :=
  if c = '$' then { r with place := .name [] }
  else if c = '\\' then { r with place := .escape }
  else if c = '"' then { r with inDouble := !r.inDouble }
  else if r.inDouble then r.push c
  else if c = '\'' then { r with place := .single }
  else if c = ' ' ∨ c = '\t' then { r with place := .behind }
  else r.push c

/-- One more character, if it may stand there. -/
def next? (env : Environment) (r : Reader) (c : Char) : Option Reader :=
  match r.place with
  | .text => some (r.nextText c)
  | .escape => (escaped? c).map r.push
  | .single => some (if c = '\'' then { r with place := .text } else { r.push c with place := .single })
  | .name name =>
    if isLetterOrDigit c then some { r with place := .name (name ++ [c]) }
    else if c = '\x7b' ∧ name.isEmpty then some { r with place := .braced [] }
    else if c = '$' then some { r.insert env name with place := .name [] }
    else some ((r.insert env name).push c)
  | .braced name =>
    if c = '\x7d' then some (r.insert env name)
    else some { r with place := .braced (name ++ [c]) }
  | .behind =>
    if c = ' ' ∨ c = '\t' then some r
    else if c = '#' then some { r with place := .comment }
    else none
  | .comment => some r

/-- The value, if no quotes and no braces are open. -/
def finish? (env : Environment) (r : Reader) : Option (List Char) :=
  if r.inDouble then none
  else
    match r.place with
    | .single | .braced _ => none
    | .name name => some (r.insert env name).output
    | _ => some r.output

end Reader

/-- The value that a text stands for. -/
def readValue? (env : Environment) (s : List Char) : Option (List Char) := do
  (← s.foldlM (Reader.next? env) {}).finish? env

/-! ## Lines -/

/-- Whether a character may stand in a name. -/
def isKeyChar (c : Char) : Bool :=
  c.isAlphanum || c == '_' || c == '.'

/-- A name at the start of a text, and what follows it after blanks. -/
def readKey? (s : List Char) : Option (List Char × List Char) :=
  match s with
  | c :: _ =>
    if c.isAlpha || c == '_' then
      some (s.takeWhile isKeyChar, trimStart (s.dropWhile isKeyChar))
    else none
  | [] => none

/-- A name at the start of a text with what follows its equals sign. -/
def readAssigned? (s : List Char) : Option (List Char × List Char) := do
  match ← readKey? s with
  | (key, '=' :: rest) => return (key, rest)
  | (key, rest) =>
    guard (key == "export".toList)
    match ← readKey? rest with
    | (key, '=' :: rest) => return (key, rest)
    | _ => none

/-- Whether a text is empty or a comment. -/
def isVoid (s : List Char) : Bool :=
  s.isEmpty || s.head? == some '#'

/-- The variable that a line sets, if it sets one. Fails for a malformed line. -/
def readLine? (env : Environment) (line : List Char) : Option (Option (String × String)) := do
  let s := trim line
  if isVoid s then return none
  else
    let (key, rest) ← readAssigned? s
    let rest := trimStart rest
    let value ← if isVoid rest then some [] else readValue? env rest
    return some (String.ofList key, String.ofList value)

/-- The environment with the variables of some lines that it does not have. The first malformed
line ends the reading. -/
def loadLines : List (List Char) → Environment → Environment
  | [], env => env
  | line :: rest, env =>
    match readLine? env line with
    | none => env
    | some none => loadLines rest env
    | some (some (key, value)) => loadLines rest (env ++ [(key, value)])

end EnvFile

/-- The environment with the variables of a file that it does not have. -/
def Environment.load (env : Environment) (file : String) : Environment :=
  EnvFile.loadLines (linesOf file.toList) env

end RegistryDedup
