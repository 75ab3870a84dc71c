import RegistryDedup.Command.Environment
import RegistryDedup.Url.Reader

/-!
# Settings on record

Before it works, a command puts its settings on record. Values that give access to a store are
masked.

- `redacted`: the value of a variable as it may be shown.
- `Environment.checkRequired`: whether all of some variables are set.
- `Environment.snapshot`: some variables as they may be shown.
-/

namespace RegistryDedup

open Text

/-- What is shown in place of a secret. -/
def mask : String := "***"

/-- The words in the name of a variable that make it a secret. -/
def secretWords : List String :=
  ["PASSWORD", "SECRET", "KEY", "TOKEN"]

/-- A text with the letters of ASCII in upper case. -/
def upperAscii (s : String) : String :=
  String.ofList (s.toList.map Char.toUpper)

/-- Whether a variable of some name is a secret. -/
def isSecret (name : String) : Bool :=
  secretWords.any fun word => contains word (upperAscii name)

/-- The schemes of addresses of a database. -/
def databaseSchemes : List (List Char) :=
  ["postgres".toList, "postgresql".toList]

/-- The value of a variable as it may be shown. Secrets are masked, and so are the name and the
password in the address of a database. -/
def redacted (name value : String) : String :=
  if isSecret name then mask
  else
    let value := trimmed value
    match Url.read value with
    | .ok url =>
      if databaseSchemes.contains url.scheme then (url.withCredentials mask mask).text else value
    | .error _ => value

namespace Environment

/-- Some variables as they may be shown. -/
def snapshot (env : Environment) (names : List String) : List (String × String) :=
  names.map fun name => (name, redacted name ((env.get? name).getD ""))

/-- Refuses an environment in which some of the variables are not set. -/
def checkRequired (env : Environment) (names : List String) : Except Trouble Unit :=
  let missing := names.filter fun name => (env.get? name).isNone
  if missing.isEmpty then .ok ()
  else .error (.ofText ("missing required env: " ++ quotedList missing))

end Environment

end RegistryDedup
