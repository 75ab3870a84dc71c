import RegistryDedup.Command.Line
import RegistryDedup.Json.Printer
import RegistryDedup.Run.Trouble

/-!
# What a command comes to

- `Outcome`: the exit code of a command and what it prints. The exit code is that of its report; it
  is 2 for a command that ended early.
- `Line.outcome`: what a whole command line comes to.
-/

namespace RegistryDedup

open Text

/-- The exit code of a command, and what it prints. -/
structure Outcome where
  exitCode : Nat
  output : String := ""
  errorText : String := ""
  deriving DecidableEq

namespace Outcome

/-- The exit code of a command that ended early. -/
def failureCode : Nat := 2

/-- The outcome of a command that ended early, with what it printed before. -/
def failed (message : String) (output : String) : Outcome :=
  ⟨failureCode, output, "error: " ++ message ++ "\n"⟩

/-- The outcome of a command that ran into trouble. -/
def ofTrouble (t : Trouble) : Outcome :=
  failed t.message ""

/-- The outcome of a command with a report. -/
def reported (exitCode : Nat) (json : Bool) (value : Json) (text : String) : Outcome :=
  ⟨exitCode, if json then value.pretty ++ "\n" else text, ""⟩

/-- The outcome of a command that went well, or else ran into trouble. -/
def ofResult : Except Trouble Outcome → Outcome
  | .ok outcome => outcome
  | .error t => ofTrouble t

end Outcome

/-! ## Whole lines -/

/-- The name of the program with its version. -/
def versionText : String := "forest-admin 0.1.0\n"

/-- How the program is used. -/
def helpText : String :=
  "usage: forest-admin COMMAND [OPTIONS]\n\ncommands:\n" ++
    String.join (commandForms.map fun form => "  " ++ form.name ++ "\n")

/-- Why a command line asks for nothing that can be done, in words. -/
def Misuse.text : Misuse → String
  | noCommand => "a command is required"
  | unknownCommand name => "unknown command " ++ quoted name
  | unexpectedArgument arg => "unexpected argument " ++ quoted arg
  | missingValue option => "option " ++ option ++ " requires a value"
  | unneededValue option => "option " ++ option ++ " takes no value"
  | repeatedOption option => "option " ++ option ++ " is given more than once"
  | malformedValue option value => "malformed value " ++ quoted value ++ " of option " ++ option
  | missingOption option => "option " ++ option ++ " is required"

/-- What a command line comes to, given how commands are carried out. -/
def Line.outcome {m : Type → Type} [Monad m] (carryOut : Command → m Outcome) : Line → m Outcome
  | command c => carryOut c
  | help => return ⟨0, helpText, ""⟩
  | version => return ⟨0, versionText, ""⟩
  | misuse m => return .failed m.text ""

end RegistryDedup
