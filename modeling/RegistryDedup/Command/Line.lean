import RegistryDedup.Command.Options

/-!
# The command line

A command line is the name of a command and its options. An option with a value is written
`--name value` or `--name=value`, one without is written `--name`. Only repeatable options may be
given more than once. A value that follows its option may not begin with a dash, unless it is a dash
alone. Arguments are looked at one after the other, so that a request for help counts only where all
is well before it.

- `OptionForm`: how an option is written.
- `readGiven`: the options that are given, with their values.
- `Line.read`: what a command line asks for.
-/

namespace RegistryDedup

open Text

/-- Why a command line asks for nothing that can be done. -/
inductive Misuse where
  | noCommand
  | unknownCommand (name : String)
  | unexpectedArgument (arg : String)
  | missingValue (option : String)
  /-- A value for an option that takes none. -/
  | unneededValue (option : String)
  | repeatedOption (option : String)
  | malformedValue (option value : String)
  | missingOption (option : String)
  deriving DecidableEq, Repr

/-- What a command line asks for. -/
inductive Line where
  | command (command : Command)
  | help
  | version
  | misuse (misuse : Misuse)
  deriving DecidableEq

/-! ## Options as they are written -/

/-- How an option is written. -/
structure OptionForm where
  /-- The name without the dashes. -/
  name : String
  takesValue : Bool := true
  isRepeatable : Bool := false
  /-- The values that the option may have. -/
  accepts : String → Bool := fun _ => true

/-- Options with their values, in the order in which they are given. An option without a value has
an empty one. -/
abbrev Given := List (String × String)

/-- A command line that is read as far as to some argument. -/
structure Reading where
  given : Given := []
  /-- The option whose value comes next. -/
  awaiting : Option String := none
  /-- No more options are expected. -/
  closed : Bool := false

/-- A result, or else what the command line comes to. -/
abbrev LineResult (α : Type) := Except Line α

/-- A command line that asks for nothing that can be done. -/
def refuse {α : Type} (m : Misuse) : LineResult α :=
  .error (.misuse m)

/-- One more option. -/
def Reading.add (r : Reading) (form : OptionForm) (value : String) : LineResult Reading :=
  if !form.isRepeatable && (r.given.lookup form.name).isSome then
    refuse (.repeatedOption form.name)
  else if !form.accepts value then refuse (.malformedValue form.name value)
  else .ok { r with given := r.given ++ [(form.name, value)], awaiting := none }

/-- Whether an argument is not a value, as it begins with a dash and is not a dash alone. -/
def beginsOption (arg : String) : Bool :=
  beginsWith "-" arg && arg != "-"

/-- A long option, given by what follows the two dashes. -/
def Reading.long (forms : List OptionForm) (r : Reading) (arg : String) : LineResult Reading :=
  let (name, value) := match cutFirst '=' arg with
    | some (name, value) => (name, some value)
    | none => (arg, none)
  match forms.find? (·.name == name) with
  | none =>
    if name = "help" ∧ value.isNone then .error .help
    else refuse (.unexpectedArgument ("--" ++ arg))
  | some form =>
    match form.takesValue, value with
    | true, some value => r.add form value
    | true, none => .ok { r with awaiting := some name }
    | false, none => r.add form ""
    | false, some _ => refuse (.unneededValue name)

/-- One more argument. -/
def Reading.next (forms : List OptionForm) (r : Reading) (arg : String) : LineResult Reading :=
  match r.awaiting with
  | some name =>
    if beginsOption arg then refuse (.missingValue name)
    else
      match forms.find? (·.name == name) with
      | some form => r.add form arg
      | none => refuse (.unexpectedArgument arg)
  | none =>
    if r.closed then refuse (.unexpectedArgument arg)
    else
      match arg.toList with
      | ['-', '-'] => .ok { r with closed := true }
      | '-' :: '-' :: rest => r.long forms (String.ofList rest)
      | '-' :: 'h' :: _ => .error .help
      | _ => refuse (.unexpectedArgument arg)

/-- The options that are given in some arguments. -/
def readGiven (forms : List OptionForm) (args : List String) : LineResult Given := do
  let r ← args.foldlM (Reading.next forms) {}
  match r.awaiting with
  | some name => refuse (.missingValue name)
  | none => return r.given

/-! ## Values of options -/

/-- A number of 64 bits. -/
def readWide? (value : String) : Option Nat :=
  readNat max64 value.toList

/-- A number of 32 bits. It is read with a sign, so that minus zero is a number too. -/
def readNarrow? (value : String) : Option Nat :=
  (readInt (-(Int.pow 2 63)) (Int.pow 2 63 - 1) value.toList).bind fun n =>
    if 0 ≤ n ∧ n ≤ max32 then some n.toNat else none

/-- The path of a file, which is not empty. -/
def readPath? (value : String) : Option String :=
  if value.isEmpty then none else some value

namespace Given

/-- The value of an option, if it is given. -/
def get? (g : Given) (name : String) : Option String :=
  g.lookup name

/-- Whether an option is given. -/
def has (g : Given) (name : String) : Bool :=
  (g.get? name).isSome

/-- The value of an option with a default. -/
def getText (g : Given) (name default : String) : String :=
  (g.get? name).getD default

/-- The values of an option that may be repeated. -/
def all (g : Given) (name : String) : List String :=
  (g.filter (·.1 == name)).map (·.2)

/-- The value of an option as `read` reads it. -/
def read {α : Type} (g : Given) (name : String) (read : String → Option α) :
    LineResult (Option α) :=
  match g.get? name with
  | none => .ok none
  | some value =>
    match read value with
    | some a => .ok (some a)
    | none => refuse (.malformedValue name value)

/-- A number of 64 bits. -/
def wide (g : Given) (name : String) : LineResult (Option Nat) :=
  g.read name readWide?

/-- A number of 32 bits. -/
def narrow (g : Given) (name : String) : LineResult (Option Nat) :=
  g.read name readNarrow?

/-- The path of a file. -/
def path (g : Given) (name : String) : LineResult (Option String) :=
  g.read name readPath?

/-- A number of seconds, of which there is at least one. -/
def span (g : Given) (name : String) (default : Nat) : LineResult Span := do
  return .seconds (max 1 ((← g.wide name).getD default))

end Given

/-! ## Options of the commands -/

/-- An option that is given by its name alone. -/
def flagForm (name : String) : OptionForm :=
  { name, takesValue := false }

/-- Options with one text each. -/
def valueForms (names : List String) : List OptionForm :=
  names.map fun name => { name }

/-- Options with one value each that `read` has to be able to read. -/
def readForms {α : Type} (read : String → Option α) (names : List String) : List OptionForm :=
  names.map fun name => { name, accepts := fun value => (read value).isSome }

/-- The options that every command has. -/
def storeForms : List OptionForm :=
  readForms Backend.ofName? ["backend"] ++ valueForms ["db-url"] ++
    readForms readNarrow? ["max-connections"] ++ readForms readWide? ["call-timeout-secs"]

/-- The options of the primary table. -/
def entityForms : List OptionForm :=
  valueForms ["primary-table", "id-column", "name-column", "created-column"]

/-- The options of the table of details. -/
def detailForms : List OptionForm :=
  valueForms ["table", "id-column", "owner-column", "created-column"]

/-- How to reach the store. -/
def readStore (g : Given) : LineResult StoreOptions := do
  return {
    backend := ← g.read "backend" Backend.ofName?
    databaseUrl := g.get? "db-url"
    maxConnections := ← g.narrow "max-connections"
    callTimeout := some (← g.span "call-timeout-secs" 30) }

/-- The primary table. -/
def readEntity (g : Given) : EntityOptions :=
  let default : EntityOptions := {}
  { table := g.getText "primary-table" default.table
    idColumn := g.getText "id-column" default.idColumn
    nameColumn := g.getText "name-column" default.nameColumn
    createdColumn := g.getText "created-column" default.createdColumn }

/-- The table of details. -/
def readDetail (g : Given) : DetailOptions :=
  let default : DetailOptions := {}
  { table := g.getText "table" default.table
    idColumn := g.getText "id-column" default.idColumn
    ownerColumn := g.getText "owner-column" default.ownerColumn
    createdColumn := g.getText "created-column" default.createdColumn }

/-- The options of the command that merges duplicates. -/
def dedupeForms : List OptionForm :=
  storeForms ++ entityForms ++
    valueForms ["tables", "strip-prefixes"] ++ readForms Policy.ofName? ["policy"] ++
    readForms readWide? ["concurrency", "max-consecutive-failures", "deadline-secs"] ++
    readForms readNarrow? ["max-attempts"] ++ readForms readPath? ["journal", "lock-file"] ++
    ["dry-run", "no-lock", "json"].map flagForm

/-- The command that merges duplicates. -/
def readDedupe (g : Given) : LineResult Command := do
  return .dedupe {
    store := ← readStore g
    entity := readEntity g
    tables := g.get? "tables"
    policy := (← g.read "policy" Policy.ofName?).getD .mostReferenced
    dryRun := g.has "dry-run"
    stripPrefixes := g.get? "strip-prefixes"
    concurrency := ← g.wide "concurrency"
    maxAttempts := ← g.narrow "max-attempts"
    maxFailuresInARow := ← g.wide "max-consecutive-failures"
    deadline := ← g.span "deadline-secs" 1800
    journal := ← g.path "journal"
    lockFile := ← g.path "lock-file"
    noLock := g.has "no-lock"
    json := g.has "json" }

/-- The options of the command that looks for duplicates. -/
def verifyForms : List OptionForm :=
  storeForms ++ entityForms ++ valueForms ["strip-prefixes"] ++ [flagForm "json"]

/-- The command that looks for duplicates. -/
def readVerify (g : Given) : LineResult Command := do
  return .verify {
    store := ← readStore g
    entity := readEntity g
    stripPrefixes := g.get? "strip-prefixes"
    json := g.has "json" }

/-- The options of the command that deletes stale details. -/
def detailsForms : List OptionForm :=
  storeForms ++ detailForms ++ ["dry-run", "json"].map flagForm

/-- The command that deletes stale details. -/
def readDetails (g : Given) : LineResult Command := do
  return .details {
    store := ← readStore g
    detail := readDetail g
    dryRun := g.has "dry-run"
    json := g.has "json" }

/-- The options of the command that updates an owner. -/
def ownerUpdateForms : List OptionForm :=
  storeForms ++ detailForms ++ valueForms ["dependent-table", "dependent-id-column", "id"] ++
    ["set", "detail-value"].map fun name => { name, isRepeatable := true }

/-- The command that updates an owner. -/
def readOwnerUpdate (g : Given) : LineResult Command := do
  let store ← readStore g
  match g.get? "id", g.all "set" with
  | none, _ => refuse (.missingOption "id")
  | _, [] => refuse (.missingOption "set")
  | some id, assignments =>
    return .updateOwner {
      store, id, assignments
      detail := readDetail g
      table := g.getText "dependent-table" "holdings"
      idColumn := g.getText "dependent-id-column" "id"
      detailValues := g.all "detail-value" }

/-- The options of the command that looks for orphans. -/
def orphansForms : List OptionForm :=
  storeForms ++ entityForms ++ valueForms ["tables"] ++ readForms readWide? ["sample"] ++
    [flagForm "json"]

/-- The command that looks for orphans. -/
def readOrphans (g : Given) : LineResult Command := do
  return .orphans {
    store := ← readStore g
    entity := readEntity g
    tables := g.get? "tables"
    sample := (← g.wide "sample").getD 20
    json := g.has "json" }

/-! ## Whole lines -/

/-- A command: its name, its options, and how it is read from them. -/
structure CommandForm where
  name : String
  forms : List OptionForm
  read : Given → LineResult Command

/-- All commands. -/
def commandForms : List CommandForm :=
  [⟨"dedupe", dedupeForms, readDedupe⟩, ⟨"verify", verifyForms, readVerify⟩,
    ⟨"details", detailsForms, readDetails⟩, ⟨"rewrite-dependent", ownerUpdateForms, readOwnerUpdate⟩,
    ⟨"orphans", orphansForms, readOrphans⟩]

namespace Line

/-- What a request for help asks for: help on the program or on one command. -/
def readHelp : List String → Line
  | [] => help
  | [name] =>
    if name = "help" ∨ commandForms.any (·.name == name) then help
    else misuse (.unknownCommand name)
  | _ :: arg :: _ => misuse (.unexpectedArgument arg)

/-- What a line asks for that does not begin with the name of a command. -/
def readOther (arg : String) : Line :=
  match arg.toList with
  | '-' :: 'V' :: _ => version
  | '-' :: 'h' :: _ => help
  | _ =>
    if arg = "--version" then version
    else if arg = "--help" then help
    else if beginsOption arg then misuse (.unexpectedArgument arg)
    else misuse (.unknownCommand arg)

/-- What a command line asks for. -/
def read : List String → Line
  | [] => misuse .noCommand
  | name :: args =>
    if name = "help" then readHelp args
    else
      match commandForms.find? (·.name == name) with
      | none => readOther name
      | some form =>
        match readGiven form.forms args >>= form.read with
        | .ok c => .command c
        | .error line => line

end Line

end RegistryDedup
