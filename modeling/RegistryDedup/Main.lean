import RegistryDedup.Command.EnvFile
import RegistryDedup.Command.Job

/-!
# The program

The command line, the environment, a file with variables, the lock file and the journal are those of
the system. No store is reached: the program has no network of its own, and a command comes to what
it comes to where nothing can be reached.
-/

namespace RegistryDedup.Main

open Text

/-- The variables that are looked at. -/
def knownVariables : List String :=
  ["SUPABASE_DB_URL", "DATABASE_URL", "DB_URL", "DISABLE_SESSION_SWAP", "SUPABASE_URL",
    "SUPABASE_SERVICE_ROLE_KEY", "SUPABASE_SERVICE_KEY", "SUPABASE_KEY", "RECONCILE_BACKEND",
    "RECONCILE_TABLES", "RECONCILE_MAX_ATTEMPTS", "RECONCILE_BACKOFF_MS",
    "RECONCILE_CALL_TIMEOUT_SECS", "RECONCILE_CONCURRENCY", "RECONCILE_PAGE_SIZE", "DB_MAX_CONNS",
    "DRY_RUN", "HOME", "TMPDIR", "USER"]

/-- A path with the paths of all directories above it. -/
def ancestors (path : String) : List String :=
  let segments := parts '/' path
  (List.range segments.length).map fun n =>
    String.intercalate "/" (segments.take (segments.length - n))

/-- The text of the first of some files that can be read. -/
def readFirst : List String → IO String
  | [] => return ""
  | path :: rest => do
    try IO.FS.readFile path catch _ => readFirst rest

/-- The variables of the system and those of the nearest file with variables. -/
def environment : IO Environment := do
  let values ← knownVariables.mapM fun name => return (← IO.getEnv name).map fun value => (name, value)
  let here ← IO.currentDir
  let file ← readFirst ((ancestors here.toString).map (· ++ "/.env"))
  return Environment.load (values.filterMap id) file

/-- The time, which the system tells of a file that has just been made. -/
def now : IO Instant := do
  let (_, path) ← IO.FS.createTempFile
  let time := (← path.metadata).modified
  IO.FS.removeFile path
  match Instant.ofEpoch? time.sec time.nsec.toNat with
  | some t => return t
  | none => throw (IO.userError "the clock is out of range")

/-- The number of the process, as the system tells it. -/
def processNumber : IO Nat := do
  let text ← readFirst ["/proc/self/stat"]
  return digitsValue (text.toList.takeWhile isDigit)

/-- What the file system reports. -/
def fileError : IO.Error → FileError
  | .noFileOrDirectory .. => .notFound
  | .alreadyExists .. => .alreadyExists
  | e => .reported e.toString

/-- What an action on a file comes to. -/
def onFile (act : IO Unit) : IO (Except FileError Unit) := do
  try
    act
    return .ok ()
  catch e => return .error (fileError e)

/-- A text written to a file that is opened in some mode. -/
def write (path : String) (mode : IO.FS.Mode) (text : String) : IO (Except FileError Unit) :=
  onFile do (← IO.FS.Handle.mk path mode).putStr text

/-- The lock file taken. -/
def acquire (path : String) : IO (Except Failure Unit) := do
  let holder : Lock.Holder := ⟨← processNumber, ← now⟩
  match ← write path .writeNew holder.text with
  | .ok () => return .ok ()
  | .error .alreadyExists => return .error (.lockHeld path (trimmed (← readFirst [path])))
  | .error e => return .error (.lockUnavailable path e.text)

/-- The answer of the system to one action. -/
def answer (store : Store Unit) : (a : Action) → IO a.Answer
  | .call r => return .answered (store.call r ()).1
  | .pick others => return ⟨0, Nat.succ_pos others⟩
  | .now => now
  | .acquireLock path => acquire path
  | .releaseLock path => discard (onFile (IO.FS.removeFile path))
  | .openJournal path => write path .append ""
  | .appendJournal path entry => write path .append (Journal.append "" entry)

/-- A command carried out. -/
def carryOut (c : Command) : IO Outcome := do
  let env ← environment
  let temporary := (env.get? "TMPDIR").getD "/tmp"
  match c.job env temporary with
  | .error t => return .ofTrouble t
  | .ok job =>
    match (Network.none.connect job.access ()).1 with
    | .error t => return .ofTrouble t
    | .ok () =>
      let run := runName (← now) (← IO.rand 0 0xFFFF)
      (job.work job.access.label run).runIn (answer (Network.none.store job.access))

end RegistryDedup.Main

open RegistryDedup

/-- The program. -/
def main (args : List String) : IO UInt32 := do
  let outcome ← (Line.read args).outcome Main.carryOut
  IO.print outcome.output
  IO.eprint outcome.errorText
  return outcome.exitCode.toUInt32
