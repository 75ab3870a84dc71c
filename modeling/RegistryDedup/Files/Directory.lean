import RegistryDedup.Text.Split
import RegistryDedup.Text.Excerpt

/-!
# A directory of text files

- `Directory`: files by name, below a root that is also where relative paths begin. There are no
  directories below it.
- `Directory.place`: what a path leads to.
- `Directory.create`, `append`, `overwrite`, `remove`, `read`: each fails with a `FileError`
  where the file system would.
-/

namespace RegistryDedup

open Text

/-- Why an operation on a file failed. -/
inductive FileError where
  | notFound
  | alreadyExists
  | notDirectory
  | isDirectory
  | nameTooLong
  /-- The name has a null character. -/
  | nullInName
  /-- Anything else, in the words of the file system. -/
  | reported (text : String)
  deriving DecidableEq

namespace FileError

/-- What the file system reports. -/
def text : FileError → String
  | notFound => "No such file or directory (os error 2)"
  | alreadyExists => "File exists (os error 17)"
  | notDirectory => "Not a directory (os error 20)"
  | isDirectory => "Is a directory (os error 21)"
  | nameTooLong => "File name too long (os error 36)"
  | nullInName => "file name contained an unexpected NUL byte"
  | reported text => text

end FileError

/-- Files by name, below a root. The name of a file above the root begins with two dots and a slash
for each step up. -/
structure Directory where
  root : String
  files : List (String × String) := []

/-- What a path leads to. -/
inductive Place where
  /-- The root, or a directory above it. A slash after its name makes a difference to what is
  reported. -/
  | directory (slash : Bool)
  /-- A name, after which there may be a slash. -/
  | entry (name : String) (slash : Bool)
  deriving DecidableEq

namespace Directory

/-- The path of a file. A name that begins with a slash is a path itself. -/
def path (d : Directory) (name : String) : String :=
  if beginsWith "/" name then name else d.root ++ "/" ++ name

/-! ## Paths -/

/-- How many bytes a name may have. -/
def maxNameLength : Nat := 255

/-- How many bytes a path may have. -/
def maxPathLength : Nat := 4095

/-- The text of the file of a name. -/
def find? (d : Directory) (name : String) : Option String :=
  d.files.lookup name

/-- The name under which an entry `up` steps above the root is known. -/
def nameAbove (up : Nat) (entry : List Char) : String :=
  String.ofList ((List.replicate up "../".toList).flatten ++ entry)

/-- What some parts of a path lead to, from `up` steps above the root. There has to be a directory
for all of them but the last; `slash` says whether a slash follows the last one. -/
def follow (d : Directory) (slash : Bool) : (up : Nat) → List (List Char) → Except FileError Place
  | _, [] => .ok (.directory false)
  | up, part :: rest =>
    if part == ['.'] then d.follow slash up rest
    else if part == ['.', '.'] then d.follow slash (up + 1) rest
    else if maxNameLength < byteLength part then .error .nameTooLong
    else if rest.isEmpty then .ok (.entry (nameAbove up part) slash)
    else if (d.find? (nameAbove up part)).isSome then .error .notDirectory
    else .error .notFound

/-- What a path leads to. Of what is outside of the root only the directories above it are known. -/
def place (d : Directory) (path : String) : Except FileError Place :=
  let chars := path.toList
  let slash := chars.getLast? == some '/'
  let walk (s : List Char) : Except FileError Place :=
    d.follow slash 0 ((splitOn '/' s).filter (!·.isEmpty))
  if chars.contains '\x00' then .error .nullInName
  else if maxPathLength < byteLength chars then .error .nameTooLong
  else
    match afterLead d.root.toList chars with
    | some [] => .ok (.directory false)
    | some ('/' :: rest) =>
      if rest.all (· == '/') then .ok (.directory true) else walk rest
    | _ => if chars.isEmpty || beginsWith "/" path then .error .notFound else walk chars

/-! ## Files -/

/-- The directory without a name. -/
def without (d : Directory) (name : String) : Directory :=
  { d with files := d.files.filter (·.1 != name) }

/-- The directory with a text under a name. -/
def put (d : Directory) (name text : String) : Directory :=
  { d.without name with files := (d.without name).files ++ [(name, text)] }

/-- Whether there is something at a path. -/
def hasPath (d : Directory) (path : String) : Bool :=
  match d.place path with
  | .ok (.entry name slash) => (d.find? name).isSome && !slash
  | .ok (.directory _) => true
  | .error _ => false

/-- The file at a path that leads to an entry, if there is one. -/
def fileAt (d : Directory) (path : String) : Except FileError (String × String) := do
  match ← d.place path with
  | .directory _ => throw .isDirectory
  | .entry name slash =>
    match d.find? name with
    | some text => if slash then throw .notDirectory else return (name, text)
    | none => throw .notFound

/-- The text of the file at a path. -/
def read (d : Directory) (path : String) : Except FileError String :=
  (d.fileAt path).map (·.2)

/-- The file at a path removed. -/
def remove (d : Directory) (path : String) : Except FileError Directory :=
  (d.fileAt path).map fun (name, _) => d.without name

/-- A new file at a path. Fails if there is something. -/
def create (d : Directory) (path text : String) : Except FileError Directory := do
  match ← d.place path with
  | .directory slash => throw (if slash then .isDirectory else .alreadyExists)
  | .entry name slash =>
    if slash then throw .isDirectory
    else if (d.find? name).isSome then throw .alreadyExists
    else return d.put name text

/-- A text at a path; `change` gives it from the text that is there. -/
def write (d : Directory) (path : String) (change : Option String → String) :
    Except FileError Directory := do
  match ← d.place path with
  | .directory _ | .entry _ true => throw .isDirectory
  | .entry name false => return d.put name (change (d.find? name))

/-- A text at a path, in place of what is there. -/
def overwrite (d : Directory) (path text : String) : Except FileError Directory :=
  d.write path fun _ => text

/-- A text after what is at a path. The file is created if there is none. -/
def append (d : Directory) (path text : String) : Except FileError Directory :=
  d.write path fun known => known.getD "" ++ text

end Directory

end RegistryDedup
