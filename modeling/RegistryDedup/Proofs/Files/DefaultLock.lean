import RegistryDedup.Command.Options
import RegistryDedup.Proofs.Except
import RegistryDedup.Proofs.Files.Directory
import RegistryDedup.Proofs.Registry.Identifier
import RegistryDedup.Sql.Statement

/-!
# The lock file of a table

Where a run does not say otherwise, the name of its lock file is made from the name of its table as
it is written. A database takes a name without a schema for one in the schema `public`, so that a
table may be written in two ways, and has two lock files.

- `place_of_file`: what a path leads to ends as the path does.
- `acquire_put_iff`: a lock beside another one.
- `splitTable_eq_iff`: the names of one table.
- `defaultPath_eq_iff`: when runs on one table have one lock file, and what a lock is worth where
  they have two.
-/

namespace RegistryDedup

open Text

/-! ## Files of a directory -/

namespace Directory

variable {d d' : Directory} {name name' text : String} {file file' : List Char} {up up' : Nat}
  {slash slash' : Bool}

/-- A file that may be named by the last part of a path. -/
structure FileName (file : List Char) : Prop where
  ne_nil : file ≠ []
  ne_dot : file ≠ ['.']
  ne_dots : file ≠ ['.', '.']
  not_mem : '/' ∉ file

/-- The last part of the name of a file above the root is the name of the file. -/
theorem getLast?_splitOn_nameAbove (hfile : '/' ∉ file) (up : Nat) :
    (splitOn '/' (nameAbove up file).toList).getLast? = some file := by
  rw [nameAbove, String.toList_ofList]
  induction up with
  | zero =>
    rw [List.replicate_zero, List.flatten_nil, List.nil_append, splitOn_of_not_mem hfile]
    rfl
  | succ up ih =>
    have hstep : (List.replicate (up + 1) "../".toList).flatten ++ file =
        ['.', '.'] ++ '/' :: ((List.replicate up "../".toList).flatten ++ file) := by
      rw [List.replicate_succ, List.flatten_cons, List.append_assoc]
      rfl
    rw [hstep, splitOn_append, List.getLast?_append, ih]
    rfl

theorem nameAbove_inj (hfile : '/' ∉ file) (hfile' : '/' ∉ file')
    (h : nameAbove up file = nameAbove up' file') : file = file' := by
  have hlast := getLast?_splitOn_nameAbove hfile up
  rw [h, getLast?_splitOn_nameAbove hfile' up'] at hlast
  exact (Option.some.inj hlast).symm

/-- The last part of a path names what it leads to. -/
theorem follow_of_file (hfile : FileName file) {parts : List (List Char)}
    (h : d.follow slash up (parts ++ [file]) = .ok (.entry name slash')) :
    ∃ up', name = nameAbove up' file := by
  induction parts generalizing up with
  | nil =>
    rw [List.nil_append, follow] at h
    rw [if_neg (by simpa using hfile.ne_dot), if_neg (by simpa using hfile.ne_dots)] at h
    split at h
    · cases h
    · cases h
      exact ⟨up, rfl⟩
  | cons part parts ih =>
    rw [List.cons_append, follow] at h
    split at h
    · exact ih h
    · split at h
      · exact ih h
      · split at h
        · cases h
        · rw [if_neg (by simp)] at h
          split at h <;> cases h

/-- A path is walked to its last part. -/
theorem follow_parts_of_file (hfile : FileName file) {s : List Char}
    (hs : s = file ∨ ∃ front, s = front ++ '/' :: file)
    (h : d.follow slash up ((splitOn '/' s).filter (!·.isEmpty)) = .ok (.entry name slash')) :
    ∃ up', name = nameAbove up' file := by
  have hself : splitOn '/' file = [file] := splitOn_of_not_mem hfile.not_mem
  have hparts : ∃ front, splitOn '/' s = front ++ [file] := by
    rcases hs with rfl | ⟨front, rfl⟩
    · exact ⟨[], hself⟩
    · exact ⟨splitOn '/' front, by rw [splitOn_append, hself]⟩
  obtain ⟨front, hparts⟩ := hparts
  have hkept : [file].filter (!·.isEmpty) = [file] := by
    simpa using hfile.ne_nil
  rw [hparts, List.filter_append, hkept] at h
  exact follow_of_file hfile h

/-- What follows the root in a path still ends as the path does. -/
theorem eq_or_append_of_root {directory root rest : List Char} (hfile : '/' ∉ file)
    (h : directory ++ '/' :: file = root ++ '/' :: rest) :
    rest = file ∨ ∃ front, rest = front ++ '/' :: file := by
  rcases List.append_eq_append_iff.mp h with ⟨more, -, hmore⟩ | ⟨more, -, hmore⟩
  · cases more with
    | nil => exact .inl (List.cons.inj hmore).2.symm
    | cons c more =>
      refine absurd ?_ hfile
      rw [(List.cons.inj hmore).2]
      exact List.mem_append_right _ List.mem_cons_self
  · cases more with
    | nil => exact .inl (List.cons.inj hmore).2
    | cons c more => exact .inr ⟨more, (List.cons.inj hmore).2⟩

/-- A path of a file leads to that file, wherever its directory is. -/
theorem place_of_file (hfile : FileName file) {path : String} {directory : List Char}
    (hpath : path.toList = directory ++ '/' :: file)
    (h : d.place path = .ok (.entry name slash)) : ∃ up, name = nameAbove up file := by
  unfold place at h
  dsimp only at h
  split at h
  · cases h
  · split at h
    · cases h
    · split at h
      · cases h
      · next rest hrest =>
        split at h
        · cases h
        · rw [afterLead_eq_some, hpath] at hrest
          exact follow_parts_of_file hfile (eq_or_append_of_root hfile.not_mem hrest) h
      · split at h
        · cases h
        · exact follow_parts_of_file hfile (.inr ⟨directory, hpath⟩) h

end Directory

/-! ## Locks beside each other -/

namespace Lock

variable {d d' : Directory} {path path' name : String} {holder holder' : Holder}
  {directory file file' : List Char}

/-- A lock is refused just where it is not granted. -/
theorem acquire_eq_error_iff : (∃ f, acquire d path holder = .error f) ↔
    ∀ name, d.place path = .ok (.entry name false) → (d.find? name).isSome := by
  have hgranted : (∃ f, acquire d path holder = .error f) ↔
      ¬ ∃ d', acquire d path holder = .ok d' := by
    cases acquire d path holder with
    | ok locked => exact iff_of_false (fun ⟨f, h⟩ => by cases h) fun h => h ⟨locked, rfl⟩
    | error f => exact iff_of_true ⟨f, rfl⟩ fun ⟨locked, h⟩ => by cases h
  simp only [hgranted, acquire_eq_ok, not_exists, not_and]
  constructor
  · intro h name hplace
    by_contra hnone
    exact h _ name hplace (by simpa using hnone) rfl
  · intro h locked name hplace hnone
    have hsome := h name hplace
    rw [hnone] at hsome
    cases hsome

/-- A lock that was granted refuses the lock of a path that ends in the same name, and changes
nothing for one that ends in another. -/
theorem acquire_locked_iff (hfile : Directory.FileName file) (hfile' : Directory.FileName file')
    (hpath : path.toList = directory ++ '/' :: file)
    (hpath' : path'.toList = directory ++ '/' :: file')
    (hlocked : acquire d path holder = .ok d') :
    (∃ f, acquire d' path' holder' = .error f) ↔
      file = file' ∨ ∃ f, acquire d path' holder' = .error f := by
  obtain ⟨name, hplace, -, rfl⟩ := acquire_eq_ok.mp hlocked
  simp only [acquire_eq_error_iff, Directory.find?_put]
  have hback : ∀ n, (d.put name holder.text).place path' = .ok (.entry n false) ↔
      d.place path' = .ok (.entry n false) := fun n =>
    ⟨Directory.place_mono rfl, Directory.place_mono rfl⟩
  simp only [hback]
  constructor
  · intro h
    by_cases hsame : file = file'
    · exact .inl hsame
    · refine .inr fun n hn => ?_
      have hsome := h n hn
      rwa [if_neg] at hsome
      obtain ⟨up, rfl⟩ := Directory.place_of_file hfile hpath hplace
      obtain ⟨up', rfl⟩ := Directory.place_of_file hfile' hpath' hn
      exact fun heq => hsame (Directory.nameAbove_inj hfile'.not_mem hfile.not_mem heq).symm
  · rintro (rfl | h) n hn
    · have hpaths : path' = path := String.toList_injective (hpath'.trans hpath.symm)
      rw [hpaths, hplace] at hn
      cases hn
      rw [if_pos rfl]
      rfl
    · split
      · rfl
      · exact h n hn

/-- The name of the lock file of a table. -/
def defaultFile (table : String) : String :=
  "forest-admin-" ++ replaced "." "_" table ++ ".lock"

theorem toList_defaultFile (table : String) : (defaultFile table).toList =
    "forest-admin-".toList ++ (replaced "." "_" table).toList ++ ".lock".toList := by
  rw [defaultFile, String.toList_append, String.toList_append]

theorem toList_defaultPath (temporary table : String) :
    (defaultPath temporary table).toList =
      temporary.toList ++ '/' :: (defaultFile table).toList := by
  have hslash : "/forest-admin-".toList = '/' :: "forest-admin-".toList := by decide +kernel
  rw [defaultPath, String.toList_append, String.toList_append, String.toList_append, hslash,
    toList_defaultFile, List.append_assoc, List.append_assoc, List.append_assoc, List.cons_append]

/-- The name of a table in the name of its lock file: a dot gives one character, as any other
character does. -/
theorem toList_replaced_dot (table : String) : (replaced "." "_" table).toList =
    table.toList.map fun c => if '.' = c then '_' else c := by
  have hdot : ".".toList = ['.'] := rfl
  have hmark : "_".toList = ['_'] := rfl
  rw [replaced, String.toList_ofList, hdot, hmark, replaceAll_singleton, List.map_eq_flatMap]
  refine List.flatMap_congr fun c _ => ?_
  split <;> rfl

theorem length_defaultFile (table : String) :
    (defaultFile table).toList.length = table.toList.length + 18 := by
  have hfront : "forest-admin-".toList.length = 13 := by decide +kernel
  have hback : ".lock".toList.length = 5 := by decide +kernel
  rw [toList_defaultFile, List.length_append, List.length_append, toList_replaced_dot,
    List.length_map, hfront, hback]
  omega

theorem fileName_defaultFile {table : String} (h : isIdentifier table) :
    Directory.FileName (defaultFile table).toList := by
  have hlong : ∀ other : List Char, other.length < 18 → (defaultFile table).toList ≠ other := by
    rintro other hlt rfl
    rw [length_defaultFile] at hlt
    omega
  have htable : '/' ∉ table.toList :=
    (isIdentifier_iff.mp h).not_mem rfl (by decide) (by decide)
  refine ⟨hlong _ (by decide), hlong _ (by decide), hlong _ (by decide), ?_⟩
  rw [toList_defaultFile, toList_replaced_dot]
  simp only [List.mem_append, List.mem_map, not_or, not_exists, not_and]
  refine ⟨⟨by decide +kernel, fun c hc => ?_⟩, by decide +kernel⟩
  split
  · decide
  · exact fun hslash => htable (hslash ▸ hc)

theorem defaultFile_public_ne (table : String) :
    defaultFile ("public." ++ table) ≠ defaultFile table := by
  intro h
  have hlength : (defaultFile ("public." ++ table)).toList.length =
      (defaultFile table).toList.length := by rw [h]
  have hfront : "public.".toList.length = 7 := by decide +kernel
  rw [length_defaultFile, length_defaultFile, String.toList_append, List.length_append] at hlength
  omega

end Lock

namespace Sql

variable {t₁ t₂ : String}

/-- A name with a dot has a schema, and any other is in the schema `public`. -/
theorem splitTable_cases (t : String) :
    splitTable t = ("public", t) ∨ t = (splitTable t).1 ++ "." ++ (splitTable t).2 := by
  rw [splitTable, cutFirst]
  cases hcut : cutAtFirst '.' t.toList with
  | none => exact .inl rfl
  | some pair =>
    obtain ⟨schema, name⟩ := pair
    refine .inr (String.toList_injective ?_)
    rw [(cutAtFirst_eq_some_iff.mp hcut).1]
    simp

/-- Two names of one table are the same, or differ in the schema that goes without saying. -/
theorem eq_or_public_of_splitTable (h : splitTable t₁ = splitTable t₂) :
    t₁ = t₂ ∨ t₂ = "public." ++ t₁ ∨ t₁ = "public." ++ t₂ := by
  rcases splitTable_cases t₁ with h₁ | h₁
  · rcases splitTable_cases t₂ with h₂ | h₂
    · exact .inl (congrArg Prod.snd ((h₁.symm.trans h).trans h₂))
    · rw [← h, h₁] at h₂
      exact .inr (.inl h₂)
  · rcases splitTable_cases t₂ with h₂ | h₂
    · rw [h, h₂] at h₁
      exact .inr (.inr h₁)
    · rw [h, ← h₂] at h₁
      exact .inl h₁

end Sql

/-! ## Runs -/

/-- A run that writes, on a table and without a word about its lock. -/
def DefaultRun (temporary table : String) (s : Settings) : Prop :=
  ∃ (o : DedupeOptions) (env : Environment), o.settings env temporary = .ok s ∧
    o.lockFile = none ∧ o.noLock = false ∧ s.dryRun = false ∧ s.entity.table = table

theorem table_of_toTable {o : EntityOptions} {entity : EntityTable}
    (h : Trouble.ofReply o.toTable = .ok entity) : entity.table = o.table := by
  cases htable : o.toTable with
  | error f =>
    rw [htable] at h
    cases h
  | ok t =>
    rw [htable] at h
    obtain rfl := Except.ok.inj h
    obtain ⟨-, -, heq⟩ := bind_eq_ok_iff.mp htable
    rw [← Except.ok.inj heq]

/-- Such a run has the lock file that is made from the name of its table. -/
theorem DefaultRun.writeLock {temporary table : String} {s : Settings}
    (h : DefaultRun temporary table s) :
    s.writeLock = some (Lock.defaultPath temporary table) := by
  obtain ⟨o, env, hsettings, hfile, hlock, hwrites, rfl⟩ := h
  obtain ⟨entity, hentity, hsettings⟩ := bind_eq_ok_iff.mp hsettings
  obtain ⟨dependents, -, hsettings⟩ := bind_eq_ok_iff.mp hsettings
  obtain ⟨-, -, hsettings⟩ := bind_eq_ok_iff.mp hsettings
  obtain rfl := Except.ok.inj hsettings
  rw [Settings.writeLock, hwrites]
  show o.lockPath temporary = some (Lock.defaultPath temporary entity.table)
  rw [DedupeOptions.lockPath, hlock, hfile, table_of_toTable hentity]
  rfl

/-- Two names of one table give one lock file just where they are the same name. -/
theorem defaultFile_eq_iff {t₁ t₂ : String}
    (hsame : Sql.splitTable t₁ = Sql.splitTable t₂) :
    Lock.defaultFile t₁ = Lock.defaultFile t₂ ↔ t₁ = t₂ := by
  refine ⟨fun h => ?_, fun h => h ▸ rfl⟩
  rcases Sql.eq_or_public_of_splitTable hsame with heq | rfl | rfl
  · exact heq
  · exact absurd h.symm (Lock.defaultFile_public_ne t₁)
  · exact absurd h (Lock.defaultFile_public_ne t₂)

/-- Runs on one table that say nothing of a lock have one lock file where they write the name of the
table in the same way, and only there. Otherwise the one name has the schema `public` and the other
has none, and the lock of the one run makes no difference to the other. -/
theorem defaultPath_eq_iff {t₁ t₂ : String} (h₁ : isIdentifier t₁) (h₂ : isIdentifier t₂)
    (hsame : Sql.splitTable t₁ = Sql.splitTable t₂) (temporary : String) :
    (Lock.defaultPath temporary t₁ = Lock.defaultPath temporary t₂ ↔ t₁ = t₂) ∧
    (t₁ = t₂ ∨ t₂ = "public." ++ t₁ ∨ t₁ = "public." ++ t₂) ∧
    ∀ s₁ s₂, DefaultRun temporary t₁ s₁ → DefaultRun temporary t₂ s₂ →
      ∃ path₁ path₂, s₁.writeLock = some path₁ ∧ s₂.writeLock = some path₂ ∧
        ∀ d locked holder₁ holder₂, Lock.acquire d path₁ holder₁ = .ok locked →
          ((∃ f, Lock.acquire locked path₂ holder₂ = .error f) ↔
            t₁ = t₂ ∨ ∃ f, Lock.acquire d path₂ holder₂ = .error f) := by
  have hfiles := defaultFile_eq_iff hsame
  refine ⟨?_, Sql.eq_or_public_of_splitTable hsame, fun s₁ s₂ hs₁ hs₂ => ?_⟩
  · rw [← hfiles, ← String.toList_inj, Lock.toList_defaultPath, Lock.toList_defaultPath,
      List.append_cancel_left_eq, List.cons.injEq, ← String.toList_inj]
    exact and_iff_right rfl
  · refine ⟨_, _, hs₁.writeLock, hs₂.writeLock, fun d locked holder₁ holder₂ hlocked => ?_⟩
    rw [← hfiles, ← String.toList_inj]
    exact Lock.acquire_locked_iff (Lock.fileName_defaultFile h₁) (Lock.fileName_defaultFile h₂)
      (Lock.toList_defaultPath temporary t₁) (Lock.toList_defaultPath temporary t₂) hlocked

namespace LockSample

/-- A run on a table that says nothing of a lock. -/
def options (table : String) : DedupeOptions :=
  { entity := { table }, tables := some "projects:region_id" }

/-- No file. -/
def directory : Directory := ⟨"/tmp", []⟩

/-- Who has the locks. -/
def holder : Lock.Holder := ⟨1, (Instant.ofEpoch? 345600 0).get rfl⟩

theorem exists_defaultRun {table : String}
    (h : ((options table).settings [] "/tmp").toOption.map (fun s => (s.dryRun, s.entity.table)) =
      some (false, table)) : ∃ s, DefaultRun "/tmp" table s := by
  cases hsettings : (options table).settings [] "/tmp" with
  | error e =>
    rw [hsettings] at h
    cases h
  | ok s =>
    rw [hsettings] at h
    obtain ⟨hwrites, htable⟩ := Prod.mk.inj (Option.some.inj h)
    exact ⟨s, options table, [], hsettings, rfl, rfl, hwrites, htable⟩

end LockSample

/-- Two runs on one table, one of which writes its schema, have their locks at the same time. -/
theorem defaultPath_eq_iff_sample :
    Sql.splitTable "regions" = Sql.splitTable "public.regions" ∧
    ∃ s₁ s₂ path₁ path₂ locked, DefaultRun "/tmp" "regions" s₁ ∧
      DefaultRun "/tmp" "public.regions" s₂ ∧ s₁.writeLock = some path₁ ∧
      s₂.writeLock = some path₂ ∧
      Lock.acquire LockSample.directory path₁ LockSample.holder = .ok locked ∧
      ¬ ∃ f, Lock.acquire locked path₂ LockSample.holder = .error f := by
  have hsame : Sql.splitTable "regions" = Sql.splitTable "public.regions" := by decide +kernel
  obtain ⟨s₁, hs₁⟩ : ∃ s, DefaultRun "/tmp" "regions" s :=
    LockSample.exists_defaultRun (by decide +kernel)
  obtain ⟨s₂, hs₂⟩ : ∃ s, DefaultRun "/tmp" "public.regions" s :=
    LockSample.exists_defaultRun (by decide +kernel)
  obtain ⟨path₁, path₂, hpath₁, hpath₂, hlocks⟩ :=
    (defaultPath_eq_iff (by decide +kernel) (by decide +kernel) hsame "/tmp").2.2 s₁ s₂ hs₁ hs₂
  obtain rfl := Option.some.inj (hpath₁.symm.trans hs₁.writeLock)
  obtain rfl := Option.some.inj (hpath₂.symm.trans hs₂.writeLock)
  have hplace₁ : LockSample.directory.place (Lock.defaultPath "/tmp" "regions") =
      .ok (.entry "forest-admin-regions.lock" false) := by decide +kernel
  have hplace₂ : LockSample.directory.place (Lock.defaultPath "/tmp" "public.regions") =
      .ok (.entry "forest-admin-public_regions.lock" false) := by decide +kernel
  have hlocked : Lock.acquire LockSample.directory (Lock.defaultPath "/tmp" "regions")
      LockSample.holder = .ok (LockSample.directory.put _ _) :=
    Lock.acquire_eq_ok.mpr ⟨_, hplace₁, rfl, rfl⟩
  refine ⟨hsame, s₁, s₂, _, _, _, hs₁, hs₂, hpath₁, hpath₂, hlocked, ?_⟩
  rw [hlocks _ _ _ _ hlocked]
  rintro (heq | hrefused)
  · exact absurd heq (by decide +kernel)
  · exact Bool.false_ne_true (Lock.acquire_eq_error_iff.mp hrefused _ hplace₂)

end RegistryDedup
