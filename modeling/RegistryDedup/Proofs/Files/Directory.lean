import RegistryDedup.Files.Lock
import RegistryDedup.Proofs.Store.Tables

/-!
# Files of a directory

What an operation leaves of the files, and when it succeeds. Where a path leads to is settled by the
path alone if it leads to anything: a file on the way is no directory, and only makes a difference
to what is reported.

- `Directory.find?_put`, `Directory.find?_without`: the files after one was written or removed.
- `Directory.place_mono`: a path that leads to something does so among any files.
- `Directory.read_of_find?`: the text at a path that leads to the name of a file.
- `Directory.append_eq_ok`: where a text can be appended, and what is there afterwards.
- `Lock.acquire_eq_ok`, `Lock.release_eq`: the lock file is created where there is none, and
  removed.
-/

namespace RegistryDedup

namespace Directory

variable {d d' : Directory} {path name text : String} {p : Place}

/-! ## Files by name -/

theorem find?_without (d : Directory) (name n : String) :
    (d.without name).find? n = if n = name then none else d.find? n := by
  unfold find? without
  induction d.files with
  | nil => simp
  | cons file files ih =>
    obtain ⟨m, text⟩ := file
    by_cases hm : m = name
    · -- The file goes, and with it what is found under its name.
      have hgone : ((m, text) :: files).filter (·.1 != name) = files.filter (·.1 != name) :=
        List.filter_cons_of_neg (by simp [hm])
      rw [hgone, ih, lookup_cons_eq]
      by_cases hn : n = name
      · rw [if_pos hn, if_pos hn]
      · rw [if_neg hn, if_neg hn, if_neg fun heq => hn (heq.trans hm)]
    · have hkept : ((m, text) :: files).filter (·.1 != name) =
          (m, text) :: files.filter (·.1 != name) :=
        List.filter_cons_of_pos (by simp [hm])
      rw [hkept, lookup_cons_eq, ih, lookup_cons_eq]
      by_cases hn : n = m
      · rw [if_pos hn, if_pos hn, if_neg fun heq => hm (hn.symm.trans heq)]
      · rw [if_neg hn, if_neg hn]

theorem find?_put (d : Directory) (name text n : String) :
    (d.put name text).find? n = if n = name then some text else d.find? n := by
  have hwithout := find?_without d name n
  unfold find? at hwithout ⊢
  show ((d.without name).files ++ [(name, text)]).lookup n = _
  rw [List.lookup_append, hwithout, lookup_cons_eq]
  by_cases hn : n = name
  · simp [hn]
  · simp [hn]

@[simp] theorem root_put (d : Directory) (name text : String) : (d.put name text).root = d.root :=
  rfl

@[simp] theorem root_without (d : Directory) (name : String) : (d.without name).root = d.root :=
  rfl

/-! ## Paths -/

theorem follow_mono {slash : Bool} {up : Nat} {parts : List (List Char)}
    (h : d.follow slash up parts = .ok p) : d'.follow slash up parts = .ok p := by
  induction parts generalizing up with
  | nil => exact h
  | cons part rest ih =>
    unfold follow at h ⊢
    by_cases hdot : (part == ['.']) = true
    · rw [if_pos hdot] at h ⊢
      exact ih h
    · rw [if_neg hdot] at h ⊢
      by_cases hup : (part == ['.', '.']) = true
      · rw [if_pos hup] at h ⊢
        exact ih h
      · rw [if_neg hup] at h ⊢
        by_cases hlong : maxNameLength < Text.byteLength part
        · rw [if_pos hlong] at h
          cases h
        · rw [if_neg hlong] at h ⊢
          by_cases hlast : rest.isEmpty = true
          · rw [if_pos hlast] at h ⊢
            exact h
          · -- A part that is not the last one leads nowhere, whether there is a file or not.
            rw [if_neg hlast] at h
            split at h <;> cases h

/-- A path that leads to something does so among any files. -/
theorem place_mono (hroot : d'.root = d.root) (h : d.place path = .ok p) :
    d'.place path = .ok p := by
  unfold place at h ⊢
  rw [hroot]
  dsimp only at h ⊢
  by_cases hnull : path.toList.contains '\x00' = true
  · rw [if_pos hnull] at h
    cases h
  rw [if_neg hnull] at h ⊢
  by_cases hlong : maxPathLength < Text.byteLength path.toList
  · rw [if_pos hlong] at h
    cases h
  rw [if_neg hlong] at h ⊢
  split at h
  · exact h
  · by_cases hslashes : (‹List Char›.all (· == '/')) = true
    · rw [if_pos hslashes] at h ⊢
      exact h
    · rw [if_neg hslashes] at h ⊢
      exact follow_mono h
  · by_cases hnone : (path.toList.isEmpty || Text.beginsWith "/" path) = true
    · rw [if_pos hnone] at h
      cases h
    · rw [if_neg hnone] at h ⊢
      exact follow_mono h

/-! ## Writing -/

/-- Whether a file is there at a path that leads to a name. -/
theorem hasPath_of_place (hplace : d.place path = .ok (.entry name false)) :
    d.hasPath path = (d.find? name).isSome := by
  unfold Directory.hasPath
  rw [hplace]
  exact Bool.and_true _

/-- The file at a path that leads to its name. -/
theorem fileAt_of_find? (hplace : d.place path = .ok (.entry name false))
    (hfind : d.find? name = some text) : d.fileAt path = .ok (name, text) := by
  unfold fileAt
  rw [hplace]
  dsimp only [bind, Except.bind]
  rw [hfind]
  rfl

theorem read_of_find? (hplace : d.place path = .ok (.entry name false))
    (hfind : d.find? name = some text) : d.read path = .ok text := by
  unfold read
  rw [fileAt_of_find? hplace hfind]
  rfl

/-- A text is read where a path leads to the name of a file, with no slash after it. -/
theorem read_eq_ok : d.read path = .ok text ↔
    ∃ name, d.place path = .ok (.entry name false) ∧ d.find? name = some text := by
  constructor
  · intro h
    unfold Directory.read fileAt at h
    cases hplace : d.place path with
    | error e =>
      rw [hplace] at h
      cases h
    | ok p =>
      rw [hplace] at h
      cases p with
      | directory slash => cases h
      | entry name slash =>
        dsimp only [bind, Except.bind] at h
        cases hfind : d.find? name with
        | none =>
          rw [hfind] at h
          cases h
        | some found =>
          rw [hfind] at h
          cases slash with
          | true => cases h
          | false =>
            cases h
            exact ⟨name, rfl, hfind⟩
  · rintro ⟨name, hplace, hfind⟩
    exact read_of_find? hplace hfind

/-- A text is written where a path leads to the name of a file, with no slash after it. -/
theorem write_eq_ok {change : Option String → String} : d.write path change = .ok d' ↔
    ∃ name, d.place path = .ok (.entry name false) ∧ d' = d.put name (change (d.find? name)) := by
  constructor
  · intro h
    unfold write at h
    cases hplace : d.place path with
    | error e =>
      rw [hplace] at h
      cases h
    | ok p =>
      rw [hplace] at h
      cases p with
      | directory slash => cases h
      | entry name slash =>
        cases slash with
        | true => cases h
        | false => exact ⟨name, rfl, (Except.ok.inj h).symm⟩
  · rintro ⟨name, hplace, rfl⟩
    unfold write
    rw [hplace]
    rfl

/-- A text is appended where one can be written. -/
theorem append_eq_ok : d.append path text = .ok d' ↔
    ∃ name, d.place path = .ok (.entry name false) ∧
      d' = d.put name ((d.find? name).getD "" ++ text) :=
  write_eq_ok

/-- A file is created where a path leads to the name of one that is not there. -/
theorem create_eq_ok : d.create path text = .ok d' ↔
    ∃ name, d.place path = .ok (.entry name false) ∧ d.find? name = none ∧
      d' = d.put name text := by
  constructor
  · intro h
    unfold create at h
    cases hplace : d.place path with
    | error e =>
      rw [hplace] at h
      cases h
    | ok p =>
      rw [hplace] at h
      cases p with
      | directory slash => cases h
      | entry name slash =>
        cases slash with
        | true => cases h
        | false =>
          change (if (d.find? name).isSome then throw FileError.alreadyExists
            else return d.put name text : Except FileError Directory) = .ok d' at h
          by_cases hfind : (d.find? name).isSome
          · rw [if_pos hfind] at h
            cases h
          · rw [if_neg hfind] at h
            exact ⟨name, rfl, by simpa using hfind, (Except.ok.inj h).symm⟩
  · rintro ⟨name, hplace, hfind, rfl⟩
    unfold create
    rw [hplace]
    dsimp only [bind, Except.bind]
    rw [hfind]
    rfl

/-- What is there is there after a text was appended to any file. -/
theorem hasPath_append {other : String} (h : d.append other text = .ok d')
    (hplace : d.place path = .ok (.entry name false)) (hpath : d.hasPath path = true) :
    d'.hasPath path = true := by
  obtain ⟨name', -, rfl⟩ := append_eq_ok.mp h
  rw [hasPath_of_place hplace] at hpath
  rw [hasPath_of_place (place_mono (root_put d name' _) hplace), find?_put]
  split
  · rfl
  · exact hpath

end Directory

/-! ## The lock file -/

namespace Lock

variable {d d' : Directory} {path name : String} {holder : Holder} {f : Failure}

/-- A lock is granted where its file can be created. -/
theorem acquire_eq_ok : acquire d path holder = .ok d' ↔
    ∃ name, d.place path = .ok (.entry name false) ∧ d.find? name = none ∧
      d' = d.put name holder.text := by
  rw [← Directory.create_eq_ok]
  unfold acquire
  split
  · next hok => rw [hok, Except.ok.injEq, Except.ok.injEq]
  · next herror =>
    rw [herror]
    constructor
    · intro h
      cases h
    · intro h
      cases h
  · next herror =>
    rw [herror]
    constructor
    · intro h
      cases h
    · intro h
      cases h

/-- A lock that is refused is a matter of configuration. -/
theorem kind_of_acquire (h : acquire d path holder = .error f) : f.kind = .config := by
  unfold acquire at h
  split at h
  · cases h
  · cases h
    rfl
  · cases h
    rfl

/-- A lock file that is there is gone when the lock is given back. -/
theorem release_eq (hplace : d.place path = .ok (.entry name false))
    (hpath : d.hasPath path = true) : release d path = d.without name := by
  rw [Directory.hasPath_of_place hplace] at hpath
  obtain ⟨text, htext⟩ := Option.isSome_iff_exists.mp hpath
  unfold release Directory.remove
  rw [Directory.fileAt_of_find? hplace htext]
  rfl

end Lock

end RegistryDedup
