import RegistryDedup.Proofs.Files.Directory
import RegistryDedup.Proofs.Interleaving
import RegistryDedup.Proofs.Merge.EarlyEnd

/-!
# Runs that exclude each other

Runs that write take a lock file before they look at any entity, and remove it however they end. Of
any number of runs with the same lock file, in whatever order they act, one at a time gets beyond
that point.

- `HoldsLock`: a run has the lock. `LockStep`: what a run may ask next, by whether it has.
- `Directory.hosting`: a directory with the lock file and the journals of runs.
- `LockCourse`: runs that act in some order, while others change the files between their actions.
  The lock file is removed from outside only while no run has the lock.
- `Guarded`: the file is there while a run has the lock, and no two runs have it. Each action keeps
  this, by the phase that its run is in (`LockCourse.guarded`).
- `mergeAll_excluded`: what follows for the runs.
-/

namespace RegistryDedup

open Interface.Environment

variable {ι : Type} [DecidableEq ι] {s : Settings} {backend run path : String}
  {asked : Transcript} {e : Action.interface.Exchange} {h : Action.interface.Joint ι}
  {d d' start : Directory} {i j : ι} {f : Failure}

/-! ## A run and its lock -/

/-- An action on a lock. -/
def Action.Locks : Action → Prop
  | acquireLock _ | releaseLock _ => True
  | _ => False

theorem Action.Looks.not_locks {a : Action} (ha : a.Looks) : ¬ a.Locks := by
  cases a <;> first | exact id | exact absurd ha id

theorem Action.Serves.not_locks {g : DuplicateGroup} {a : Action} (ha : a.Serves s g) :
    ¬ a.Locks := by
  cases ha with
  | counting ha => exact ha.looks.not_locks
  | noting ha => obtain rfl | ⟨path, entry, rfl⟩ := ha <;> exact id
  | merging selection => exact id
  | moving ha =>
    obtain ⟨d, -, l, -, rfl⟩ := ha
    exact id
  | deleting ha =>
    obtain ⟨l, -, rfl⟩ := ha
    exact id

/-- Between the taking of its lock and its end a run does nothing with locks. -/
theorem only_mergeJournaled_unlocked :
    (mergeJournaled s backend run).Only fun a : Action => ¬ a.Locks := by
  have hfetched : (mergeFetched s backend run).Only fun a : Action => ¬ a.Locks :=
    only_mergeFetched id fun g => (only_mergeGroup s run g).mono fun _ ha => ha.not_locks
  unfold mergeJournaled
  split
  · exact hfetched
  · refine ⟨id, fun x => ?_⟩
    cases x with
    | error f => trivial
    | ok _ => exact hfetched

/-- A lock that is granted. -/
abbrev lockTaken (path : String) : Action.interface.Exchange :=
  ⟨.acquireLock path, (.ok () : Except Failure Unit)⟩

/-- A lock that is refused. -/
abbrev lockRefused (path : String) (f : Failure) : Action.interface.Exchange :=
  ⟨.acquireLock path, (.error f : Except Failure Unit)⟩

/-- A lock that is given back. -/
abbrev lockGiven (path : String) : Action.interface.Exchange :=
  ⟨.releaseLock path, ()⟩

/-- A run has a lock: it has taken it, and has not given it back. -/
def HoldsLock (path : String) (asked : Transcript) : Prop :=
  lockTaken path ∈ asked ∧ ∀ e ∈ asked, e.1 ≠ .releaseLock path

/-- A run with a lock at some point. -/
inductive LockPhase (s : Settings) (backend run path : String) : Transcript → Prop where
  | looking {checking : Transcript} (hchecking : ∀ e ∈ checking, e.1.Checks) :
      LockPhase s backend run path checking
  | refused {checking : Transcript} {f : Failure} (hchecking : ∀ e ∈ checking, e.1.Checks)
      (hend : (mergeAll s backend run).Yields
        (checking ++ [lockRefused path f]) (.error (.trouble (.ofFailure f)))) :
      LockPhase s backend run path (checking ++ [lockRefused path f])
  | holding {checking working : Transcript} (hchecking : ∀ e ∈ checking, e.1.Checks)
      (hworking : ∀ e ∈ working, ¬ e.1.Locks) :
      LockPhase s backend run path (checking ++ lockTaken path :: working)
  | released {checking working : Transcript} (hchecking : ∀ e ∈ checking, e.1.Checks)
      (hworking : ∀ e ∈ working, ¬ e.1.Locks) :
      LockPhase s backend run path
        ((checking ++ lockTaken path :: working) ++ [lockGiven path])

/-- A run with a lock is in one of the phases. -/
theorem asks_lockPhase (hlock : s.writeLock = some path)
    (ha : (mergeAll s backend run).Asks asked) : LockPhase s backend run path asked := by
  rw [mergeAll, Program.bind_eq, Program.asks_bind] at ha
  rcases ha with ha | ⟨reply, checking, rest, rfl, hpreflight, ha⟩
  · exact .looking ((only_preflight s).asks ha)
  have hchecking := (only_preflight s).yields hpreflight
  cases reply with
  | error f =>
    rw [Program.asks_done.mp ha, List.append_nil]
    exact .looking hchecking
  | ok _ =>
    have hlocked : (mergeLocked s backend run).Asks rest := ha
    unfold mergeLocked at hlocked
    simp only [hlock] at hlocked
    rcases hlocked with rfl | ⟨x, rest, rfl, hrest⟩
    · rw [List.append_nil]
      exact .looking hchecking
    cases x with
    | error f =>
      obtain rfl := Program.asks_done.mp hrest
      refine .refused hchecking ?_
      rw [mergeAll, Program.bind_eq, Program.yields_bind]
      refine ⟨.ok (), checking, _, rfl, hpreflight, ?_⟩
      show (mergeLocked s backend run).Yields _ _
      unfold mergeLocked
      simp only [hlock]
      exact ⟨_, _, rfl, rfl, rfl⟩
    | ok _ =>
      change ((mergeJournaled s backend run).bind _).Asks rest at hrest
      rcases Program.asks_bind.mp hrest with hwork | ⟨result, working, last, rfl, hresult, hlast⟩
      · exact .holding hchecking (only_mergeJournaled_unlocked.asks hwork)
      · have hworking := only_mergeJournaled_unlocked.yields hresult
        rcases hlast with rfl | ⟨_, _, rfl, rfl⟩
        · rw [List.append_nil]
          exact .holding hchecking hworking
        · rw [← List.cons_append, ← List.append_assoc]
          exact .released hchecking hworking

/-- A run that had its lock and has come to its end has given it back. -/
theorem released_of_yields (hlock : s.writeLock = some path) {result : Except Stop Summary}
    (hy : (mergeAll s backend run).Yields asked result) (htaken : lockTaken path ∈ asked) :
    ∃ e ∈ asked, e.1 = .releaseLock path := by
  rw [mergeAll, Program.bind_eq, Program.yields_bind] at hy
  obtain ⟨reply, checking, rest, rfl, hpreflight, hy⟩ := hy
  have hlater : lockTaken path ∈ rest := by
    refine (List.mem_append.mp htaken).resolve_left fun hmem => ?_
    obtain ⟨table, columns, hcheck⟩ := (only_preflight s).yields hpreflight _ hmem
    cases hcheck
  cases reply with
  | error f =>
    obtain ⟨rfl, -⟩ := hy
    cases hlater
  | ok _ =>
    have hlocked : (mergeLocked s backend run).Yields rest result := hy
    unfold mergeLocked at hlocked
    simp only [hlock] at hlocked
    obtain ⟨x, rest, rfl, hrest⟩ := hlocked
    cases x with
    | error f =>
      obtain ⟨rfl, -⟩ := hrest
      cases List.mem_singleton.mp hlater
    | ok _ =>
      change ((mergeJournaled s backend run).bind _).Yields rest result at hrest
      obtain ⟨_, working, last, rfl, -, _, _, rfl, -⟩ := Program.yields_bind.mp hrest
      refine ⟨lockGiven path, ?_, rfl⟩
      refine List.mem_append_right _ (List.mem_cons_of_mem _ (List.mem_append_right _ ?_))
      exact List.mem_cons_self

/-! ## Steps -/

/-- What a run asks next, by what it has asked up to now. -/
inductive LockStep (path : String) (asked : Transcript) (e : Action.interface.Exchange) : Prop where
  | looks (hasked : ∀ e' ∈ asked, e'.1.Checks) (he : e.1.Checks)
  | takes (x : Except Failure Unit) (hasked : ∀ e' ∈ asked, e'.1.Checks)
      (he : e = ⟨.acquireLock path, x⟩)
  | works (hholds : HoldsLock path asked) (he : ¬ e.1.Locks)
  | gives (hholds : HoldsLock path asked) (he : e = lockGiven path)

theorem holdsLock_of_working {checking working : Transcript}
    (hchecking : ∀ e ∈ checking, e.1.Checks) (hworking : ∀ e ∈ working, ¬ e.1.Locks) :
    HoldsLock path (checking ++ lockTaken path :: working) := by
  refine ⟨List.mem_append_right _ List.mem_cons_self, fun e he hrelease => ?_⟩
  rcases List.mem_append.mp he with he | he
  · obtain ⟨table, columns, hcheck⟩ := hchecking e he
    cases hcheck.symm.trans hrelease
  · rcases List.mem_cons.mp he with rfl | he
    · cases hrelease
    · refine hworking e he ?_
      rw [hrelease]
      trivial

/-- A lock that is had before and after is had in between. -/
theorem HoldsLock.between {first middle last : Transcript} (hfirst : HoldsLock path first)
    (hlast : HoldsLock path (first ++ (middle ++ last))) : HoldsLock path (first ++ middle) := by
  refine ⟨List.mem_append_left _ hfirst.1, fun e he => hlast.2 e ?_⟩
  rw [← List.append_assoc]
  exact List.mem_append_left _ he

/-- The phases of a run settle its steps. -/
theorem LockPhase.step (hp : LockPhase s backend run path (asked ++ [e])) :
    LockStep path asked e := by
  generalize hall : asked ++ [e] = all at hp
  cases hp with
  | looking hchecking =>
    subst hall
    rw [List.forall_mem_append] at hchecking
    exact .looks hchecking.1 (hchecking.2 e List.mem_cons_self)
  | refused hchecking =>
    obtain ⟨rfl, hlast⟩ := List.append_inj' hall rfl
    exact .takes _ hchecking (List.cons.inj hlast).1
  | @holding checking working hchecking hworking =>
    rcases List.eq_nil_or_concat working with rfl | ⟨front, last, rfl⟩
    · obtain ⟨rfl, hlast⟩ := List.append_inj' hall rfl
      exact .takes _ hchecking (List.cons.inj hlast).1
    · rw [List.concat_eq_append] at hall hworking
      rw [← List.cons_append, ← List.append_assoc] at hall
      obtain ⟨rfl, hlast⟩ := List.append_inj' hall rfl
      obtain rfl := (List.cons.inj hlast).1
      rw [List.forall_mem_append] at hworking
      exact .works (holdsLock_of_working hchecking hworking.1) (hworking.2 e List.mem_cons_self)
  | released hchecking hworking =>
    obtain ⟨rfl, hlast⟩ := List.append_inj' hall rfl
    exact .gives (holdsLock_of_working hchecking hworking) (List.cons.inj hlast).1

/-- A run that gives a lock back had taken it. -/
theorem LockStep.taken_of_gives (hstep : LockStep path asked e) (he : e.1 = .releaseLock path) :
    lockTaken path ∈ asked := by
  cases hstep with
  | looks _ hlooks =>
    obtain ⟨table, columns, hcheck⟩ := hlooks
    cases hcheck.symm.trans he
  | takes x _ htakes =>
    subst htakes
    cases he
  | works _ hworks =>
    rw [he] at hworks
    exact absurd trivial hworks
  | gives hholds _ => exact hholds.1

/-- A run that changes something has the lock. -/
theorem LockStep.holds_of_alters (hstep : LockStep path asked e) (he : e.1.Alters) :
    HoldsLock path asked := by
  cases hstep with
  | looks _ hlooks => exact absurd he hlooks.quiet.not_alters
  | takes x _ htakes =>
    subst htakes
    obtain ⟨r, -, hcall⟩ := he
    cases hcall
  | works hholds _ => exact hholds
  | gives hholds _ => exact hholds

/-- A run that is refused has come to its end, and has only looked for columns before. -/
theorem LockPhase.of_refused (hp : LockPhase s backend run path asked)
    (hrefused : lockRefused path f ∈ asked) :
    (mergeAll s backend run).Yields asked (.error (.trouble (.ofFailure f))) ∧
      ∀ e ∈ asked, e.1.Checks ∨ e = lockRefused path f := by
  have hnot : ∀ {checking : Transcript}, (∀ e ∈ checking, e.1.Checks) →
      lockRefused path f ∉ checking := by
    intro checking hchecking hmem
    obtain ⟨table, columns, hcheck⟩ := hchecking _ hmem
    cases hcheck
  have hnone : ∀ {checking working : Transcript}, (∀ e ∈ checking, e.1.Checks) →
      (∀ e ∈ working, ¬ e.1.Locks) →
      lockRefused path f ∉ checking ++ lockTaken path :: working := by
    intro checking working hchecking hworking hmem
    rcases List.mem_append.mp hmem with hmem | hmem
    · exact hnot hchecking hmem
    · rcases List.mem_cons.mp hmem with heq | hmem
      · cases heq
      · exact hworking _ hmem trivial
  cases hp with
  | looking hchecking => exact absurd hrefused (hnot hchecking)
  | refused hchecking hend =>
    rcases List.mem_append.mp hrefused with hmem | hmem
    · exact absurd hmem (hnot hchecking)
    · cases List.mem_singleton.mp hmem
      refine ⟨hend, fun e he => ?_⟩
      exact (List.mem_append.mp he).imp (hchecking e) List.mem_singleton.mp
  | holding hchecking hworking => exact absurd hrefused (hnone hchecking hworking)
  | released hchecking hworking =>
    rcases List.mem_append.mp hrefused with hmem | hmem
    · exact absurd hmem (hnone hchecking hworking)
    · cases List.mem_singleton.mp hmem

/-! ## Files -/

/-- A directory with the lock file and the journals of runs. A journal gets some text, or none. The
stores are elsewhere. -/
def Directory.hosting : Action.interface.Environment Directory
  | .acquireLock path, d, x, d' => ∃ holder, match Lock.acquire d path holder with
    | .ok locked => x = Except.ok () ∧ d' = locked
    | .error f => x = Except.error f ∧ d' = d
  | .releaseLock path, d, _, d' => d' = Lock.release d path
  | .openJournal path, d, _, d' => d' = d ∨ ∃ text, d.append path text = .ok d'
  | .appendJournal path _, d, _, d' => d' = d ∨ ∃ text, d.append path text = .ok d'
  | .call _, d, _, d' => d' = d
  | .pick _, d, _, d' => d' = d
  | .now, d, _, d' => d' = d

theorem hosting_looks (he : e.1.Looks) (hd : Directory.hosting e.1 d e.2 d') : d' = d := by
  obtain ⟨a, x⟩ := e
  cases a with
  | call r => exact hd
  | pick others => exact hd
  | _ => exact absurd he id

/-- Beside the lock itself a run leaves what is there. -/
theorem hosting_unlocked (he : ¬ e.1.Locks) (hd : Directory.hosting e.1 d e.2 d') :
    d' = d ∨ ∃ other text, d.append other text = .ok d' := by
  obtain ⟨a, x⟩ := e
  cases a with
  | openJournal other => exact hd.imp id fun ⟨text, h⟩ => ⟨other, text, h⟩
  | appendJournal other entry => exact hd.imp id fun ⟨text, h⟩ => ⟨other, text, h⟩
  | acquireLock other => exact absurd trivial he
  | releaseLock other => exact absurd trivial he
  | _ => exact .inl hd

/-- A world has such a directory. -/
theorem hosting_answer {σ : Type} (store : Store σ) (a : Action) (w : World σ) :
    Directory.hosting a w.directory (World.answer store a w).1
      (World.answer store a w).2.directory := by
  cases a with
  | acquireLock path =>
    refine ⟨⟨w.process, w.clock⟩, ?_⟩
    simp only [World.answer]
    cases Lock.acquire w.directory path ⟨w.process, w.clock⟩ with
    | ok locked => exact ⟨rfl, rfl⟩
    | error f => exact ⟨rfl, rfl⟩
  | openJournal path =>
    simp only [World.answer]
    cases happend : w.directory.append path "" with
    | ok written => exact .inr ⟨_, happend⟩
    | error f => exact .inl rfl
  | appendJournal path entry =>
    simp only [World.answer]
    cases happend : w.directory.append path (Journal.append "" entry) with
    | ok written => exact .inr ⟨_, happend⟩
    | error f => exact .inl rfl
  | _ => rfl

/-! ## Courses -/

/-- Runs with one lock file that act in some order. Between their actions others may do anything to
other files. They do not make a lock file, and remove it only while no run has the lock. -/
inductive LockCourse (path : String) (programs : ι → Run (Except Stop Summary))
    (start : Directory) : Action.interface.Joint ι → Directory → Prop where
  | start : LockCourse path programs start [] start
  | acted {h : Action.interface.Joint ι} {d d' : Directory} {i : ι}
      {e : Action.interface.Exchange} (hc : LockCourse path programs start h d)
      (hasks : (programs i).Asks (partOf i h ++ [e])) (he : Directory.hosting e.1 d e.2 d') :
      LockCourse path programs start (h ++ [(i, e)]) d'
  | outside {h : Action.interface.Joint ι} {d d' : Directory}
      (hc : LockCourse path programs start h d) (hroot : d'.root = d.root)
      (hnone : d'.hasPath path = true → d.hasPath path = true)
      (hkept : (∃ i, HoldsLock path (partOf i h)) → d.hasPath path = true →
        d'.hasPath path = true) :
      LockCourse path programs start h d'

theorem partOf_snoc (i j : ι) (h : Action.interface.Joint ι) (e : Action.interface.Exchange) :
    partOf j (h ++ [(i, e)]) = if i = j then partOf j h ++ [e] else partOf j h := by
  rw [partOf_append]
  by_cases hij : i = j
  · subst hij
    rw [if_pos rfl, partOf_cons_self, partOf_nil]
  · rw [if_neg hij, partOf_cons_of_ne hij, partOf_nil, List.append_nil]

namespace LockCourse

variable {programs : ι → Run (Except Stop Summary)}

theorem interleaved (hc : LockCourse path programs start h d) :
    Program.Interleaved programs h := by
  induction hc with
  | start => exact fun i => Program.asks_nil _
  | @acted h d d' i e _ hasks _ ih =>
    intro j
    rw [partOf_snoc]
    by_cases hij : i = j
    · subst hij
      rw [if_pos rfl]
      exact hasks
    · rw [if_neg hij]
      exact ih j
  | outside _ _ _ _ ih => exact ih

/-- A course up to an earlier point. -/
theorem of_append {h' : Action.interface.Joint ι}
    (hc : LockCourse path programs start (h ++ h') d) :
    ∃ d', LockCourse path programs start h d' := by
  generalize hall : h ++ h' = all at hc
  induction hc generalizing h' with
  | start =>
    obtain ⟨rfl, -⟩ := List.append_eq_nil_iff.mp hall
    exact ⟨_, .start⟩
  | @acted all d d' i e hc hasks he ih =>
    rcases List.eq_nil_or_concat h' with rfl | ⟨front, last, rfl⟩
    · rw [List.append_nil] at hall
      subst hall
      exact ⟨_, .acted hc hasks he⟩
    · rw [List.concat_eq_append, ← List.append_assoc] at hall
      exact ih (List.append_inj' hall rfl).1
  | outside _ _ _ _ ih => exact ih hall

/-- Runs that nobody disturbs. -/
theorem of_follows (hp : Program.Interleaved programs h)
    (hf : Directory.hosting.Follows start (h.map (·.2)) d) :
    LockCourse path programs start h d := by
  induction h using List.reverseRecOn generalizing d with
  | nil =>
    obtain rfl := hf
    exact .start
  | append_singleton h last ih =>
    obtain ⟨i, e⟩ := last
    rw [List.map_append] at hf
    obtain ⟨d', hf, he⟩ := follows_append.mp hf
    rw [List.map_singleton, follows_singleton] at he
    have hasks := hp i
    rw [partOf_snoc, if_pos rfl] at hasks
    exact .acted (ih hp.of_append hf) hasks he

end LockCourse

/-! ## The lock file and its holder -/

/-- The lock file is there while a run has the lock, and one run has it at most. -/
structure Guarded (path : String) (h : Action.interface.Joint ι) (d : Directory) : Prop where
  held : ∀ i, HoldsLock path (partOf i h) →
    d.hasPath path = true ∧ ∀ j, HoldsLock path (partOf j h) → j = i
  /-- After a run that had it, the file is there only while another one has it. -/
  free : (∃ i, ∃ e ∈ partOf i h, e.1 = .releaseLock path) →
    (∀ i, ¬ HoldsLock path (partOf i h)) → d.hasPath path = false
  placed : (∃ i, lockTaken path ∈ partOf i h) → ∃ name, d.place path = .ok (.entry name false)

namespace Guarded

theorem initial (path : String) (d : Directory) :
    Guarded path ([] : Action.interface.Joint ι) d where
  held i hholds := by cases hholds.1
  free := by
    rintro ⟨i, e, he, -⟩
    cases he
  placed := by
    rintro ⟨i, he⟩
    cases he

/-- What is done neither to take a lock nor to give one back, where the file stays as it is. -/
theorem unchanged (hg : Guarded path h d)
    (htakes : e ≠ lockTaken path) (hgives : e.1 ≠ .releaseLock path) (hroot : d'.root = d.root)
    (hpath : d'.hasPath path = d.hasPath path) : Guarded path (h ++ [(i, e)]) d' := by
  have hmem : ∀ j e', e' ∈ partOf j (h ++ [(i, e)]) → e' ∈ partOf j h ∨ e' = e := by
    intro j e' he'
    rw [partOf_snoc] at he'
    split at he'
    · exact (List.mem_append.mp he').imp id List.mem_singleton.mp
    · exact .inl he'
  have hmem' : ∀ j e', e' ∈ partOf j h → e' ∈ partOf j (h ++ [(i, e)]) := by
    intro j e' he'
    rw [partOf_append]
    exact List.mem_append_left _ he'
  have hsame : ∀ j, HoldsLock path (partOf j (h ++ [(i, e)])) ↔ HoldsLock path (partOf j h) := by
    intro j
    constructor
    · rintro ⟨htaken, hkept⟩
      refine ⟨(hmem j _ htaken).resolve_right (Ne.symm htakes), fun e' he' => ?_⟩
      exact hkept e' (hmem' j e' he')
    · rintro ⟨htaken, hkept⟩
      refine ⟨hmem' j _ htaken, fun e' he' => ?_⟩
      rcases hmem j e' he' with he' | rfl
      · exact hkept e' he'
      · exact hgives
  refine { held := ?_, free := ?_, placed := ?_ }
  · intro j hholds
    simp only [hsame] at hholds ⊢
    rw [hpath]
    exact hg.held j hholds
  · rintro ⟨j, e', he', hrelease⟩ hnone
    simp only [hsame] at hnone
    rw [hpath]
    refine hg.free ⟨j, e', (hmem j e' he').resolve_right ?_, hrelease⟩ hnone
    rintro rfl
    exact hgives hrelease
  · rintro ⟨j, htaken⟩
    obtain ⟨name, hplace⟩ := hg.placed ⟨j, (hmem j _ htaken).resolve_right (Ne.symm htakes)⟩
    exact ⟨name, Directory.place_mono hroot hplace⟩

/-- A lock that is granted. No run had it before, or its file would have been there. -/
theorem taken (hg : Guarded path h d) (hasked : ∀ e' ∈ partOf i h, e'.1.Checks)
    {holder : Lock.Holder} (hd : Lock.acquire d path holder = .ok d') :
    Guarded path (h ++ [(i, lockTaken path)]) d' := by
  obtain ⟨name, hplace, hnone, rfl⟩ := Lock.acquire_eq_ok.mp hd
  have hplace' := Directory.place_mono (Directory.root_put d name holder.text) hplace
  have hthere : (d.put name holder.text).hasPath path = true := by
    rw [Directory.hasPath_of_place hplace', Directory.find?_put, if_pos rfl]
    rfl
  have hfree : ∀ j, ¬ HoldsLock path (partOf j h) := by
    intro j hholds
    have hfile := (hg.held j hholds).1
    rw [Directory.hasPath_of_place hplace, hnone] at hfile
    cases hfile
  have honly : ∀ j, HoldsLock path (partOf j (h ++ [(i, lockTaken path)])) → j = i := by
    intro j hholds
    by_contra hji
    rw [partOf_snoc, if_neg (Ne.symm hji)] at hholds
    exact hfree j hholds
  have hholds : HoldsLock path (partOf i (h ++ [(i, lockTaken path)])) := by
    rw [partOf_snoc, if_pos rfl]
    exact holdsLock_of_working hasked (List.forall_mem_nil _)
  refine { held := ?_, free := ?_, placed := ?_ }
  · intro j hj
    obtain rfl := honly j hj
    exact ⟨hthere, honly⟩
  · intro _ hnobody
    exact absurd hholds (hnobody i)
  · intro _
    exact ⟨name, hplace'⟩

/-- A lock that is given back by the run that has it. -/
theorem given (hg : Guarded path h d) (hholds : HoldsLock path (partOf i h))
    (hd : d' = Lock.release d path) :
    Guarded path (h ++ [(i, lockGiven path)]) d' := by
  obtain ⟨hfile, honly⟩ := hg.held i hholds
  obtain ⟨name, hplace⟩ := hg.placed ⟨i, hholds.1⟩
  rw [Lock.release_eq hplace hfile] at hd
  subst hd
  have hplace' := Directory.place_mono (Directory.root_without d name) hplace
  have hnobody : ∀ j, ¬ HoldsLock path (partOf j (h ++ [(i, lockGiven path)])) := by
    intro j hj
    rw [partOf_snoc] at hj
    by_cases hij : i = j
    · rw [if_pos hij] at hj
      exact hj.2 _ (List.mem_append_right _ List.mem_cons_self) rfl
    · rw [if_neg hij] at hj
      exact hij (honly j hj).symm
  refine { held := ?_, free := ?_, placed := ?_ }
  · intro j hj
    exact absurd hj (hnobody j)
  · intro _ _
    rw [Directory.hasPath_of_place hplace', Directory.find?_without, if_pos rfl]
    rfl
  · intro _
    exact ⟨name, hplace'⟩

/-- What a run does next. -/
theorem acted (hg : Guarded path h d) (hstep : LockStep path (partOf i h) e)
    (hd : Directory.hosting e.1 d e.2 d') : Guarded path (h ++ [(i, e)]) d' := by
  cases hstep with
  | looks _ he =>
    obtain rfl := hosting_looks he.looks hd
    obtain ⟨table, columns, hcheck⟩ := he
    refine hg.unchanged ?_ ?_ rfl rfl
    · rintro rfl
      cases hcheck
    · intro hrelease
      cases hcheck.symm.trans hrelease
  | takes x hasked he =>
    subst he
    obtain ⟨holder, hd⟩ := hd
    cases hacquire : Lock.acquire d path holder with
    | ok locked =>
      rw [hacquire] at hd
      obtain ⟨rfl, rfl⟩ := hd
      exact hg.taken hasked hacquire
    | error f =>
      rw [hacquire] at hd
      obtain ⟨rfl, rfl⟩ := hd
      refine hg.unchanged ?_ ?_ rfl rfl
      · intro heq
        cases heq
      · intro heq
        cases heq
  | works hholds he =>
    obtain ⟨hfile, -⟩ := hg.held i hholds
    obtain ⟨name, hplace⟩ := hg.placed ⟨i, hholds.1⟩
    have htakes : e ≠ lockTaken path := by
      rintro rfl
      exact he trivial
    have hgives : e.1 ≠ .releaseLock path := by
      intro hrelease
      rw [hrelease] at he
      exact he trivial
    -- The journal may even be at the path of the lock: nothing that is there goes away.
    rcases hosting_unlocked he hd with rfl | ⟨other, text, happend⟩
    · exact hg.unchanged htakes hgives rfl rfl
    · have hroot : d'.root = d.root := by
        obtain ⟨name', -, rfl⟩ := Directory.append_eq_ok.mp happend
        rfl
      refine hg.unchanged htakes hgives hroot ?_
      rw [hfile, Directory.hasPath_append happend hplace hfile]
  | gives hholds he =>
    subst he
    exact hg.given hholds hd

/-- What others do meanwhile. -/
theorem outside (hg : Guarded path h d) (hroot : d'.root = d.root)
    (hnone : d'.hasPath path = true → d.hasPath path = true)
    (hkept : (∃ i, HoldsLock path (partOf i h)) → d.hasPath path = true → d'.hasPath path = true) :
    Guarded path h d' where
  held i hholds := ⟨hkept ⟨i, hholds⟩ (hg.held i hholds).1, (hg.held i hholds).2⟩
  free hgiven hnobody := by
    have hfree := hg.free hgiven hnobody
    by_contra hfile
    rw [Bool.not_eq_false] at hfile
    exact Bool.false_ne_true (hfree.symm.trans (hnone hfile))
  placed htaken := by
    obtain ⟨name, hplace⟩ := hg.placed htaken
    exact ⟨name, Directory.place_mono hroot hplace⟩

end Guarded

/-- Runs that take their steps with a lock guard it at every point. -/
theorem LockCourse.guarded {programs : ι → Run (Except Stop Summary)}
    (hsteps : ∀ i asked e, (programs i).Asks (asked ++ [e]) → LockStep path asked e)
    (hc : LockCourse path programs start h d) : Guarded path h d := by
  induction hc with
  | start => exact .initial path start
  | acted _ hasks he ih => exact ih.acted (hsteps _ _ _ hasks) he
  | outside _ hroot hnone hkept ih => exact ih.outside hroot hnone hkept

/-- A refusal was answered by the lock file. -/
theorem LockCourse.kind_of_refused {programs : ι → Run (Except Stop Summary)}
    (hc : LockCourse path programs start h d) (hrefused : lockRefused path f ∈ partOf i h) :
    f.kind = .config := by
  induction hc with
  | start => cases hrefused
  | @acted h d d' j e _ _ he ih =>
    rw [partOf_snoc] at hrefused
    by_cases hji : j = i
    · rw [if_pos hji] at hrefused
      rcases List.mem_append.mp hrefused with hmem | hmem
      · exact ih hmem
      · obtain rfl := List.mem_singleton.mp hmem
        obtain ⟨holder, hd⟩ := he
        cases hacquire : Lock.acquire d path holder with
        | ok locked =>
          rw [hacquire] at hd
          cases hd.1
        | error f' =>
          rw [hacquire] at hd
          obtain rfl : f = f' := Except.error.inj hd.1
          exact Lock.kind_of_acquire hacquire
    · rw [if_neg hji] at hrefused
      exact ih hrefused
  | outside _ _ _ _ ih => exact ih hrefused

/-! ## Runs together -/

/-- What a lock does for some runs, at some point. -/
structure Excluded (path : String) (programs : ι → Run (Except Stop Summary))
    (h : Action.interface.Joint ι) (d : Directory) : Prop where
  /-- No two runs have the lock. -/
  single : ∀ i j, HoldsLock path (partOf i h) → HoldsLock path (partOf j h) → i = j
  /-- A run merges, moves and deletes only while it has the lock. -/
  guarded : ∀ front i e back, h = front ++ (i, e) :: back → e.1.Alters →
    HoldsLock path (partOf i front)
  /-- Between two such calls of one run there is none of another. -/
  apart : ∀ front i first middle j other rest last back,
    h = front ++ (i, first) :: (middle ++ (j, other) :: (rest ++ (i, last) :: back)) →
    first.1.Alters → other.1.Alters → last.1.Alters → j = i
  /-- A run that is refused the lock has ended, with an error of configuration. It has changed
  nothing, and all files are as they were. -/
  refused : ∀ i f, lockRefused path f ∈ partOf i h → f.kind = .config ∧
    (programs i).Yields (partOf i h) (.error (.trouble (.ofFailure f))) ∧
    ∀ e ∈ partOf i h, ¬ e.1.Alters ∧ ∀ d d', Directory.hosting e.1 d e.2 d' → d' = d
  /-- A run that had the lock and has ended has given it back. -/
  ended : ∀ i result, (programs i).Yields (partOf i h) result → lockTaken path ∈ partOf i h →
    ∃ e ∈ partOf i h, e.1 = .releaseLock path
  /-- After that the file is gone, and the next run gets the lock. -/
  free : (∃ i, ∃ e ∈ partOf i h, e.1 = .releaseLock path) →
    (∀ i, ¬ HoldsLock path (partOf i h)) →
    d.hasPath path = false ∧ ∀ holder, ∃ d', Lock.acquire d path holder = .ok d'

/-- Each action of a course is a step of its run. -/
theorem LockCourse.step_at {programs : ι → Run (Except Stop Summary)}
    (hsteps : ∀ i asked e, (programs i).Asks (asked ++ [e]) → LockStep path asked e)
    {back : Action.interface.Joint ι}
    (hc : LockCourse path programs start (h ++ (i, e) :: back) d) :
    LockStep path (partOf i h) e := by
  rw [← List.singleton_append, ← List.append_assoc] at hc
  have hasks := hc.interleaved.of_append i
  rw [partOf_snoc, if_pos rfl] at hasks
  exact hsteps i _ e hasks

/-- Any number of runs that write and have one lock file, whatever the stores answer, at any point
and in whatever order they act. The lock file is not made by others, and is removed by others only
while no run has the lock. -/
theorem mergeAll_excluded {settings : ι → Settings} {backends runs : ι → String}
    (hlock : ∀ i, (settings i).writeLock = some path)
    (hc : LockCourse path (fun i => mergeAll (settings i) (backends i) (runs i)) start h d) :
    Excluded path (fun i => mergeAll (settings i) (backends i) (runs i)) h d := by
  have hphase : ∀ i, LockPhase (settings i) (backends i) (runs i) path (partOf i h) :=
    fun i => asks_lockPhase (hlock i) (hc.interleaved i)
  have hsteps : ∀ i asked e,
      (mergeAll (settings i) (backends i) (runs i)).Asks (asked ++ [e]) → LockStep path asked e :=
    fun i asked e ha => (asks_lockPhase (hlock i) ha).step
  have hguarded : ∀ front i e back, h = front ++ (i, e) :: back → e.1.Alters →
      HoldsLock path (partOf i front) := by
    rintro front i e back rfl he
    exact (hc.step_at hsteps).holds_of_alters he
  have hnow := hc.guarded hsteps
  refine { single := ?_, guarded := hguarded, apart := ?_, refused := ?_, ended := ?_, free := ?_ }
  · intro i j hi hj
    exact (hnow.held j hj).2 i hi
  · intro front i first middle j other rest last back hall hfirst hother hlast
    -- At the call in between the first run still has the lock, and so has the other one.
    have hsplit :
        h = (front ++ (i, first) :: middle) ++ (j, other) :: (rest ++ (i, last) :: back) := by
      rw [hall]
      simp
    have hend :
        h = (front ++ (i, first) :: (middle ++ (j, other) :: rest)) ++ (i, last) :: back := by
      rw [hall]
      simp
    have hhas := hguarded _ _ _ _ hall hfirst
    have hlater := hguarded _ _ _ _ hend hlast
    have hi : HoldsLock path (partOf i (front ++ (i, first) :: middle)) := by
      rw [← List.cons_append, partOf_append, partOf_append] at hlater
      rw [partOf_append]
      exact hhas.between hlater
    have hj := hguarded _ _ _ _ hsplit hother
    rw [hsplit] at hc
    obtain ⟨d', hc'⟩ := hc.of_append
    exact ((hc'.guarded hsteps).held i hi).2 j hj
  · intro i f hrefused
    obtain ⟨hend, hlooked⟩ := (hphase i).of_refused hrefused
    refine ⟨hc.kind_of_refused hrefused, hend, fun e he => ?_⟩
    rcases hlooked e he with hchecks | rfl
    · exact ⟨hchecks.quiet.not_alters, fun d d' hd => hosting_looks hchecks.looks hd⟩
    · refine ⟨fun ⟨r, _, hcall⟩ => (nomatch hcall), fun d d' hd => ?_⟩
      obtain ⟨holder, hd⟩ := hd
      cases hacquire : Lock.acquire d path holder with
      | ok locked =>
        rw [hacquire] at hd
        cases hd.1
      | error f' =>
        rw [hacquire] at hd
        exact hd.2
  · intro i result hy htaken
    exact released_of_yields (hlock i) hy htaken
  · intro hgiven hnobody
    have hgone := hnow.free hgiven hnobody
    obtain ⟨i, e, he, hrelease⟩ := hgiven
    obtain ⟨front, back, rfl⟩ := List.append_of_mem (mem_partOf.mp he)
    have htaken := (hc.step_at hsteps).taken_of_gives hrelease
    obtain ⟨name, hplace⟩ := hnow.placed ⟨i, by
      rw [partOf_append]
      exact List.mem_append_left _ htaken⟩
    refine ⟨hgone, fun holder => ⟨_, Lock.acquire_eq_ok.mpr ⟨name, hplace, ?_, rfl⟩⟩⟩
    rwa [Directory.hasPath_of_place hplace, Option.isSome_eq_false_iff, Option.isNone_iff_eq_none]
      at hgone

namespace Sample

/-- The settings of before with a lock file. -/
def locked : Settings :=
  { settings with lockFile := some "run.lock" }

/-- Three runs. The second one is refused while the first has the lock, and the third one begins
when the first has ended. -/
def queued : Program.Woven (Fin 3) Action.interface (Except Stop Summary) (World Tables) :=
  Program.weave (World.answer Tables.store)
    ([((0 : Fin 3), 4), (1, 3), (0, 6), (2, 6)].flatMap fun (i, turns) => List.replicate turns i)
    (fun _ => mergeAll locked "memory" "run") (world tables)

end Sample

/-- The lock is had by the first run and by the third one, and then its file is gone. -/
theorem mergeAll_excluded_sample :
    Sample.queued.joint.filterMap (fun (i, e) => match e with
      | ⟨.acquireLock _, x⟩ => match (x : Except Failure Unit) with
        | .ok _ => some (i, "taken")
        | .error _ => some (i, "refused")
      | ⟨.releaseLock _, _⟩ => some (i, "given back")
      | ⟨.call r, _⟩ => if r.Changes then some (i, r.describe) else none
      | _ => none) =
      [(0, "taken"), (1, "refused"), (0, "merge FOO r1 r2"),
        (0, "repoint projects region_id r2 r1"), (0, "delete_ids regions id r2"),
        (0, "given back"), (2, "taken"), (2, "given back")] ∧
    Sample.queued.state.directory.files = [] ∧
    Excluded "run.lock" (fun _ => mergeAll Sample.locked "memory" "run") Sample.queued.joint
      Sample.queued.state.directory := by
  have hinterleaved : Program.Interleaved (fun _ => mergeAll Sample.locked "memory" "run")
      Sample.queued.joint :=
    Program.interleaved_weave _ _ _ _
  have hfollows : Directory.hosting.Follows (Sample.world Sample.tables).directory
      (Sample.queued.joint.map (·.2)) Sample.queued.state.directory :=
    Program.follows_weave World.directory (hosting_answer Tables.store) _ _ _
  refine ⟨by decide +kernel, by decide +kernel, ?_⟩
  exact mergeAll_excluded (fun _ => rfl) (.of_follows hinterleaved hfollows)

end RegistryDedup
