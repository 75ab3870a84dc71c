import RegistryDedup.Proofs.Merge.Course

/-!
# The exits of a run

A run that comes to its end leaves by one of several exits, and each has a result of its own. The
accounts here have one case for each exit.

- `GroupsExit`: the groups of a run. They are all handled, or the run gives up after one of them, or
  the entry of one of them cannot be written to the journal.
- `FetchedExit`: a run from its first fetch on. The look at the table at its end may fail.
- `RunExit`: a whole run. Before its first fetch the tables and columns are looked for, the lock is
  taken and the journal is opened, each of which may fail.
- `RunFrame`: a run that got as far as its groups. Around them nothing is asked for any group
  (`yields_frame`).
-/

namespace RegistryDedup

variable {s : Settings} {backend run : String} {h : Transcript}

/-! ## Groups -/

/-- The groups of a run up to its exit, after some groups in a row that failed transiently and with
some reports already made. -/
inductive GroupsExit (s : Settings) (run : String) (partialOf : List GroupReport → Summary) :
    List DuplicateGroup → (streak : Nat) → (done : List GroupReport) → Transcript →
    Except Stop (List GroupReport) → Prop where
  | finished {streak : Nat} {done : List GroupReport} :
      GroupsExit s run partialOf [] streak done [] (.ok done)
  | unwritten {g : DuplicateGroup} {groups : List DuplicateGroup} {streak : Nat}
      {done : List GroupReport} {asked : Transcript} {stop : Stop}
      (hlast : (mergeGroup s run g).Yields asked (.error stop)) :
      GroupsExit s run partialOf (g :: groups) streak done asked (.error stop)
  | gaveUp {g : DuplicateGroup} {groups : List DuplicateGroup} {streak : Nat}
      {done : List GroupReport} {asked : Transcript} {report : GroupReport} {reason : String}
      (hlast : (mergeGroup s run g).Yields asked (.ok (report, true)))
      (hlimit : max s.maxFailuresInARow 1 ≤ streak + 1)
      (hreason : reason = abortReason (streak + 1) g.key) :
      GroupsExit s run partialOf (g :: groups) streak done asked
        (.error (.aborted reason { partialOf (done ++ [report]) with aborted := some reason }))
  | next {g : DuplicateGroup} {groups : List DuplicateGroup} {streak : Nat}
      {done : List GroupReport} {asked rest : Transcript} {report : GroupReport}
      {transient : Bool} {result : Except Stop (List GroupReport)}
      (hfirst : (mergeGroup s run g).Yields asked (.ok (report, transient)))
      (hlimit : transient = true → streak + 1 < max s.maxFailuresInARow 1)
      (hrest : GroupsExit s run partialOf groups (if transient then streak + 1 else 0)
        (done ++ [report]) rest result) :
      GroupsExit s run partialOf (g :: groups) streak done (asked ++ rest) result

theorem yields_groupsExit {partialOf : List GroupReport → Summary} {groups : List DuplicateGroup}
    {streak : Nat} {done : List GroupReport} {result : Except Stop (List GroupReport)}
    (hy : (mergeGroups s run partialOf groups streak done).Yields h result) :
    GroupsExit s run partialOf groups streak done h result := by
  induction groups generalizing h streak done with
  | nil =>
    obtain ⟨rfl, rfl⟩ := hy
    exact .finished
  | cons g groups ih =>
    rw [mergeGroups, Program.bind_eq, Program.yields_bind] at hy
    obtain ⟨outcome, asked, rest, rfl, hg, hy⟩ := hy
    cases outcome with
    | error stop =>
      obtain ⟨rfl, rfl⟩ := hy
      rw [List.append_nil]
      exact .unwritten hg
    | ok outcome =>
      obtain ⟨report, transient⟩ := outcome
      cases transient with
      | false =>
        dsimp only at hy
        rw [if_neg fun hlimit => Bool.false_ne_true hlimit.1] at hy
        exact .next hg (fun htransient => absurd htransient Bool.false_ne_true) (ih hy)
      | true =>
        dsimp only at hy
        by_cases hlimit : max s.maxFailuresInARow 1 ≤ streak + 1
        · rw [if_pos ⟨rfl, hlimit⟩] at hy
          obtain ⟨rfl, rfl⟩ := hy
          rw [List.append_nil]
          exact .gaveUp hg hlimit rfl
        · rw [if_neg fun hboth => hlimit hboth.2] at hy
          exact .next hg (fun _ => Nat.lt_of_not_le hlimit) (ih hy)

/-! ## A run from its first fetch on -/

/-- The candidates of some entities up to the exit of a run. -/
abbrev CandidatesExit (s : Settings) (backend run : String) (entities : List Entity) :
    Transcript → Except Stop (List GroupReport) → Prop :=
  GroupsExit s run (summarize s backend run entities.length · [])
    (Grouping.build s.normalizer entities).candidates 0 []

/-- What is asked after the groups, and the result of a run, by what became of its groups. -/
inductive Closed (s : Settings) (backend run : String) (entities : List Entity) :
    Except Stop (List GroupReport) → Transcript → Except Stop Summary → Prop where
  | stopped {stop : Stop} : Closed s backend run entities (.error stop) [] (.error stop)
  | unverified {reports : List GroupReport} {looking : Transcript} {f : Failure}
      (hlooking : (Run.fetchEntities s.retry s.entity).Yields looking (.error f)) :
      Closed s backend run entities (.ok reports) looking
        (.error (.trouble ((Trouble.ofFailure f).within "verification failed")))
  | verified {reports : List GroupReport} {looking : Transcript} {left : List Entity}
      (hlooking : (Run.fetchEntities s.retry s.entity).Yields looking (.ok left)) :
      Closed s backend run entities (.ok reports) looking
        (.ok (summarize s backend run entities.length reports
          (Grouping.build s.normalizer left).residuals))

/-- A run from its first fetch on. -/
inductive FetchedExit (s : Settings) (backend run : String) :
    Transcript → Except Stop Summary → Prop where
  | unread {fetching : Transcript} {f : Failure}
      (hfetch : (Run.fetchEntities s.retry s.entity).Yields fetching (.error f)) :
      FetchedExit s backend run fetching
        (.error (.trouble ((Trouble.ofFailure f).within "fetching primary entities")))
  | read {fetching merging closing : Transcript} {entities : List Entity}
      {groups : Except Stop (List GroupReport)} {result : Except Stop Summary}
      (hfetch : (Run.fetchEntities s.retry s.entity).Yields fetching (.ok entities))
      (hgroups : CandidatesExit s backend run entities merging groups)
      (hclosed : Closed s backend run entities groups closing result) :
      FetchedExit s backend run (fetching ++ (merging ++ closing)) result

theorem yields_fetchedExit {result : Except Stop Summary}
    (hy : (mergeFetched s backend run).Yields h result) : FetchedExit s backend run h result := by
  rw [mergeFetched, Program.bind_eq, Program.yields_bind] at hy
  obtain ⟨reply, fetching, rest, rfl, hfetch, hy⟩ := hy
  cases reply with
  | error f =>
    obtain ⟨rfl, rfl⟩ := hy
    rw [List.append_nil]
    exact .unread hfetch
  | ok entities =>
    dsimp only [stopOn, Program.bind_eq] at hy
    rw [Program.yields_bind] at hy
    obtain ⟨groups, merging, closing, rfl, hmerging, hy⟩ := hy
    refine .read hfetch (yields_groupsExit hmerging) ?_
    cases groups with
    | error stop =>
      obtain ⟨rfl, rfl⟩ := hy
      exact .stopped
    | ok reports =>
      dsimp only [findResiduals, Program.bind_eq] at hy
      rw [Program.bind_assoc, Program.yields_bind] at hy
      obtain ⟨reply, looking, last, rfl, hlooking, hy⟩ := hy
      cases reply with
      | error f =>
        obtain ⟨rfl, rfl⟩ := hy
        rw [List.append_nil]
        exact .unverified hlooking
      | ok left =>
        obtain ⟨rfl, rfl⟩ := hy
        rw [List.append_nil]
        exact .verified hlooking

/-! ## A whole run -/

/-- An action at the borders of a run: on the lock, or the opening of the journal. -/
def Action.Bordering : Action → Prop
  | acquireLock _ | releaseLock _ | openJournal _ => True
  | _ => False

theorem Action.Bordering.quiet {a : Action} (ha : a.Bordering) : a.Quiet := by
  cases a <;> first | exact trivial | exact absurd ha id

/-- A lock that was not granted, or a journal that could not be opened or written. -/
def Refused (e : Action.interface.Exchange) : Prop :=
  (∃ path f, e = ⟨.acquireLock path, (.error f : Except Failure Unit)⟩) ∨
    (∃ path f, e = ⟨.openJournal path, (.error f : Except FileError Unit)⟩) ∨
    ∃ path entry f, e = ⟨.appendJournal path entry, (.error f : Except FileError Unit)⟩

/-- An entry of the journal could not be written. -/
def EntryLost (h : Transcript) : Prop :=
  ∃ path entry f, ⟨.appendJournal path entry, (.error f : Except FileError Unit)⟩ ∈ h

theorem entryLost_of_writeJournal {key : String} {selection : Selection} {e : FileError}
    (hy : (writeJournal s run key selection).Yields h (.error e)) : EntryLost h := by
  rw [writeJournal] at hy
  split at hy
  · cases hy.2
  · next path _ =>
    obtain ⟨time, _, rfl, written, _, rfl, rfl, rfl⟩ := hy
    exact ⟨path, _, e, List.mem_cons_of_mem _ List.mem_cons_self⟩

theorem EntryLost.mono {h' : Transcript} (hlost : EntryLost h) (hsub : h ⊆ h') : EntryLost h' := by
  obtain ⟨path, entry, f, he⟩ := hlost
  exact ⟨path, entry, f, hsub he⟩

theorem EntryLost.exists_refused (hlost : EntryLost h) : ∃ e ∈ h, Refused e := by
  obtain ⟨path, entry, f, he⟩ := hlost
  exact ⟨_, he, .inr (.inr ⟨path, entry, f, rfl⟩)⟩

/-- A run from the taking of its lock on: the lock or the journal is refused, or the run gets as far
as its first fetch. -/
inductive LockedExit (s : Settings) (backend run : String) :
    Transcript → Except Stop Summary → Prop where
  | refused {opening last : Transcript} {t : Trouble} {e : Action.interface.Exchange}
      (hopening : ∀ e ∈ opening ++ last, e.1.Bordering) (hrefused : Refused e)
      (he : e ∈ opening) : LockedExit s backend run (opening ++ last) (.error (.trouble t))
  | opened {opening rest last : Transcript} {result : Except Stop Summary}
      (hopening : ∀ e ∈ opening, e.1.Bordering)
      (hfetched : FetchedExit s backend run rest result)
      (hlast : ∀ e ∈ last, e.1.Bordering) :
      LockedExit s backend run (opening ++ (rest ++ last)) result

/-- What is done at the borders before and after. -/
theorem LockedExit.within {first last : Transcript} {result : Except Stop Summary}
    (hc : LockedExit s backend run h result) (hfirst : ∀ e ∈ first, e.1.Bordering)
    (hlast : ∀ e ∈ last, e.1.Bordering) :
    LockedExit s backend run (first ++ (h ++ last)) result := by
  cases hc with
  | @refused opening last' _ _ hopening hrefused he =>
    have hsplit : first ++ (opening ++ last' ++ last) = first ++ opening ++ (last' ++ last) := by
      simp only [List.append_assoc]
    rw [hsplit]
    refine .refused ?_ hrefused (List.mem_append_right _ he)
    rw [← hsplit]
    exact List.forall_mem_append.mpr ⟨hfirst, List.forall_mem_append.mpr ⟨hopening, hlast⟩⟩
  | @opened opening rest last' _ hopening hfetched hlast' =>
    have hsplit : first ++ (opening ++ (rest ++ last') ++ last) =
        first ++ opening ++ (rest ++ (last' ++ last)) := by
      simp only [List.append_assoc]
    rw [hsplit]
    exact .opened (List.forall_mem_append.mpr ⟨hfirst, hopening⟩) hfetched
      (List.forall_mem_append.mpr ⟨hlast', hlast⟩)

/-- A run from its first fetch on, with nothing at its borders. -/
theorem FetchedExit.lockedExit {result : Except Stop Summary}
    (hc : FetchedExit s backend run h result) : LockedExit s backend run h result := by
  have hexit : LockedExit s backend run ([] ++ (h ++ [])) result := .opened (by simp) hc (by simp)
  rwa [List.nil_append, List.append_nil] at hexit

/-- The lock or the journal is refused at once. -/
theorem lockedExit_of_refused {e : Action.interface.Exchange} {t : Trouble}
    (hborder : e.1.Bordering) (he : Refused e) :
    LockedExit s backend run [e] (.error (.trouble t)) := by
  rw [← List.append_nil [e]]
  exact .refused (by simpa using hborder) he List.mem_cons_self

theorem yields_mergeJournaled_exit {result : Except Stop Summary}
    (hy : (mergeJournaled s backend run).Yields h result) : LockedExit s backend run h result := by
  rw [mergeJournaled] at hy
  split at hy
  · exact (yields_fetchedExit hy).lockedExit
  · next path _ =>
    obtain ⟨x, rest, rfl, hy⟩ := hy
    cases x with
    | error f =>
      obtain ⟨rfl, rfl⟩ := hy
      exact lockedExit_of_refused trivial (.inr (.inl ⟨path, f, rfl⟩))
    | ok opened =>
      have hborder : ∀ e ∈ ([⟨.openJournal path, .ok opened⟩] : Transcript), e.1.Bordering := by
        simp [Action.Bordering]
      have hexit := (yields_fetchedExit hy).lockedExit.within hborder (List.forall_mem_nil _)
      rwa [List.append_nil] at hexit

theorem yields_mergeLocked_exit {result : Except Stop Summary}
    (hy : (mergeLocked s backend run).Yields h result) : LockedExit s backend run h result := by
  rw [mergeLocked] at hy
  split at hy
  · exact yields_mergeJournaled_exit hy
  · next path _ =>
    obtain ⟨x, rest, rfl, hy⟩ := hy
    cases x with
    | error f =>
      obtain ⟨rfl, rfl⟩ := hy
      exact lockedExit_of_refused trivial (.inl ⟨path, f, rfl⟩)
    | ok granted =>
      change ((mergeJournaled s backend run).bind _).Yields rest result at hy
      obtain ⟨result', h₁, h₂, rfl, hresult, x, last, rfl, rfl, rfl⟩ := Program.yields_bind.mp hy
      have hfirst : ∀ e ∈ ([⟨.acquireLock path, .ok granted⟩] : Transcript), e.1.Bordering := by
        simp [Action.Bordering]
      have hlast : ∀ e ∈ ([⟨.releaseLock path, x⟩] : Transcript), e.1.Bordering := by
        simp [Action.Bordering]
      exact (yields_mergeJournaled_exit hresult).within hfirst hlast

/-- A whole run. -/
inductive RunExit (s : Settings) (backend run : String) :
    Transcript → Except Stop Summary → Prop where
  | unready {checking : Transcript} {f : Failure}
      (hpreflight : (preflight s).Yields checking (.error f)) :
      RunExit s backend run checking
        (.error (.trouble ((Trouble.ofFailure f).within "preflight failed")))
  | ready {checking rest : Transcript} {result : Except Stop Summary}
      (hpreflight : (preflight s).Yields checking (.ok ()))
      (hlocked : LockedExit s backend run rest result) :
      RunExit s backend run (checking ++ rest) result

theorem yields_runExit {result : Except Stop Summary}
    (hy : (mergeAll s backend run).Yields h result) : RunExit s backend run h result := by
  rw [mergeAll, Program.bind_eq, Program.yields_bind] at hy
  obtain ⟨reply, checking, rest, rfl, hpreflight, hy⟩ := hy
  cases reply with
  | error f =>
    obtain ⟨rfl, rfl⟩ := hy
    rw [List.append_nil]
    exact .unready hpreflight
  | ok _ => exact .ready hpreflight (yields_mergeLocked_exit hy)

/-! ## Around the groups -/

/-- What a run asks before its groups and after them: it looks for the columns, takes the lock,
opens the journal, fetches the entities, and gives the lock back. -/
def Settings.Frames (s : Settings) (a : Action) : Prop :=
  a.Checks ∨ a.Bordering ∨ a = .call (.fetchEntities s.entity)

theorem Settings.Frames.quiet {a : Action} (ha : s.Frames a) : a.Quiet := by
  rcases ha with hchecks | hborder | rfl
  · exact hchecks.quiet
  · exact hborder.quiet
  · exact id

/-- A run that got as far as its groups, with what it asked before and after them. -/
structure RunFrame (s : Settings) (backend run : String) (entities : List Entity)
    (opening merging closing last : Transcript) (groups : Except Stop (List GroupReport))
    (result : Except Stop Summary) : Prop where
  fetched : ⟨Action.call (.fetchEntities s.entity), Attempt.answered (.ok entities)⟩ ∈ opening
  opened : ∀ e ∈ opening, s.Frames e.1
  merged : CandidatesExit s backend run entities merging groups
  closed : Closed s backend run entities groups closing result
  left : ∀ e ∈ last, e.1.Bordering

theorem frames_of_fetch {reply : Reply (List Entity)}
    (hy : (Run.fetchEntities s.retry s.entity).Yields h reply) : ∀ e ∈ h, s.Frames e.1 :=
  fun e he => .inr (.inr (Run.only_calling.yields hy e he))

theorem Closed.frames {entities : List Entity} {groups : Except Stop (List GroupReport)}
    {result : Except Stop Summary} (hc : Closed s backend run entities groups h result) :
    ∀ e ∈ h, s.Frames e.1 := by
  cases hc with
  | stopped => simp
  | unverified hlooking => exact frames_of_fetch hlooking
  | verified hlooking => exact frames_of_fetch hlooking

/-- The entities were fetched. -/
def Settings.Fetched (s : Settings) (e : Action.interface.Exchange) : Prop :=
  ∃ entities, e = ⟨.call (.fetchEntities s.entity), Attempt.answered (.ok entities)⟩

theorem Action.Checks.not_fetched {e : Action.interface.Exchange} (he : e.1.Checks) :
    ¬ s.Fetched e := by
  rintro ⟨entities, rfl⟩
  simp [Action.Checks] at he

theorem Action.Bordering.not_fetched {e : Action.interface.Exchange} (he : e.1.Bordering) :
    ¬ s.Fetched e := by
  rintro ⟨entities, rfl⟩
  exact he

/-- A fetch that failed has no attempt that did not. -/
theorem not_fetched_of_error {f : Failure}
    (hy : (Run.fetchEntities s.retry s.entity).Yields h (.error f)) : ∀ e ∈ h, ¬ s.Fetched e := by
  rintro e he ⟨entities, rfl⟩
  obtain ⟨fails, x, rfl, hx, hfails, -⟩ := Run.yields_calling hy
  rcases List.mem_append.mp he with he | he
  · obtain ⟨y, f', heq, hy, -⟩ := hfails _ he
    obtain rfl : Attempt.answered (.ok entities) = y := eq_of_heq (Sigma.mk.inj heq).2
    cases hy
  · obtain rfl : Attempt.answered (.ok entities) = x :=
      eq_of_heq (Sigma.mk.inj (List.mem_singleton.mp he)).2
    cases hx

/-- A run did not get as far as its groups, or it has a frame around them. -/
theorem yields_frame {result : Except Stop Summary}
    (hy : (mergeAll s backend run).Yields h result) :
    ((∀ e ∈ h, s.Frames e.1) ∧ (∀ e ∈ h, ¬ s.Fetched e) ∧ ∃ t, result = .error (.trouble t)) ∨
    ∃ entities opening merging closing last groups,
      h = opening ++ (merging ++ (closing ++ last)) ∧
      RunFrame s backend run entities opening merging closing last groups result := by
  have hborders : ∀ {h : Transcript}, (∀ e ∈ h, e.1.Bordering) →
      ∀ e ∈ h, s.Frames e.1 ∧ ¬ s.Fetched e :=
    fun hh e he => ⟨.inr (.inl (hh e he)), (hh e he).not_fetched⟩
  have hchecks : ∀ {h : Transcript} {reply}, (preflight s).Yields h reply →
      ∀ e ∈ h, s.Frames e.1 ∧ ¬ s.Fetched e := fun hpreflight e he =>
    have hcheck := (only_preflight s).yields hpreflight e he
    ⟨.inl hcheck, hcheck.not_fetched⟩
  have hstop : ∀ {h : Transcript} {t : Trouble}, (∀ e ∈ h, s.Frames e.1 ∧ ¬ s.Fetched e) →
      (∀ e ∈ h, s.Frames e.1) ∧ (∀ e ∈ h, ¬ s.Fetched e) ∧
        ∃ t', (.error (.trouble t) : Except Stop Summary) = .error (.trouble t') :=
    fun hh => ⟨fun e he => (hh e he).1, fun e he => (hh e he).2, _, rfl⟩
  cases yields_runExit hy with
  | unready hpreflight => exact .inl (hstop (hchecks hpreflight))
  | @ready checking rest _ hpreflight hlocked =>
    cases hlocked with
    | refused hopening _ _ =>
      exact .inl (hstop (List.forall_mem_append.mpr ⟨hchecks hpreflight, hborders hopening⟩))
    | @opened opening rest last _ hopening hfetched hlast =>
      cases hfetched with
      | unread hfetch =>
        have hfailed := fun e he => And.intro (frames_of_fetch hfetch e he)
          (not_fetched_of_error hfetch e he)
        exact .inl (hstop (List.forall_mem_append.mpr ⟨hchecks hpreflight,
          List.forall_mem_append.mpr ⟨hborders hopening,
            List.forall_mem_append.mpr ⟨hfailed, hborders hlast⟩⟩⟩))
      | @read fetching merging closing entities groups _ hfetch hgroups hclosed =>
        refine .inr ⟨entities, checking ++ (opening ++ fetching), merging, closing, last, groups,
          by simp only [List.append_assoc], ?_⟩
        refine { fetched := ?_, opened := ?_, merged := hgroups, closed := hclosed, left := hlast }
        · obtain ⟨fails, x, rfl, hx, -⟩ := Run.yields_calling hfetch
          obtain rfl := Attempt.eq_answered hx
          simp
        · exact List.forall_mem_append.mpr ⟨fun e he => (hchecks hpreflight e he).1,
            List.forall_mem_append.mpr ⟨fun e he => (hborders hopening e he).1,
              frames_of_fetch hfetch⟩⟩

end RegistryDedup
