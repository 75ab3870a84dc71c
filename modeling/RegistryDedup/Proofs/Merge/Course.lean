import RegistryDedup.Merge.Run
import RegistryDedup.Proofs.Merge.References

/-!
# The course of a run

What a run asks, in the order in which it asks it. Each function of a run has its own account here,
with one case for each way to go through it, so that a property of runs is proved along the cases
and not along the programs.

- `StepwiseCourse`, `PlannedCourse`, `GroupCourse`: all that is asked for one group that was
  handled to its end, with the outcome.
- `GroupsCourse`: the groups of a run that may have been stopped. All but the last of those begun
  were handled to their end.
- `RunCourse`: such a run as a whole. Before and after the groups nothing is changed.
-/

namespace RegistryDedup

variable {s : Settings} {run : String} {plan : MergePlan} {report : GroupReport} {h : Transcript}

/-! ## One group -/

/-- A group merged step by step. -/
inductive StepwiseCourse (s : Settings) (plan : MergePlan) (report : GroupReport) :
    Transcript → GroupReport × Bool → Prop where
  | stuck {moves : Transcript} {failure : RepointFailure}
      (hmoves : (repointGroup s.retry plan.keep plan.losers plan.dependents).Yields moves
        (.error failure)) :
      StepwiseCourse s plan report moves
        (report.unreconciled failure.message failure.failure.isRetryable)
  | purged {moves deletes : Transcript} {moved : Tally} {outcome : PurgeOutcome}
      (hmoves : (repointGroup s.retry plan.keep plan.losers plan.dependents).Yields moves
        (.ok moved))
      (hdeletes : (purgeLosers s.retry plan.entity plan.losers).Yields deletes outcome) :
      StepwiseCourse s plan report (moves ++ deletes)
        { report with
          repointed := moved
          deleted := outcome.deleted ++ outcome.absent
          failed := outcome.failed }.finished

theorem yields_mergeStepwise {outcome : GroupReport × Bool}
    (hy : (mergeStepwise s plan report).Yields h outcome) :
    StepwiseCourse s plan report h outcome := by
  rw [mergeStepwise, Program.bind_eq, Program.yields_bind] at hy
  obtain ⟨reply, moves, rest, rfl, hmoves, hy⟩ := hy
  cases reply with
  | error failure =>
    obtain ⟨rfl, rfl⟩ := hy
    rw [List.append_nil]
    exact .stuck hmoves
  | ok moved =>
    obtain ⟨purged, deletes, _, rfl, hdeletes, rfl, rfl⟩ := Program.yields_bind.mp hy
    rw [List.append_nil]
    exact .purged hmoves hdeletes

/-- A group merged in a transaction, or step by step. -/
inductive PlannedCourse (s : Settings) (plan : MergePlan) (report : GroupReport) :
    Transcript → GroupReport × Bool → Prop where
  | failed {merging : Transcript} {f : Failure}
      (hmerging : (Run.merge s.retry plan).Yields merging (.error f)) :
      PlannedCourse s plan report merging (report.unreconciled f.message f.isRetryable)
  | merged {merging : Transcript} {outcome : MergeOutcome}
      (hmerging : (Run.merge s.retry plan).Yields merging (.ok (some outcome))) :
      PlannedCourse s plan report merging
        { report with
          repointed := outcome.repointed
          deleted := outcome.deleted
          failed := outcome.failed }.finished
  | stepwise {merging steps : Transcript} {outcome : GroupReport × Bool}
      (hmerging : (Run.merge s.retry plan).Yields merging (.ok none))
      (hsteps : StepwiseCourse s plan report steps outcome) :
      PlannedCourse s plan report (merging ++ steps) outcome

theorem yields_mergePlanned {outcome : GroupReport × Bool}
    (hy : (mergePlanned s plan report).Yields h outcome) :
    PlannedCourse s plan report h outcome := by
  rw [mergePlanned, Program.bind_eq, Program.yields_bind] at hy
  obtain ⟨reply, merging, rest, rfl, hmerging, hy⟩ := hy
  cases reply with
  | error f =>
    obtain ⟨rfl, rfl⟩ := hy
    rw [List.append_nil]
    exact .failed hmerging
  | ok merged =>
    cases merged with
    | none => exact .stepwise hmerging (yields_mergeStepwise hy)
    | some outcome =>
      obtain ⟨rfl, rfl⟩ := hy
      rw [List.append_nil]
      exact .merged hmerging

/-- What is reported of a group before anything is asked for it. -/
def DuplicateGroup.started (g : DuplicateGroup) : GroupReport :=
  { key := g.key, members := g.ids }

/-- What is reported of a group whose survivor is chosen. -/
def DuplicateGroup.selected (g : DuplicateGroup) (selection : Selection) (counts : List RefCount) :
    GroupReport :=
  { g.started with
    keep := some selection.keep.id
    losers := selection.loserIds
    counts := counts }

/-- What is said of a group before it is merged: which of its members is kept, and why. -/
structure GroupPreview where
  key : String
  members : List String
  keep : Option String
  losers : List String
  counts : List RefCount
  deriving DecidableEq

/-- What a report says of its group before it is merged. -/
def GroupReport.preview (r : GroupReport) : GroupPreview :=
  ⟨r.key, r.members, r.keep, r.losers, r.counts⟩

/-- The merge of a group adds to what is said of it before, and takes nothing back. -/
theorem PlannedCourse.preview {outcome : GroupReport × Bool}
    (hc : PlannedCourse s plan report h outcome) : outcome.1.preview = report.preview := by
  cases hc with
  | failed => rfl
  | merged => rfl
  | stepwise _ hsteps => cases hsteps <;> rfl

/-- A plan begins with its merge in one transaction. -/
theorem PlannedCourse.exists_merge {outcome : GroupReport × Bool}
    (hc : PlannedCourse s plan report h outcome) : ∃ e ∈ h, e.1 = .call (.merge plan) := by
  have hasked : ∀ {merging : Transcript} {reply : Reply (Option MergeOutcome)},
      (Run.merge s.retry plan).Yields merging reply → ∃ e ∈ merging, e.1 = .call (.merge plan) := by
    intro merging reply hmerging
    obtain ⟨fails, x, rfl, -⟩ := Run.yields_calling hmerging
    exact ⟨_, List.mem_append_right _ List.mem_cons_self, rfl⟩
  cases hc with
  | failed hmerging => exact hasked hmerging
  | merged hmerging => exact hasked hmerging
  | stepwise hmerging _ =>
    obtain ⟨e, he, hmerge⟩ := hasked hmerging
    exact ⟨e, List.mem_append_left _ he, hmerge⟩

/-- A group, from the count of its references on. -/
inductive GroupCourse (s : Settings) (run : String) (g : DuplicateGroup) :
    Transcript → Except Stop (GroupReport × Bool) → Prop where
  | uncounted {counting : Transcript} {failure : CountFailure}
      (hcounting : (countsFor s g).Yields counting (.error failure)) :
      GroupCourse s run g counting
        (.ok (g.started.unreconciled failure.message failure.failure.isRetryable))
  | empty {counting : Transcript} {counts : List RefCount}
      (hcounting : (countsFor s g).Yields counting (.ok counts))
      (hselect : select s.policy g.members counts = none) :
      GroupCourse s run g counting (.ok (g.started.unreconciled "empty group" false))
  | previewed {counting : Transcript} {counts : List RefCount} {selection : Selection}
      (hcounting : (countsFor s g).Yields counting (.ok counts))
      (hselect : select s.policy g.members counts = some selection) (hdry : s.dryRun = true) :
      GroupCourse s run g counting
        (.ok ({ g.selected selection counts with status := .dryRun }, false))
  | unwritten {counting writing : Transcript} {counts : List RefCount} {selection : Selection}
      {e : FileError}
      (hcounting : (countsFor s g).Yields counting (.ok counts))
      (hselect : select s.policy g.members counts = some selection) (hdry : s.dryRun = false)
      (hwriting : (writeJournal s run g.key selection).Yields writing (.error e)) :
      GroupCourse s run g (counting ++ writing) (.error (journalTrouble "writing" s e))
  | planned {counting writing rest : Transcript} {counts : List RefCount} {selection : Selection}
      {outcome : GroupReport × Bool}
      (hcounting : (countsFor s g).Yields counting (.ok counts))
      (hselect : select s.policy g.members counts = some selection) (hdry : s.dryRun = false)
      (hwriting : (writeJournal s run g.key selection).Yields writing (.ok ()))
      (hrest : PlannedCourse s (s.plan g.key selection) (g.selected selection counts) rest
        outcome) :
      GroupCourse s run g (counting ++ (writing ++ rest)) (.ok outcome)

theorem yields_mergeGroup {g : DuplicateGroup} {outcome : Except Stop (GroupReport × Bool)}
    (hy : (mergeGroup s run g).Yields h outcome) : GroupCourse s run g h outcome := by
  rw [mergeGroup, Program.bind_eq, Program.yields_bind] at hy
  obtain ⟨reply, counting, rest, rfl, hcounting, hy⟩ := hy
  cases reply with
  | error failure =>
    obtain ⟨rfl, rfl⟩ := hy
    rw [List.append_nil]
    exact .uncounted hcounting
  | ok counts =>
    dsimp only at hy
    cases hselect : select s.policy g.members counts with
    | none =>
      rw [hselect] at hy
      obtain ⟨rfl, rfl⟩ := hy
      rw [List.append_nil]
      exact .empty hcounting hselect
    | some selection =>
      rw [hselect] at hy
      dsimp only at hy
      by_cases hdry : s.dryRun = true
      · rw [if_pos hdry] at hy
        obtain ⟨rfl, rfl⟩ := hy
        rw [List.append_nil]
        exact .previewed hcounting hselect hdry
      · rw [if_neg hdry, Program.bind_eq, Program.yields_bind] at hy
        rw [Bool.not_eq_true] at hdry
        obtain ⟨written, writing, rest, rfl, hwriting, hy⟩ := hy
        cases written with
        | error e =>
          obtain ⟨rfl, rfl⟩ := hy
          rw [List.append_nil]
          exact .unwritten hcounting hselect hdry hwriting
        | ok written =>
          obtain ⟨result, rest, _, rfl, hrest, rfl, rfl⟩ := Program.yields_bind.mp hy
          rw [List.append_nil]
          exact .planned hcounting hselect hdry hwriting (yields_mergePlanned hrest)

/-! ## What each part may ask -/

/-- A move of references from one of some losers to the entity that is kept. -/
def Action.Moves (dependents : List Dependent) (losers : List String) (keep : String)
    (a : Action) : Prop :=
  ∃ d ∈ dependents, ∃ l ∈ losers, a = .call (.repoint d.table d.column l keep)

/-- A delete of one of some losers. -/
def Action.Deletes (table : EntityTable) (losers : List String) (a : Action) : Prop :=
  ∃ l ∈ losers, a = .call (.deleteIds table.table table.idColumn [l])

/-- A part of writing an entry of the journal. -/
def Action.Notes (a : Action) : Prop :=
  a = .now ∨ ∃ path entry, a = .appendJournal path entry

theorem Action.Moves.mono {dependents dependents' : List Dependent} {losers losers' : List String}
    {keep : String} (hdependents : dependents ⊆ dependents') (hlosers : losers ⊆ losers')
    {a : Action} (ha : a.Moves dependents losers keep) : a.Moves dependents' losers' keep := by
  obtain ⟨d, hd, l, hl, rfl⟩ := ha
  exact ⟨d, hdependents hd, l, hlosers hl, rfl⟩

theorem Action.Deletes.mono {table : EntityTable} {losers losers' : List String}
    (hlosers : losers ⊆ losers') {a : Action} (ha : a.Deletes table losers) :
    a.Deletes table losers' := by
  obtain ⟨l, hl, rfl⟩ := ha
  exact ⟨l, hlosers hl, rfl⟩

/-- A look at the store, or the choice which of several looks goes on. -/
def Action.Looks : Action → Prop
  | call r => ¬ r.Changes
  | pick _ => True
  | _ => False

theorem Action.Looks.quiet {a : Action} (ha : a.Looks) : a.Quiet := by
  cases a with
  | call r => exact ha
  | pick others => trivial
  | _ => exact absurd ha id

theorem Counts.looks {jobs : List CountJob} {a : Action} (ha : Counts jobs a) : a.Looks := by
  rcases ha with ⟨others, rfl⟩ | ⟨job, -, rfl⟩
  · trivial
  · exact id

theorem Counts.quiet {jobs : List CountJob} {a : Action} (ha : Counts jobs a) : a.Quiet :=
  ha.looks.quiet

theorem only_countsFor (s : Settings) (g : DuplicateGroup) :
    (countsFor s g).Only (Counts (countJobs g.ids s.dependents)) := by
  rw [countsFor]
  split
  · exact (only_gatherAll _ _).bind fun _ => trivial
  · trivial

theorem only_writeJournal (s : Settings) (run key : String) (selection : Selection) :
    (writeJournal s run key selection).Only Action.Notes := by
  rw [writeJournal]
  split
  · trivial
  · exact ⟨.inl rfl, fun _ => ⟨.inr ⟨_, _, rfl⟩, fun _ => trivial⟩⟩

theorem only_repointDependent (policy : RetryPolicy) (keep : String) (d : Dependent)
    (losers : List String) (moved : Nat) :
    (repointDependent policy keep d losers moved).Only (Action.Moves [d] losers keep) := by
  induction losers generalizing moved with
  | nil => trivial
  | cons l losers ih =>
    have hrest (n : Nat) :
        (repointDependent policy keep d losers n).Only (Action.Moves [d] (l :: losers) keep) :=
      (ih n).mono fun a ha => ha.mono (List.Subset.refl _) (List.subset_cons_self _ _)
    refine (Run.only_calling.mono ?_).bind fun reply => ?_
    · rintro a rfl
      exact ⟨d, List.mem_cons_self, l, List.mem_cons_self, rfl⟩
    · cases reply with
      | ok n => exact hrest _
      | error f =>
        dsimp only
        split
        · exact hrest _
        · trivial

theorem only_repointGroup (policy : RetryPolicy) (keep : String) (losers : List String)
    (dependents : List Dependent) :
    (repointGroup policy keep losers dependents).Only (Action.Moves dependents losers keep) := by
  rw [repointGroup]
  generalize ([] : Tally) = moved
  induction dependents generalizing moved with
  | nil => trivial
  | cons d dependents ih =>
    refine ((only_repointDependent policy keep d losers 0).mono ?_).bind fun reply => ?_
    · intro a ha
      exact ha.mono (List.cons_subset_cons d (List.nil_subset _)) (List.Subset.refl _)
    · cases reply with
      | error failure => trivial
      | ok n =>
        refine (ih _).mono fun a ha => ?_
        exact ha.mono (List.subset_cons_self _ _) (List.Subset.refl _)

theorem only_purgeLosers (policy : RetryPolicy) (table : EntityTable) (losers : List String) :
    (purgeLosers policy table losers).Only (Action.Deletes table losers) := by
  rw [purgeLosers]
  generalize ({} : PurgeOutcome) = outcome
  induction losers generalizing outcome with
  | nil => trivial
  | cons l losers ih =>
    refine (Run.only_calling.mono ?_).bind fun reply => (ih _).mono fun a ha => ?_
    · rintro a rfl
      exact ⟨l, List.mem_cons_self, rfl⟩
    · exact ha.mono (List.subset_cons_self _ _)

/-- What may be asked for a group. -/
inductive Action.Serves (s : Settings) (g : DuplicateGroup) : Action → Prop where
  | counting {a : Action} (ha : Counts (countJobs g.ids s.dependents) a) : Serves s g a
  | noting {a : Action} (ha : a.Notes) : Serves s g a
  | merging (selection : Selection) : Serves s g (.call (.merge (s.plan g.key selection)))
  | moving {a : Action} {losers : List String} {keep : String}
      (ha : a.Moves s.dependents losers keep) : Serves s g a
  | deleting {a : Action} {losers : List String} (ha : a.Deletes s.entity losers) : Serves s g a

theorem only_mergePlanned (g : DuplicateGroup) (selection : Selection) (report : GroupReport) :
    (mergePlanned s (s.plan g.key selection) report).Only (Action.Serves s g) := by
  refine Program.Only.bind (Run.only_calling.mono ?_) fun reply => ?_
  · rintro a rfl
    exact .merging selection
  cases reply with
  | error f => trivial
  | ok merged =>
    cases merged with
    | some outcome => trivial
    | none =>
      have hmoves := only_repointGroup s.retry selection.keep.id selection.loserIds s.dependents
      refine (hmoves.mono fun a ha => .moving ha).bind fun moved => ?_
      cases moved with
      | error failure => trivial
      | ok moved =>
        have hdeletes := only_purgeLosers s.retry s.entity selection.loserIds
        exact (hdeletes.mono fun a ha => .deleting ha).bind fun _ => trivial

theorem only_mergeGroup (s : Settings) (run : String) (g : DuplicateGroup) :
    (mergeGroup s run g).Only (Action.Serves s g) := by
  refine ((only_countsFor s g).mono fun _ ha => .counting ha).bind fun reply => ?_
  cases reply with
  | error failure => trivial
  | ok counts =>
    dsimp only
    cases select s.policy g.members counts with
    | none => trivial
    | some selection =>
      dsimp only
      split
      · trivial
      · refine ((only_writeJournal _ _ _ _).mono fun _ ha => .noting ha).bind fun written => ?_
        cases written with
        | error f => trivial
        | ok _ => exact (only_mergePlanned _ _ _).bind fun _ => trivial

/-- A call that changes nothing is a look with all its attempts. -/
theorem only_calling_looks {policy : RetryPolicy} {operation : String} {r : Request}
    (hr : ¬ r.Changes) : (Run.calling policy operation r).Only Action.Looks := by
  refine Run.only_calling.mono ?_
  rintro a rfl
  exact hr

theorem only_calling_quiet {policy : RetryPolicy} {operation : String} {r : Request}
    (hr : ¬ r.Changes) : (Run.calling policy operation r).Only Action.Quiet :=
  (only_calling_looks hr).mono fun _ ha => ha.quiet

/-- A look for the columns of a table. -/
def Action.Checks (a : Action) : Prop :=
  ∃ table columns, a = .call (.checkColumns table columns)

theorem Action.Checks.looks {a : Action} (ha : a.Checks) : a.Looks := by
  obtain ⟨table, columns, rfl⟩ := ha
  exact id

theorem Action.Checks.quiet {a : Action} (ha : a.Checks) : a.Quiet :=
  ha.looks.quiet

theorem only_preflight (s : Settings) : (preflight s).Only Action.Checks := by
  rw [preflight]
  split
  · trivial
  · generalize s.tables = tables
    induction tables with
    | nil => trivial
    | cons t tables ih =>
      refine (Run.only_calling.mono fun a ha => ⟨_, _, ha⟩).bind fun reply => ?_
      cases reply with
      | ok _ => exact ih
      | error f => trivial

theorem only_findResiduals (policy : RetryPolicy) (table : EntityTable) (n : Normalizer) :
    (findResiduals policy table n).Only (· = Action.call (.fetchEntities table)) := by
  refine Run.only_calling.bind fun reply => ?_
  cases reply <;> trivial

/-- All groups ask what each group asks. -/
theorem only_mergeGroups {P : Action → Prop} (hgroup : ∀ g, (mergeGroup s run g).Only P)
    (partialOf : List GroupReport → Summary) (groups : List DuplicateGroup) (streak : Nat)
    (done : List GroupReport) : (mergeGroups s run partialOf groups streak done).Only P := by
  induction groups generalizing streak done with
  | nil => trivial
  | cons g groups ih =>
    refine (hgroup g).bind fun outcome => ?_
    cases outcome with
    | error stop => trivial
    | ok outcome =>
      dsimp only
      generalize (if outcome.2 = true then streak + 1 else 0) = streak'
      split
      · trivial
      · exact ih _ _

/-- Beside what it asks for its groups a run only fetches, once it has begun to fetch. -/
theorem only_mergeFetched {backend : String} {P : Action → Prop}
    (hfetch : P (.call (.fetchEntities s.entity)))
    (hgroup : ∀ g, (mergeGroup s run g).Only P) : (mergeFetched s backend run).Only P := by
  have hfetching : (Run.fetchEntities s.retry s.entity).Only P := by
    refine Run.only_calling.mono ?_
    rintro a rfl
    exact hfetch
  refine Program.Only.bind hfetching fun reply => ?_
  cases reply with
  | error f => trivial
  | ok entities =>
    refine (only_mergeGroups hgroup _ _ _ _).bind fun groups => ?_
    cases groups with
    | error stop => trivial
    | ok reports =>
      refine ((only_findResiduals _ _ _).mono ?_).bind fun residuals => ?_
      · rintro a rfl
        exact hfetch
      · cases residuals <;> trivial

/-! ## A whole run -/

/-- The groups of a run that may have been stopped, with what was asked for each. -/
inductive GroupsCourse (s : Settings) (run : String) :
    List DuplicateGroup → List (DuplicateGroup × Transcript) → Prop where
  | stopped {groups : List DuplicateGroup} : GroupsCourse s run groups []
  | last {g : DuplicateGroup} {groups : List DuplicateGroup} {h : Transcript}
      (hlast : (mergeGroup s run g).Asks h) : GroupsCourse s run (g :: groups) [(g, h)]
  | next {g : DuplicateGroup} {groups : List DuplicateGroup} {h : Transcript}
      {segments : List (DuplicateGroup × Transcript)} {outcome : GroupReport × Bool}
      (hfirst : (mergeGroup s run g).Yields h (.ok outcome))
      (hrest : GroupsCourse s run groups segments) :
      GroupsCourse s run (g :: groups) ((g, h) :: segments)

theorem asks_mergeGroups {partialOf : List GroupReport → Summary} {groups : List DuplicateGroup}
    {streak : Nat} {done : List GroupReport}
    (ha : (mergeGroups s run partialOf groups streak done).Asks h) :
    ∃ segments, h = (segments.map (·.2)).flatten ∧ GroupsCourse s run groups segments := by
  induction groups generalizing h streak done with
  | nil => exact ⟨[], ha, .stopped⟩
  | cons g groups ih =>
    have hlast : (mergeGroup s run g).Asks h →
        ∃ segments, h = (segments.map (·.2)).flatten ∧ GroupsCourse s run (g :: groups) segments :=
      fun hg => ⟨[(g, h)], by simp, .last hg⟩
    rw [mergeGroups, Program.bind_eq, Program.asks_bind] at ha
    rcases ha with hg | ⟨outcome, h₁, h₂, rfl, hg, ha⟩
    · exact hlast hg
    · cases outcome with
      | error stop =>
        rw [Program.asks_done.mp ha, List.append_nil] at hlast ⊢
        exact hlast hg.asks
      | ok outcome =>
        dsimp only at ha
        generalize (if outcome.2 = true then streak + 1 else 0) = streak' at ha
        split at ha
        · rw [Program.asks_done.mp ha, List.append_nil] at hlast ⊢
          exact hlast hg.asks
        · obtain ⟨segments, rfl, hsegments⟩ := ih ha
          exact ⟨(g, h₁) :: segments, by simp, .next hg hsegments⟩

/-- The groups that were begun are the first ones, in their order, each with its own questions. -/
theorem GroupsCourse.begun {groups : List DuplicateGroup}
    {segments : List (DuplicateGroup × Transcript)} (hc : GroupsCourse s run groups segments) :
    segments.map (·.1) <+: groups ∧ ∀ seg ∈ segments, (mergeGroup s run seg.1).Asks seg.2 := by
  induction hc with
  | stopped => exact ⟨List.nil_prefix, by simp⟩
  | last hlast => exact ⟨by simp, by simpa using hlast⟩
  | next hfirst _ ih => exact ⟨by simpa using ih.1, List.forall_mem_cons.mpr ⟨hfirst.asks, ih.2⟩⟩

/-- A run that may have been stopped: before and after the groups nothing is changed. -/
inductive RunCourse (s : Settings) (run : String) : Transcript → Prop where
  | unread {h : Transcript} (hquiet : ∀ e ∈ h, e.1.Quiet) : RunCourse s run h
  | read {opening closing : Transcript} {entities : List Entity}
      {segments : List (DuplicateGroup × Transcript)}
      (hfetch : ⟨Action.call (.fetchEntities s.entity), Attempt.answered (.ok entities)⟩ ∈ opening)
      (hopening : ∀ e ∈ opening, e.1.Quiet)
      (hgroups : GroupsCourse s run (Grouping.build s.normalizer entities).candidates segments)
      (hclosing : ∀ e ∈ closing, e.1.Quiet) :
      RunCourse s run (opening ++ ((segments.map (·.2)).flatten ++ closing))

theorem RunCourse.opened {first : Transcript} (hc : RunCourse s run h)
    (hfirst : ∀ e ∈ first, e.1.Quiet) : RunCourse s run (first ++ h) := by
  cases hc with
  | unread hquiet => exact .unread (List.forall_mem_append.mpr ⟨hfirst, hquiet⟩)
  | read hfetch hopening hgroups hclosing =>
    rw [← List.append_assoc]
    exact .read (List.mem_append_right _ hfetch)
      (List.forall_mem_append.mpr ⟨hfirst, hopening⟩) hgroups hclosing

theorem RunCourse.closed {last : Transcript} (hc : RunCourse s run h)
    (hlast : ∀ e ∈ last, e.1.Quiet) : RunCourse s run (h ++ last) := by
  cases hc with
  | unread hquiet => exact .unread (List.forall_mem_append.mpr ⟨hquiet, hlast⟩)
  | read hfetch hopening hgroups hclosing =>
    rw [List.append_assoc, List.append_assoc]
    exact .read hfetch hopening hgroups (List.forall_mem_append.mpr ⟨hclosing, hlast⟩)

theorem asks_mergeFetched {backend : String} (ha : (mergeFetched s backend run).Asks h) :
    RunCourse s run h := by
  have hfetching : (Run.fetchEntities s.retry s.entity).Only Action.Quiet := only_calling_quiet id
  rw [mergeFetched, Program.bind_eq, Program.asks_bind] at ha
  rcases ha with ha | ⟨reply, h₁, h₂, rfl, hfetch, ha⟩
  · exact .unread (hfetching.asks ha)
  · have hopening := hfetching.yields hfetch
    cases reply with
    | error f =>
      rw [Program.asks_done.mp ha, List.append_nil]
      exact .unread hopening
    | ok entities =>
      obtain ⟨fails, x, rfl, hx, -⟩ := Run.yields_calling hfetch
      obtain rfl := Attempt.eq_answered hx
      dsimp only [stopOn, Program.bind_eq] at ha
      rw [Program.asks_bind] at ha
      let fetched : Action.interface.Exchange :=
        ⟨.call (.fetchEntities s.entity), Attempt.answered (.ok entities)⟩
      have hread : ∀ {merging closing : Transcript} {streak : Nat} {done : List GroupReport}
          {partialOf : List GroupReport → Summary},
          (mergeGroups s run partialOf (Grouping.build s.normalizer entities).candidates streak
            done).Asks merging →
          (∀ e ∈ closing, e.1.Quiet) →
          RunCourse s run (fails ++ [fetched] ++ (merging ++ closing)) := by
        intro merging closing streak done partialOf hmerging hclosing
        obtain ⟨segments, rfl, hsegments⟩ := asks_mergeGroups hmerging
        exact .read (List.mem_append_right _ List.mem_cons_self) hopening hsegments hclosing
      rcases ha with ha | ⟨groups, h₂, h₃, rfl, hgroups, ha⟩
      · rw [← List.append_nil h₂]
        exact hread ha (by simp)
      · refine hread hgroups.asks ?_
        cases groups with
        | error stop => simp [Program.asks_done.mp ha]
        | ok reports =>
          refine Program.Only.asks (((only_findResiduals _ _ _).mono ?_).bind fun left => ?_) ha
          · rintro a rfl
            exact id
          · cases left <;> trivial

theorem asks_mergeJournaled {backend : String} (ha : (mergeJournaled s backend run).Asks h) :
    RunCourse s run h := by
  rw [mergeJournaled] at ha
  split at ha
  · exact asks_mergeFetched ha
  · rcases ha with rfl | ⟨x, rest, rfl, ha⟩
    · exact .unread (by simp)
    · rw [← List.singleton_append]
      refine RunCourse.opened ?_ (by simp [Action.Quiet])
      cases x with
      | error e => exact .unread (by simp [Program.asks_done.mp ha])
      | ok _ => exact asks_mergeFetched ha

theorem asks_mergeLocked {backend : String} (ha : (mergeLocked s backend run).Asks h) :
    RunCourse s run h := by
  rw [mergeLocked] at ha
  split at ha
  · exact asks_mergeJournaled ha
  · rcases ha with rfl | ⟨x, rest, rfl, ha⟩
    · exact .unread (by simp)
    · rw [← List.singleton_append]
      refine RunCourse.opened ?_ (by simp [Action.Quiet])
      cases x with
      | error f => exact .unread (by simp [Program.asks_done.mp ha])
      | ok _ =>
        change ((mergeJournaled s backend run).bind _).Asks rest at ha
        rcases Program.asks_bind.mp ha with ha | ⟨result, h₁, h₂, rfl, hresult, ha⟩
        · exact asks_mergeJournaled ha
        · refine (asks_mergeJournaled hresult.asks).closed ?_
          refine Program.Only.asks ?_ ha
          exact ⟨trivial, fun _ => trivial⟩

theorem asks_mergeAll {backend : String} (ha : (mergeAll s backend run).Asks h) :
    RunCourse s run h := by
  rw [mergeAll, Program.bind_eq, Program.asks_bind] at ha
  rcases ha with ha | ⟨reply, h₁, h₂, rfl, hpreflight, ha⟩
  · exact .unread fun e he => ((only_preflight s).asks ha e he).quiet
  · refine RunCourse.opened ?_ fun e he => ((only_preflight s).yields hpreflight e he).quiet
    cases reply with
    | error f => exact .unread (by simp [Program.asks_done.mp ha])
    | ok _ => exact asks_mergeLocked ha

end RegistryDedup
