import RegistryDedup.Proofs.Merge.EarlyEnd

/-!
# Fatal failures in a group

A failure of configuration or authority concerns the whole run and not one group. A group makes no
difference between such a failure and any other that is not worth another attempt.

- `FailedFatally`: a call that ended so. It has no further attempt (`fatal_last`).
- `AfterFatal`: what the group for which the call was made still does. Only a failed delete is
  followed by further changes in the group, the deletes of the losers that are left.
- `GroupCourse.afterFatal`: a group that was handled to its end did so after each such call.
- `GroupCourse.alters_iff`: a group changes something just where it gets as far as a survivor.
-/

namespace RegistryDedup

variable {s : Settings} {run : String} {g : DuplicateGroup} {policy : RetryPolicy}
  {h before after : Transcript} {e : Action.interface.Exchange} {f : Failure}

/-! ## Calls -/

/-- A call ended in a failure that concerns the whole run. -/
def FailedFatally (f : Failure) (e : Action.interface.Exchange) : Prop :=
  f.isFatal = true ∧ ∃ r : Request, e = ⟨.call r, Attempt.answered (.error f)⟩

theorem Failure.not_retryable_of_fatal (hf : f.isFatal = true) : ¬ f.isRetryable := by
  rw [isFatal, Bool.or_eq_true, beq_iff_eq, beq_iff_eq] at hf
  rw [isRetryable, beq_iff_eq]
  rcases hf with hf | hf <;> rw [hf] <;> exact FailureKind.noConfusion

theorem Failure.not_notFound_of_fatal (hf : f.isFatal = true) : ¬ f.isNotFound := by
  rw [isFatal, Bool.or_eq_true, beq_iff_eq, beq_iff_eq] at hf
  rw [isNotFound, beq_iff_eq]
  rcases hf with hf | hf <;> rw [hf] <;> exact FailureKind.noConfusion

theorem FailedFatally.not_retried (hf : FailedFatally f e) {operation : String} {r : Request} :
    ¬ Run.Retried policy operation r e := by
  obtain ⟨hfatal, r', rfl⟩ := hf
  rintro ⟨x, f', he, hreply, hretry⟩
  obtain rfl : r' = r := Action.call.inj (Sigma.mk.inj he).1
  obtain rfl : Attempt.answered (.error f) = x := eq_of_heq (Sigma.mk.inj he).2
  cases hreply
  exact Failure.not_retryable_of_fatal hfatal hretry

/-- A fatal failure is that of the whole call, of which it is the last attempt. -/
theorem fatal_last {operation : String} {r : Request} {reply : Reply r.Answer}
    (hy : (Run.calling policy operation r).Yields (before ++ e :: after) reply)
    (hf : FailedFatally f e) : after = [] ∧ e.1 = .call r ∧ reply = .error f := by
  obtain ⟨fails, x, hsplit, rfl, hfails, -⟩ := Run.yields_calling hy
  rcases split_append hsplit.symm with ⟨rest, rfl, -⟩ | ⟨front, -, hlast⟩
  · exact absurd (hfails e (by simp)) hf.not_retried
  · cases front with
    | cons _ front => simp at hlast
    | nil =>
      obtain ⟨rfl, rfl⟩ := List.cons.inj hlast
      obtain ⟨-, r', he⟩ := hf
      obtain rfl : r = r' := Action.call.inj (Sigma.mk.inj he).1
      obtain rfl : x = .answered (.error f) := eq_of_heq (Sigma.mk.inj he).2
      exact ⟨rfl, rfl, rfl⟩

/-! ## Counts -/

/-- A count that failed fatally is among the outcomes. -/
theorem exists_result_of_fatal {flying : List Flight} {waiting : List CountJob}
    {results : List CountResult} (hy : (gather policy flying waiting).Yields h results)
    (he : e ∈ h) (hf : FailedFatally f e) : ∃ r ∈ results, r.reply = .error f := by
  induction flying, waiting using gather.induct policy generalizing h results with
  | case1 waiting =>
    rw [gather] at hy
    obtain ⟨rfl, rfl⟩ := hy
    exact absurd he List.not_mem_nil
  | case2 waiting first flying ih₁ ih₂ =>
    obtain ⟨i, x, rest, rfl, hgo⟩ := yields_gather_cons hy
    have hcases : e ∈ rest ∨ x = .answered (.error f) := by
      obtain ⟨-, r, rfl⟩ := hf
      rcases List.mem_cons.mp he with he | he
      · cases (Sigma.mk.inj he).1
      · rcases List.mem_cons.mp he with he | he
        · obtain rfl : r = _ := Action.call.inj (Sigma.mk.inj he).1
          exact .inr (eq_of_heq (Sigma.mk.inj he).2).symm
        · exact .inl he
    rcases hgo with ⟨hgo, hrest⟩ | ⟨hstop, later, rfl, hrest⟩
    · rcases hcases with he | rfl
      · exact ih₁ i x hgo hrest he
      · -- A count that is tried again has not failed fatally.
        have hretry : f.isRetryable := by
          have := hgo
          simp only [Attempt.reply, Flight.goesOn, Bool.and_eq_true] at this
          exact this.2
        exact absurd hretry (Failure.not_retryable_of_fatal hf.1)
    · rcases hcases with he | rfl
      · obtain ⟨r, hr, hreply⟩ := ih₂ i hrest he
        exact ⟨r, List.mem_cons_of_mem _ hr, hreply⟩
      · exact ⟨_, List.mem_cons_self, rfl⟩

/-- Where a group has counts, none of its calls has failed fatally. -/
theorem not_fatal_of_counts {counts : List RefCount} (hy : (countsFor s g).Yields h (.ok counts)) :
    ∀ e ∈ h, ¬ FailedFatally f e := by
  intro e he hf
  rw [countsFor] at hy
  split at hy
  · rw [countGroup, Program.bind_eq, Program.yields_bind] at hy
    obtain ⟨results, h₁, h₂, rfl, hgather, rfl, hsum⟩ := hy
    rw [List.append_nil] at he
    obtain ⟨r, hr, hreply⟩ := exists_result_of_fatal hgather he hf
    obtain ⟨failure, herror⟩ := sumCounts_eq_error.mpr ⟨r, hr, f, hreply⟩
    rw [herror] at hsum
    cases hsum
  · obtain ⟨rfl, -⟩ := hy
    exact List.not_mem_nil he

/-- Nor is any of its calls one that writes its entry. -/
theorem not_fatal_of_writeJournal {key : String} {selection : Selection}
    {written : Except FileError Unit}
    (hy : (writeJournal s run key selection).Yields h written) : ∀ e ∈ h, ¬ FailedFatally f e := by
  rintro e he ⟨-, r, rfl⟩
  have hnotes := (only_writeJournal _ _ _ _).yields hy _ he
  simp [Action.Notes] at hnotes

/-! ## Moves and deletes -/

theorem repointDependent_fatal {keep : String} {d : Dependent} {losers : List String}
    {moved : Nat} {result : Except RepointFailure Nat}
    (hy : (repointDependent policy keep d losers moved).Yields (before ++ e :: after) result)
    (hf : FailedFatally f e) :
    after = [] ∧ ∃ l ∈ losers, e.1 = .call (.repoint d.table d.column l keep) ∧
      result = .error ⟨d.table, l, f⟩ := by
  induction losers generalizing before moved with
  | nil => simp [repointDependent] at hy
  | cons l losers ih =>
    rw [repointDependent, Program.bind_eq, Program.yields_bind] at hy
    obtain ⟨reply, h₁, h₂, hsplit, hcall, hy⟩ := hy
    rcases split_append hsplit.symm with ⟨rest, rfl, rfl⟩ | ⟨front, rfl, rfl⟩
    · obtain ⟨rfl, haction, rfl⟩ := fatal_last hcall hf
      dsimp only at hy
      rw [if_neg (Failure.not_notFound_of_fatal hf.1)] at hy
      obtain ⟨rfl, rfl⟩ := hy
      exact ⟨rfl, l, List.mem_cons_self, haction, rfl⟩
    · have hlater : ∀ n, (repointDependent policy keep d losers n).Yields (front ++ e :: after)
          result → after = [] ∧ ∃ l' ∈ l :: losers,
            e.1 = .call (.repoint d.table d.column l' keep) ∧ result = .error ⟨d.table, l', f⟩ := by
        intro n hn
        obtain ⟨hnil, l', hl', hrest⟩ := ih hn
        exact ⟨hnil, l', List.mem_cons_of_mem _ hl', hrest⟩
      cases reply with
      | ok n => exact hlater _ hy
      | error f' =>
        dsimp only at hy
        split at hy
        · exact hlater _ hy
        · simp at hy

/-- A move that failed fatally is the last one. -/
theorem repointFrom_fatal {keep : String} {losers : List String} {dependents : List Dependent}
    {moved : Tally} {result : Except RepointFailure Tally}
    (hy : (repointFrom policy keep losers dependents moved).Yields (before ++ e :: after) result)
    (hf : FailedFatally f e) :
    after = [] ∧ ∃ d ∈ dependents, ∃ l ∈ losers,
      e.1 = .call (.repoint d.table d.column l keep) ∧ result = .error ⟨d.table, l, f⟩ := by
  induction dependents generalizing before moved with
  | nil => simp [repointFrom] at hy
  | cons d dependents ih =>
    rw [repointFrom, Program.bind_eq, Program.yields_bind] at hy
    obtain ⟨reply, h₁, h₂, hsplit, hfirst, hy⟩ := hy
    rcases split_append hsplit.symm with ⟨rest, rfl, rfl⟩ | ⟨front, rfl, rfl⟩
    · obtain ⟨rfl, l, hl, haction, rfl⟩ := repointDependent_fatal hfirst hf
      obtain ⟨rfl, rfl⟩ := hy
      exact ⟨rfl, d, List.mem_cons_self, l, hl, haction, rfl⟩
    · cases reply with
      | error failure => simp at hy
      | ok n =>
        obtain ⟨rfl, d', hd', hrest⟩ := ih hy
        exact ⟨rfl, d', List.mem_cons_of_mem _ hd', hrest⟩

theorem failed_subset {table : EntityTable} {losers : List String} {first outcome : PurgeOutcome}
    (hy : (purgeFrom policy table losers first).Yields h outcome) :
    first.failed ⊆ outcome.failed := by
  induction losers generalizing h first with
  | nil =>
    obtain ⟨-, rfl⟩ := hy
    exact List.Subset.refl _
  | cons l losers ih =>
    rw [purgeFrom, Program.bind_eq, Program.yields_bind] at hy
    obtain ⟨reply, h₁, h₂, rfl, -, hy⟩ := hy
    refine List.Subset.trans ?_ (ih hy)
    rw [PurgeOutcome.record.eq_def]
    split
    · exact List.Subset.refl _
    · exact List.Subset.refl _
    · split
      · exact List.Subset.refl _
      · exact List.subset_append_left _ _

/-- After a delete that failed fatally the losers that are left are deleted all the same. -/
theorem purgeFrom_fatal {table : EntityTable} {losers : List String}
    {first outcome : PurgeOutcome}
    (hy : (purgeFrom policy table losers first).Yields (before ++ e :: after) outcome)
    (hf : FailedFatally f e) :
    ∃ front l left next, losers = front ++ l :: left ∧
      e.1 = .call (.deleteIds table.table table.idColumn [l]) ∧
      (purgeFrom policy table left next).Yields after outcome ∧
      (l, f.message) ∈ outcome.failed := by
  induction losers generalizing before first with
  | nil => simp [purgeFrom] at hy
  | cons l losers ih =>
    rw [purgeFrom, Program.bind_eq, Program.yields_bind] at hy
    obtain ⟨reply, h₁, h₂, hsplit, hcall, hy⟩ := hy
    rcases split_append hsplit.symm with ⟨rest, rfl, rfl⟩ | ⟨front, rfl, rfl⟩
    · obtain ⟨rfl, haction, rfl⟩ := fatal_last hcall hf
      have hrecord : first.record l (.error f) =
          { first with failed := first.failed ++ [(l, f.message)] } :=
        if_neg (Failure.not_notFound_of_fatal hf.1)
      refine ⟨[], l, losers, _, rfl, haction, hy, failed_subset hy ?_⟩
      show (l, f.message) ∈ (first.record l (.error f)).failed
      rw [hrecord]
      exact List.mem_append_right _ List.mem_cons_self
    · obtain ⟨front', l', left, next, rfl, hrest⟩ := ih hy
      exact ⟨l :: front', l', left, next, rfl, hrest⟩

/-! ## One group -/

/-- What a group still asks after a call for it ended in a fatal failure, with the losers that are
still to be deleted, and what it reports. -/
inductive AfterFatal (s : Settings) (g : DuplicateGroup) (f : Failure) (report : GroupReport) :
    Action → Transcript → (left : List String) → (transient : Bool) → Prop where
  /-- The other counts are still made; then the group is left as it is. -/
  | counting {job : CountJob} {rest : Transcript} {reason : String} {transient : Bool}
      (hjob : job ∈ countJobs g.ids s.dependents)
      (hrest : ∀ e ∈ rest, Counts (countJobs g.ids s.dependents) e.1)
      (hkeep : report.keep = none) (hstatus : report.status = .notReconciled reason) :
      AfterFatal s g f report (.call job.request) rest [] transient
  | merging {selection : Selection} (hkeep : report.keep = some selection.keep.id)
      (hstatus : report.status = .notReconciled f.message) :
      AfterFatal s g f report (.call (.merge (s.plan g.key selection))) [] [] false
  | moving {d : Dependent} {l keep : String} (hd : d ∈ s.dependents) (hl : l ∈ report.losers)
      (hkeep : report.keep = some keep)
      (hstatus : report.status = .notReconciled (RepointFailure.message ⟨d.table, l, f⟩)) :
      AfterFatal s g f report (.call (.repoint d.table d.column l keep)) [] [] false
  /-- The losers after the one that could not be deleted are still deleted. -/
  | deleting {front left : List String} {l : String} {rest : Transcript}
      {next outcome : PurgeOutcome} (hlosers : report.losers = front ++ l :: left)
      (hrest : (purgeFrom s.retry s.entity left next).Yields rest outcome)
      (hfailed : (l, f.message) ∈ report.failed) (hstatus : report.status = .notFullyCleaned) :
      AfterFatal s g f report (.call (.deleteIds s.entity.table s.entity.idColumn [l])) rest left
        false

/-- The losers that are left are all that the group still changes. -/
theorem AfterFatal.alters_iff {report : GroupReport} {a : Action} {left : List String}
    {transient : Bool} (hc : AfterFatal s g f report a h left transient) :
    (∃ e ∈ h, e.1.Alters) ↔ left ≠ [] := by
  cases hc with
  | counting _ hrest _ _ =>
    refine iff_of_false ?_ (not_not_intro rfl)
    rintro ⟨e, he, halters⟩
    exact (hrest e he).quiet.not_alters halters
  | merging => simp
  | moving => simp
  | deleting _ hrest _ _ =>
    cases left with
    | nil =>
      obtain ⟨rfl, -⟩ := hrest
      simp
    | cons l left =>
      refine iff_of_true ?_ (List.cons_ne_nil _ _)
      obtain ⟨e, he, hdelete⟩ := yields_purgeFrom hrest l List.mem_cons_self
      exact ⟨e, he, .deleteIds _ _ _, trivial, hdelete⟩

/-- A plan of which a call failed fatally. -/
theorem PlannedCourse.afterFatal {selection : Selection} {counts : List RefCount}
    {outcome : GroupReport × Bool}
    (hc : PlannedCourse s (s.plan g.key selection) (g.selected selection counts)
      (before ++ e :: after) outcome) (hf : FailedFatally f e) :
    ∃ left, AfterFatal s g f outcome.1 e.1 after left outcome.2 := by
  have hfinal : f.isRetryable = false := by
    simpa using Failure.not_retryable_of_fatal hf.1
  generalize hsplit : before ++ e :: after = h at hc
  cases hc with
  | failed hmerging =>
    subst hsplit
    obtain ⟨rfl, haction, hreply⟩ := fatal_last hmerging hf
    cases hreply
    rw [haction, GroupReport.unreconciled, hfinal]
    exact ⟨[], .merging rfl rfl⟩
  | merged hmerging =>
    subst hsplit
    cases (fatal_last hmerging hf).2.2
  | stepwise hmerging hsteps =>
    rcases split_append hsplit.symm with ⟨rest, rfl, rfl⟩ | ⟨front, rfl, rfl⟩
    · cases (fatal_last hmerging hf).2.2
    · generalize hsplit : front ++ e :: after = steps at hsteps
      cases hsteps with
      | stuck hmoves =>
        subst hsplit
        obtain ⟨rfl, d, hd, l, hl, haction, hreply⟩ := repointFrom_fatal hmoves hf
        cases hreply
        rw [haction, GroupReport.unreconciled, hfinal]
        exact ⟨[], .moving hd hl rfl rfl⟩
      | purged hmoves hdeletes =>
        rcases split_append hsplit.symm with ⟨rest, rfl, rfl⟩ | ⟨front, rfl, rfl⟩
        · obtain ⟨-, d, -, l, -, -, hreply⟩ := repointFrom_fatal hmoves hf
          cases hreply
        · obtain ⟨front, l, left, next, hlosers, haction, hrest, hfailed⟩ :=
            purgeFrom_fatal hdeletes hf
          rw [haction]
          refine ⟨left, .deleting hlosers hrest hfailed (if_neg ?_)⟩
          rw [List.isEmpty_iff]
          exact List.ne_nil_of_mem hfailed

/-- A group of which a call failed fatally. -/
theorem GroupCourse.afterFatal (hwet : s.dryRun = false) {report : GroupReport} {transient : Bool}
    (hc : GroupCourse s run g (before ++ e :: after) (.ok (report, transient)))
    (hf : FailedFatally f e) : ∃ left, AfterFatal s g f report e.1 after left transient := by
  generalize hsplit : before ++ e :: after = h at hc
  generalize hend : (Except.ok (report, transient) : Except Stop _) = result at hc
  cases hc with
  | uncounted hcounting =>
    subst hsplit
    cases hend
    have hcounts := (only_countsFor s g).yields hcounting
    obtain ⟨-, r, rfl⟩ := hf
    rcases hcounts _ (List.mem_append_right _ List.mem_cons_self) with ⟨others, hpick⟩ |
      ⟨job, hjob, haction⟩
    · cases hpick
    · rw [haction]
      refine ⟨[], .counting hjob (fun e he => ?_) rfl rfl⟩
      exact hcounts e (List.mem_append_right _ (List.mem_cons_of_mem _ he))
  | empty hcounting _ =>
    subst hsplit
    exact absurd hf (not_fatal_of_counts hcounting e (by simp))
  | previewed _ _ hdry => cases hwet.symm.trans hdry
  | unwritten => cases hend
  | planned hcounting _ _ hwriting hrest =>
    cases hend
    rcases split_append hsplit.symm with ⟨rest, rfl, -⟩ | ⟨front, rfl, hlater⟩
    · exact absurd hf (not_fatal_of_counts hcounting e (by simp))
    · rcases split_append hlater with ⟨rest, rfl, -⟩ | ⟨front, rfl, rfl⟩
      · exact absurd hf (not_fatal_of_writeJournal hwriting e (by simp))
      · exact hrest.afterFatal hf

/-- A group that was handled to its end changed something just where it got as far as a survivor. -/
theorem GroupCourse.alters_iff (hwet : s.dryRun = false) {report : GroupReport} {transient : Bool}
    (hc : GroupCourse s run g h (.ok (report, transient))) :
    (∃ e ∈ h, e.1.Alters) ↔ report.keep.isSome := by
  have hquiet : ∀ {result}, (countsFor s g).Yields h result → ¬ ∃ e ∈ h, e.1.Alters := by
    rintro result hcounting ⟨e, he, halters⟩
    exact ((only_countsFor s g).yields hcounting e he).quiet.not_alters halters
  generalize hend : (Except.ok (report, transient) : Except Stop _) = result at hc
  cases hc with
  | uncounted hcounting =>
    cases hend
    exact iff_of_false (hquiet hcounting) Bool.false_ne_true
  | empty hcounting _ =>
    cases hend
    exact iff_of_false (hquiet hcounting) Bool.false_ne_true
  | previewed _ _ hdry => cases hwet.symm.trans hdry
  | unwritten => cases hend
  | planned _ _ _ _ hrest =>
    cases hend
    have hkeep := congrArg GroupPreview.keep hrest.preview
    refine iff_of_true ?_ (by rw [show report.keep = _ from hkeep]; rfl)
    obtain ⟨e, he, hmerge⟩ := hrest.exists_merge
    exact ⟨e, List.mem_append_right _ (List.mem_append_right _ he), .merge _, trivial, hmerge⟩

end RegistryDedup
