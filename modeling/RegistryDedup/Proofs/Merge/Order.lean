import RegistryDedup.Proofs.Merge.Course
import RegistryDedup.Run.World
import RegistryDedup.Store.Faults
import RegistryDedup.Store.Tables

/-!
# The order of the calls for a group

Whatever the store answers, the calls that change a table come in a fixed order, and a failure on
the way keeps the later ones from being made.

- `MovesDone`: what is asked where all references to the losers were moved. Each move came to its
  end, and no call among them ended in a failure.
- `Chosen`: the survivor and the losers of a group, by the counts that were answered.
- `Orderly`: the order of the calls for one group. `asks_mergeGroup_orderly` has it at every point
  of a run, since what was asked up to a point has it if all of it has.
- `GroupParts`: what is asked for a group falls into its count, its entry in the journal, its merge
  in one transaction, its moves and its deletes, from which the order is read off.
- `InGroups`: a run asks for one group after the other, and changes nothing besides.
  `asks_inGroups` has what holds of each group at the points of a whole run.
- `mergeAll_inOrder`: the order of the calls of a whole run.
-/

namespace RegistryDedup

variable {s : Settings} {run : String} {g : DuplicateGroup} {policy : RetryPolicy} {h : Transcript}

/-! ## Moving all references -/

/-- An attempt of a move that came to its end: references were moved, or there were none to move. -/
def MovedBy (d : Dependent) (loser keep : String) (e : Action.interface.Exchange) : Prop :=
  ∃ reply : Reply Nat,
    e = ⟨Action.call (.repoint d.table d.column loser keep), Attempt.answered reply⟩ ∧
    ∀ f, reply = .error f → f.isNotFound

theorem not_movedBy {e : Action.interface.Exchange}
    (he : ∀ table column source target, e.1 ≠ .call (.repoint table column source target))
    (d : Dependent) (loser keep : String) : ¬ MovedBy d loser keep e := by
  rintro ⟨reply, rfl, -⟩
  exact he _ _ _ _ rfl

/-- What is asked where some moves came to their ends, each with all its attempts. -/
structure MovesDone (policy : RetryPolicy) (keep : String) (moves : List (Dependent × String))
    (h : Transcript) : Prop where
  moved : ∀ m ∈ moves, ∃ e ∈ h, MovedBy m.1 m.2 keep e
  /-- An attempt after which a move is not tried again ended it well. -/
  ends : ∀ (r : Request) (x : Attempt r.Answer), ⟨Action.call r, x⟩ ∈ h →
    Run.Retried policy "repoint" r ⟨Action.call r, x⟩ ∨
      ∀ f, x.reply policy "repoint" = .error f → f.isNotFound
  bounded : ∀ (r : Request) (rest : Transcript), Run.Bounded policy "repoint" r rest →
    Run.Bounded policy "repoint" r (h ++ rest)

namespace MovesDone

variable {keep : String}

theorem nil : MovesDone policy keep [] [] where
  moved := by simp
  ends := by simp
  bounded _ _ hrest := hrest

theorem append {moves moves' : List (Dependent × String)} {h' : Transcript}
    (hm : MovesDone policy keep moves h) (hm' : MovesDone policy keep moves' h') :
    MovesDone policy keep (moves ++ moves') (h ++ h') := by
  refine { moved := fun m hmem => ?_, ends := fun r x hx => ?_, bounded := fun r rest hrest => ?_ }
  · rcases List.mem_append.mp hmem with hmem | hmem
    · obtain ⟨e, he, hmoved⟩ := hm.moved m hmem
      exact ⟨e, List.mem_append_left _ he, hmoved⟩
    · obtain ⟨e, he, hmoved⟩ := hm'.moved m hmem
      exact ⟨e, List.mem_append_right _ he, hmoved⟩
  · rcases List.mem_append.mp hx with hx | hx
    · exact hm.ends r x hx
    · exact hm'.ends r x hx
  · rw [List.append_assoc]
    exact hm.bounded r _ (hm'.bounded r rest hrest)

/-- A failure that says that a row is not there is no reason to try again. -/
theorem not_retryable {f : Failure} (hf : f.isNotFound) : ¬ f.isRetryable := by
  rw [Failure.isNotFound, beq_iff_eq] at hf
  rw [Failure.isRetryable, beq_iff_eq, hf]
  exact FailureKind.noConfusion

/-- One move that came to its end. -/
theorem single {d : Dependent} {loser : String} {reply : Reply Nat}
    (hy : (Run.repoint policy d loser keep).Yields h reply)
    (hreply : ∀ f, reply = .error f → f.isNotFound) :
    MovesDone policy keep [(d, loser)] h := by
  obtain ⟨fails, x, rfl, rfl, hfails, hlen, -⟩ := Run.yields_calling hy
  refine { moved := ?_, ends := fun r y hmem => ?_, bounded := fun r rest hrest => ?_ }
  · rintro m (_ | ⟨_, hm⟩)
    · refine ⟨_, List.mem_append_right _ List.mem_cons_self, ?_⟩
      cases x with
      | answered reply => exact ⟨reply, rfl, hreply⟩
      | late => exact absurd (hreply _ rfl) Bool.false_ne_true
    · exact absurd hm List.not_mem_nil
  · rcases List.mem_append.mp hmem with hmem | hmem
    · obtain ⟨z, f, he, hf, hretry⟩ := hfails _ hmem
      obtain rfl : r = _ := Action.call.inj (Sigma.mk.inj he).1
      exact .inl ⟨z, f, he, hf, hretry⟩
    · have he := List.mem_singleton.mp hmem
      obtain rfl : r = _ := Action.call.inj (Sigma.mk.inj he).1
      obtain rfl : y = x := eq_of_heq (Sigma.mk.inj he).2
      exact .inr hreply
  · rw [List.append_assoc]
    refine hrest.block (fun hretried => ?_) hlen
    obtain ⟨z, f, he, hf, hretry⟩ := hretried
    obtain rfl : _ = r := Action.call.inj (Sigma.mk.inj he).1
    obtain rfl : x = z := eq_of_heq (Sigma.mk.inj he).2
    exact not_retryable (hreply f hf) hretry

end MovesDone

theorem yields_repointDependent {keep : String} {d : Dependent} {losers : List String}
    {moved n : Nat} (hy : (repointDependent policy keep d losers moved).Yields h (.ok n)) :
    MovesDone policy keep (losers.map fun l => (d, l)) h := by
  induction losers generalizing h moved with
  | nil =>
    obtain ⟨rfl, -⟩ := hy
    exact .nil
  | cons l losers ih =>
    rw [repointDependent, Program.bind_eq, Program.yields_bind] at hy
    obtain ⟨reply, h₁, h₂, rfl, hcall, hy⟩ := hy
    cases reply with
    | ok k => exact (MovesDone.single hcall (by simp)).append (ih hy)
    | error f =>
      dsimp only at hy
      split at hy
      · next hf => exact (MovesDone.single hcall (by simpa using hf)).append (ih hy)
      · cases hy.2

theorem yields_repointFrom {keep : String} {losers : List String} {dependents : List Dependent}
    {moved tally : Tally}
    (hy : (repointFrom policy keep losers dependents moved).Yields h (.ok tally)) :
    MovesDone policy keep (dependents.flatMap fun d => losers.map fun l => (d, l)) h := by
  induction dependents generalizing h moved with
  | nil =>
    obtain ⟨rfl, -⟩ := hy
    exact .nil
  | cons d dependents ih =>
    rw [repointFrom, Program.bind_eq, Program.yields_bind] at hy
    obtain ⟨reply, h₁, h₂, rfl, hfirst, hy⟩ := hy
    cases reply with
    | error failure => cases hy.2
    | ok n => exact (yields_repointDependent hfirst).append (ih hy)

/-- Where all references were moved, there is a move for each dependent and each loser. -/
theorem yields_repointGroup {keep : String} {losers : List String} {dependents : List Dependent}
    {tally : Tally} (hy : (repointGroup policy keep losers dependents).Yields h (.ok tally)) :
    MovesDone policy keep (dependents.flatMap fun d => losers.map fun l => (d, l)) h :=
  yields_repointFrom hy

/-- Of some losers after others, there is a delete for each. -/
theorem yields_purgeFrom {table : EntityTable} {losers : List String}
    {first outcome : PurgeOutcome}
    (hy : (purgeFrom policy table losers first).Yields h outcome) :
    ∀ l ∈ losers, ∃ e ∈ h, e.1 = .call (.deleteIds table.table table.idColumn [l]) := by
  induction losers generalizing h first with
  | nil =>
    intro l hl
    cases hl
  | cons l losers ih =>
    rw [purgeFrom, Program.bind_eq, Program.yields_bind] at hy
    obtain ⟨reply, h₁, h₂, rfl, hcall, hy⟩ := hy
    obtain ⟨fails, x, rfl, -⟩ := Run.yields_calling hcall
    rintro l' (_ | ⟨_, hl'⟩)
    · exact ⟨_, List.mem_append_left _ (List.mem_append_right _ List.mem_cons_self), rfl⟩
    · obtain ⟨e, he, haction⟩ := ih hy l' hl'
      exact ⟨e, List.mem_append_right _ he, haction⟩

/-- Where the losers were deleted, there is a delete for each of them. -/
theorem yields_purgeLosers {table : EntityTable} {losers : List String} {outcome : PurgeOutcome}
    (hy : (purgeLosers policy table losers).Yields h outcome) :
    ∀ l ∈ losers, ∃ e ∈ h, e.1 = .call (.deleteIds table.table table.idColumn [l]) :=
  yields_purgeFrom hy

/-! ## One group -/

/-- A delete by id. -/
def Action.Deletion (a : Action) : Prop :=
  ∃ table column ids, a = .call (.deleteIds table column ids)

/-- A call that changes a group step by step. -/
def Action.Stepwise (a : Action) : Prop :=
  (∃ table column source target, a = .call (.repoint table column source target)) ∨ a.Deletion

/-- The references of a group were counted, and a count ended in a failure after its attempts. -/
def CountsFailed (s : Settings) (g : DuplicateGroup) (h : Transcript) : Prop :=
  s.policy.needsCounts ∧ ∃ counting results, counting <+: h ∧
    (gatherAll s.retry (max s.concurrency 1) (countJobs g.ids s.dependents)).Yields counting
      results ∧
    ∃ r ∈ results, ∃ f, r.reply = .error f

/-- The survivor and the losers of a group, by the counts that were answered. -/
def Chosen (s : Settings) (g : DuplicateGroup) (h : Transcript) (selection : Selection) : Prop :=
  ∃ counting counts, counting <+: h ∧ (countsFor s g).Yields counting (.ok counts) ∧
    select s.policy g.members counts = some selection

/-- What may be done to a group that is split into a survivor and losers. -/
def Confined (s : Settings) (g : DuplicateGroup) (selection : Selection) (a : Action) : Prop :=
  (∃ path entry, a = .appendJournal path entry) ∨
    a = .call (.merge (s.plan g.key selection)) ∨
    a.Moves s.dependents selection.loserIds selection.keep.id ∨
    a.Deletes s.entity selection.loserIds

/-- The order of the calls for one group. -/
structure Orderly (s : Settings) (g : DuplicateGroup) (h : Transcript) : Prop where
  /-- Where a count failed nothing is changed and nothing is written to the journal. -/
  uncounted : CountsFailed s g h → ∀ e ∈ h, e.1.Quiet
  /-- Where a merge in one transaction failed or has an outcome, nothing is done step by step. -/
  transacted : ∀ plan merging reply, merging <:+: h →
    (Run.merge s.retry plan).Yields merging reply → reply ≠ .ok none → ∀ e ∈ h, ¬ e.1.Stepwise
  /-- All that is changed concerns the survivor and the losers of the group. -/
  confined : ∀ e ∈ h, ¬ e.1.Quiet → ∃ selection, Chosen s g h selection ∧
    Confined s g selection e.1
  /-- Before a loser is deleted, the references of all dependents to all losers were moved. -/
  movedFirst : ∀ selection, Chosen s g h selection → ∀ before e after, h = before ++ e :: after →
    e.1.Deletion → ∀ d ∈ s.dependents, ∀ l ∈ selection.loserIds,
      ∃ e' ∈ before, MovedBy d l selection.keep.id e'
  /-- Where a move failed nothing is deleted. -/
  unmoved : ∀ d l keep moving f, moving <:+: h →
    (Run.repoint s.retry d l keep).Yields moving (.error f) → ¬ f.isNotFound →
    ∀ e ∈ h, ¬ e.1.Deletion

/-- The counts that were answered settle how a group is split. -/
theorem Chosen.unique {a b : Selection} (ha : Chosen s g h a) (hb : Chosen s g h b) : a = b := by
  obtain ⟨c₁, counts₁, ⟨r₁, rfl⟩, hy₁, hs₁⟩ := ha
  obtain ⟨c₂, counts₂, ⟨r₂, hr⟩, hy₂, hs₂⟩ := hb
  obtain ⟨-, hcounts⟩ := hy₂.unique hy₁ hr
  cases hcounts
  exact Option.some.inj (hs₁.symm.trans hs₂)

theorem Chosen.mono {h' : Transcript} {selection : Selection} (hc : Chosen s g h selection)
    (hh : h <+: h') : Chosen s g h' selection := by
  obtain ⟨counting, counts, hcounting, hrest⟩ := hc
  exact ⟨counting, counts, hcounting.trans hh, hrest⟩

theorem Action.Quiet.not_stepwise {a : Action} (ha : a.Quiet) : ¬ a.Stepwise := by
  rintro (⟨table, column, source, target, rfl⟩ | ⟨table, column, ids, rfl⟩) <;> exact ha trivial

theorem Action.Notes.not_stepwise {a : Action} (ha : a.Notes) : ¬ a.Stepwise := by
  rcases ha with rfl | ⟨path, entry, rfl⟩ <;> simp [Stepwise, Deletion]

theorem Action.Moves.not_deletion {dependents : List Dependent} {losers : List String}
    {keep : String} {a : Action} (ha : a.Moves dependents losers keep) : ¬ a.Deletion := by
  obtain ⟨d, -, l, -, rfl⟩ := ha
  simp [Deletion]

theorem Orderly.of_quiet (hquiet : ∀ e ∈ h, e.1.Quiet) : Orderly s g h where
  uncounted _ := hquiet
  transacted _ _ _ _ _ _ e he := (hquiet e he).not_stepwise
  confined e he hchanges := absurd (hquiet e he) hchanges
  movedFirst := by
    rintro selection - before e after rfl hdelete
    have hstep := (hquiet e (List.mem_append_right _ List.mem_cons_self)).not_stepwise
    exact absurd (.inr hdelete) hstep
  unmoved _ _ _ _ _ _ _ _ e he hdelete := (hquiet e he).not_stepwise (.inr hdelete)

/-- What was counted for a group up to the end leaves no count that failed. -/
theorem not_countsFailed {counting rest : Transcript} {counts : List RefCount}
    (hy : (countsFor s g).Yields counting (.ok counts)) :
    ¬ CountsFailed s g (counting ++ rest) := by
  rintro ⟨hneeds, counting', results, ⟨rest', hrest⟩, hgather, r, hr, f, hf⟩
  rw [countsFor, if_pos hneeds, countGroup, Program.bind_eq, Program.yields_bind] at hy
  obtain ⟨results', h₁, h₂, rfl, hgather', rfl, hsum⟩ := hy
  rw [List.append_nil] at hrest
  obtain ⟨-, rfl⟩ := hgather.unique hgather' hrest
  obtain ⟨failure, herr⟩ := sumCounts_eq_error.mpr ⟨r, hr, f, hf⟩
  rw [herr] at hsum
  cases hsum

/-! ## The parts of a group -/

/-- The parts of what is asked for a plan: its merge in one transaction, and the moves and deletes
that are made step by step. -/
structure PlanParts (s : Settings) (plan : MergePlan) (merging moves deletes : Transcript) :
    Prop where
  merging_merge : ∀ e ∈ merging, e.1 = .call (.merge plan)
  moves_moves : ∀ e ∈ moves, e.1.Moves plan.dependents plan.losers plan.keep
  deletes_deletes : ∀ e ∈ deletes, e.1.Deletes plan.entity plan.losers
  /-- Single calls are made only where the store has no transactions. -/
  stepwise : moves ++ deletes = [] ∨ (Run.merge s.retry plan).Yields merging (.ok none)
  /-- Losers are deleted only where all references to them were moved. -/
  moved : deletes = [] ∨ MovesDone s.retry plan.keep
    (plan.dependents.flatMap fun d => plan.losers.map fun l => (d, l)) moves
  /-- No loser is left out. -/
  purged : deletes = [] ∨ ∀ l ∈ plan.losers, ∃ e ∈ deletes,
    e.1 = .call (.deleteIds plan.entity.table plan.entity.idColumn [l])

/-- The parts of what is asked for a group whose survivor is chosen: its count and its entry in the
journal come before those of its plan. -/
structure GroupParts (s : Settings) (g : DuplicateGroup) (selection : Selection)
    (counting writing merging moves deletes : Transcript) : Prop extends
    PlanParts s (s.plan g.key selection) merging moves deletes where
  counted : ∃ counts, (countsFor s g).Yields counting (.ok counts) ∧
    select s.policy g.members counts = some selection
  writing_notes : ∀ e ∈ writing, e.1.Notes

/-- A plan that came no further than its merge in one transaction. -/
theorem PlanParts.of_merging {plan : MergePlan} {merging : Transcript}
    (hmerging : ∀ e ∈ merging, e.1 = .call (.merge plan)) : PlanParts s plan merging [] [] where
  merging_merge := hmerging
  moves_moves := by simp
  deletes_deletes := by simp
  stepwise := .inl rfl
  moved := .inl rfl
  purged := .inl rfl

section

variable {plan : MergePlan} {report : GroupReport} {outcome : GroupReport × Bool}

theorem StepwiseCourse.parts {merging : Transcript} (hc : StepwiseCourse s plan report h outcome)
    (hmerging : (Run.merge s.retry plan).Yields merging (.ok none)) :
    ∃ moves deletes, h = moves ++ deletes ∧ PlanParts s plan merging moves deletes := by
  have hmerge : ∀ e ∈ merging, e.1 = .call (.merge plan) := Run.only_calling.yields hmerging
  cases hc with
  | stuck hmoves =>
    refine ⟨h, [], (List.append_nil h).symm, ?_⟩
    exact {
      merging_merge := hmerge
      moves_moves := (only_repointGroup _ _ _ _).yields hmoves
      deletes_deletes := by simp
      stepwise := .inr hmerging
      moved := .inl rfl
      purged := .inl rfl }
  | purged hmoves hdeletes =>
    refine ⟨_, _, rfl, ?_⟩
    exact {
      merging_merge := hmerge
      moves_moves := (only_repointGroup _ _ _ _).yields hmoves
      deletes_deletes := (only_purgeLosers _ _ _).yields hdeletes
      stepwise := .inr hmerging
      moved := .inr (yields_repointGroup hmoves)
      purged := .inr (yields_purgeLosers hdeletes) }

theorem PlannedCourse.parts (hc : PlannedCourse s plan report h outcome) :
    ∃ merging moves deletes, h = merging ++ (moves ++ deletes) ∧
      PlanParts s plan merging moves deletes := by
  have hwhole : ∀ reply, (Run.merge s.retry plan).Yields h reply → PlanParts s plan h [] [] :=
    fun reply hmerging => .of_merging (Run.only_calling.yields hmerging)
  cases hc with
  | failed hmerging => exact ⟨h, [], [], (List.append_nil h).symm, hwhole _ hmerging⟩
  | merged hmerging => exact ⟨h, [], [], (List.append_nil h).symm, hwhole _ hmerging⟩
  | stepwise hmerging hsteps =>
    obtain ⟨moves, deletes, rfl, hparts⟩ := hsteps.parts hmerging
    exact ⟨_, moves, deletes, rfl, hparts⟩

end

/-- A group with no survivor changes nothing; one with a survivor has its parts. -/
theorem GroupCourse.parts {outcome : Except Stop (GroupReport × Bool)}
    (hc : GroupCourse s run g h outcome) :
    (∀ e ∈ h, e.1.Quiet) ∨ ∃ selection counting writing merging moves deletes,
      h = counting ++ (writing ++ (merging ++ (moves ++ deletes))) ∧
      GroupParts s g selection counting writing merging moves deletes := by
  have hquiet : ∀ counting result, (countsFor s g).Yields counting result →
      ∀ e ∈ counting, e.1.Quiet := by
    intro counting result hcounting e he
    exact ((only_countsFor s g).yields hcounting e he).quiet
  cases hc with
  | uncounted hcounting => exact .inl (hquiet _ _ hcounting)
  | empty hcounting _ => exact .inl (hquiet _ _ hcounting)
  | previewed hcounting _ _ => exact .inl (hquiet _ _ hcounting)
  | @unwritten counting writing _ selection _ hcounting hselect _ hwriting =>
    refine .inr ⟨selection, counting, writing, [], [], [], by simp, ?_⟩
    exact {
      toPlanParts := .of_merging (by simp)
      counted := ⟨_, hcounting, hselect⟩
      writing_notes := (only_writeJournal _ _ _ _).yields hwriting }
  | @planned _ _ _ _ selection _ hcounting hselect _ hwriting hrest =>
    obtain ⟨merging, moves, deletes, rfl, hparts⟩ := hrest.parts
    refine .inr ⟨selection, _, _, merging, moves, deletes, rfl, ?_⟩
    exact {
      toPlanParts := hparts
      counted := ⟨_, hcounting, hselect⟩
      writing_notes := (only_writeJournal _ _ _ _).yields hwriting }

/-! ## Cuts before an item -/

section

variable {α : Type} {before after : List α} {a : α}

/-- An item of two lists one after the other is in the first one or in the second. -/
theorem split_append {xs ys : List α} (h : xs ++ ys = before ++ a :: after) :
    (∃ rest, xs = before ++ a :: rest ∧ after = rest ++ ys) ∨
      ∃ front, before = xs ++ front ∧ ys = front ++ a :: after := by
  rcases List.append_eq_append_iff.mp h with ⟨front, rfl, hys⟩ | ⟨rest, rfl, hrest⟩
  · exact .inr ⟨front, rfl, hys⟩
  · cases rest with
    | nil => exact .inr ⟨[], by simp, by simpa using hrest.symm⟩
    | cons b rest =>
      obtain ⟨rfl, rfl⟩ := List.cons.inj hrest
      exact .inl ⟨rest, rfl, rfl⟩

/-- An item of many lists one after the other is in one of them, after those before it. -/
theorem split_flatten {β : Type} {f : β → List α} {xs : List β}
    (h : (xs.map f).flatten = before ++ a :: after) :
    ∃ front x own rest back, xs = front ++ x :: back ∧ f x = own ++ a :: rest ∧
      before = (front.map f).flatten ++ own ∧ after = rest ++ (back.map f).flatten := by
  induction xs generalizing before with
  | nil => simp at h
  | cons x xs ih =>
    rw [List.map_cons, List.flatten_cons] at h
    rcases split_append h with ⟨rest, hx, rfl⟩ | ⟨front, rfl, hrest⟩
    · exact ⟨[], x, before, rest, xs, rfl, hx, rfl, rfl⟩
    · obtain ⟨front', y, own, rest, back, rfl, hy, rfl, rfl⟩ := ih hrest
      exact ⟨x :: front', y, own, rest, back, rfl, hy, by simp, rfl⟩

/-- What comes before an item covers what cannot have it. -/
theorem prefix_of_not_mem {front back : List α} (h : front ++ back = before ++ a :: after)
    (ha : a ∉ front) : front <+: before := by
  rcases split_append h with ⟨rest, rfl, -⟩ | ⟨rest, rfl, -⟩
  · exact absurd (by simp) ha
  · exact List.prefix_append front rest

end

namespace GroupParts

variable {selection : Selection} {counting writing merging moves deletes : Transcript}

theorem counting_quiet (hp : GroupParts s g selection counting writing merging moves deletes) :
    ∀ e ∈ counting, e.1.Quiet := by
  obtain ⟨counts, hcounting, -⟩ := hp.counted
  exact fun e he => ((only_countsFor s g).yields hcounting e he).quiet

theorem chosen (hp : GroupParts s g selection counting writing merging moves deletes)
    (rest : Transcript) : Chosen s g (counting ++ rest) selection := by
  obtain ⟨counts, hcounting, hselect⟩ := hp.counted
  exact ⟨counting, counts, List.prefix_append _ _, hcounting, hselect⟩

/-- An exchange is in one of the parts. -/
theorem mem_cases (hp : GroupParts s g selection counting writing merging moves deletes)
    {e : Action.interface.Exchange}
    (he : e ∈ counting ++ (writing ++ (merging ++ (moves ++ deletes)))) :
    (e.1.Quiet ∨ e.1.Notes) ∨ (e ∈ merging ∧ e.1 = .call (.merge (s.plan g.key selection))) ∨
      (e ∈ moves ∧ e.1.Moves s.dependents selection.loserIds selection.keep.id) ∨
      (e ∈ deletes ∧ e.1.Deletes s.entity selection.loserIds) := by
  rw [List.mem_append, List.mem_append, List.mem_append, List.mem_append] at he
  rcases he with he | he | he | he | he
  · exact .inl (.inl (hp.counting_quiet e he))
  · exact .inl (.inr (hp.writing_notes e he))
  · exact .inr (.inl ⟨he, hp.merging_merge e he⟩)
  · exact .inr (.inr (.inl ⟨he, hp.moves_moves e he⟩))
  · exact .inr (.inr (.inr ⟨he, hp.deletes_deletes e he⟩))

theorem mem_merging (hp : GroupParts s g selection counting writing merging moves deletes)
    {e : Action.interface.Exchange}
    (he : e ∈ counting ++ (writing ++ (merging ++ (moves ++ deletes)))) {plan : MergePlan}
    (hmerge : e.1 = .call (.merge plan)) : e ∈ merging := by
  rcases hp.mem_cases he with (hquiet | hnotes) | ⟨hmem, -⟩ | ⟨-, d, -, l, -, hmove⟩ |
    ⟨-, l, -, hdelete⟩
  · rw [hmerge] at hquiet
    exact absurd trivial hquiet
  · rw [hmerge] at hnotes
    exact absurd hnotes (by simp [Action.Notes])
  · exact hmem
  · cases hmerge.symm.trans hmove
  · cases hmerge.symm.trans hdelete

theorem mem_moves (hp : GroupParts s g selection counting writing merging moves deletes)
    {e : Action.interface.Exchange}
    (he : e ∈ counting ++ (writing ++ (merging ++ (moves ++ deletes))))
    {table column source target : String}
    (hmove : e.1 = .call (.repoint table column source target)) : e ∈ moves := by
  have hstep : e.1.Stepwise := .inl ⟨_, _, _, _, hmove⟩
  rcases hp.mem_cases he with (hquiet | hnotes) | ⟨-, hmerge⟩ | ⟨hmem, -⟩ | ⟨-, l, -, hdelete⟩
  · exact absurd hstep hquiet.not_stepwise
  · exact absurd hstep hnotes.not_stepwise
  · cases hmove.symm.trans hmerge
  · exact hmem
  · cases hmove.symm.trans hdelete

theorem mem_deletes (hp : GroupParts s g selection counting writing merging moves deletes)
    {e : Action.interface.Exchange}
    (he : e ∈ counting ++ (writing ++ (merging ++ (moves ++ deletes)))) (hdelete : e.1.Deletion) :
    e ∈ deletes := by
  rcases hp.mem_cases he with (hquiet | hnotes) | ⟨-, hmerge⟩ | ⟨-, hmoves⟩ | ⟨hmem, -⟩
  · exact absurd (.inr hdelete) hquiet.not_stepwise
  · exact absurd (.inr hdelete) hnotes.not_stepwise
  · obtain ⟨table, column, ids, hdelete⟩ := hdelete
    cases hmerge.symm.trans hdelete
  · exact absurd hdelete hmoves.not_deletion
  · exact hmem

/-- Before its merge a group makes no call that changes anything. -/
theorem bounded_early (hp : GroupParts s g selection counting writing merging moves deletes)
    {operation : String} {r : Request} (hr : r.Changes) {rest : Transcript}
    (hrest : Run.Bounded policy operation r rest) :
    Run.Bounded policy operation r (counting ++ (writing ++ rest)) := by
  refine (hrest.skip fun e he hretried => ?_).skip fun e he hretried => ?_
  · have hnotes := hp.writing_notes e he
    rw [hretried.action_eq] at hnotes
    exact absurd hnotes (by simp [Action.Notes])
  · have hquiet := hp.counting_quiet e he
    rw [hretried.action_eq] at hquiet
    exact hquiet hr

/-- A merge in one transaction after which single calls are made was answered with no outcome. -/
theorem transacted (hp : GroupParts s g selection counting writing merging moves deletes)
    {plan : MergePlan} {call : Transcript} {reply : Reply (Option MergeOutcome)}
    (hcall : call <:+: counting ++ (writing ++ (merging ++ (moves ++ deletes))))
    (hy : (Run.merge s.retry plan).Yields call reply)
    (hsteps : moves ++ deletes ≠ []) : reply = .ok none := by
  -- All attempts of the merge are in one row, and the last of them has no outcome.
  have hdone := hp.stepwise.resolve_left hsteps
  obtain ⟨fails, last, rfl, hlast, hfails, hlen, -⟩ := Run.yields_calling hdone
  refine Run.Bounded.reply (r := .merge plan) (P := fun reply => reply = .ok none) ?_
    (fun x hx => ?_) hcall hy
  · refine hp.bounded_early (r := .merge plan) trivial ?_
    rw [List.append_assoc, List.singleton_append]
    refine (Run.bounded_of_absent fun e he haction => ?_).block (fun hretried => ?_) hlen
    · rcases List.mem_append.mp he with he | he
      · obtain ⟨d, -, l, -, hmove⟩ := hp.moves_moves e he
        cases haction.symm.trans hmove
      · obtain ⟨l, -, hdelete⟩ := hp.deletes_deletes e he
        cases haction.symm.trans hdelete
    · obtain ⟨y, f, he, hf, -⟩ := hretried
      obtain rfl := Request.merge.inj (Action.call.inj (Sigma.mk.inj he).1)
      obtain rfl : last = y := eq_of_heq (Sigma.mk.inj he).2
      cases hlast.symm.trans hf
  · have hmem := hp.mem_merging hx rfl
    obtain rfl := Request.merge.inj (Action.call.inj (hp.merging_merge _ hmem))
    rcases List.mem_append.mp hmem with hmem | hmem
    · exact .inl (hfails _ hmem)
    · obtain rfl : x = last := eq_of_heq (Sigma.mk.inj (List.mem_singleton.mp hmem)).2
      exact .inr hlast

/-- A move of a group that came to its deletes did not fail. -/
theorem unmoved (hp : GroupParts s g selection counting writing merging moves deletes)
    {d : Dependent} {l keep : String} {call : Transcript} {reply : Reply Nat}
    (hcall : call <:+: counting ++ (writing ++ (merging ++ (moves ++ deletes))))
    (hy : (Run.repoint s.retry d l keep).Yields call reply) (hdeletes : deletes ≠ []) :
    ∀ f, reply = .error f → f.isNotFound := by
  -- With a delete in the group each of its moves came to its end.
  have hmoved := hp.moved.resolve_left hdeletes
  refine Run.Bounded.reply (r := .repoint d.table d.column l keep)
    (P := fun reply => ∀ f, reply = .error f → f.isNotFound) ?_
    (fun x hx => hmoved.ends _ x (hp.mem_moves hx rfl)) hcall hy
  refine hp.bounded_early (r := .repoint d.table d.column l keep) trivial
    (Run.Bounded.skip (hmoved.bounded _ _ ?_) fun e he hretried => ?_)
  · refine Run.bounded_of_absent fun e he haction => ?_
    obtain ⟨l', -, hdelete⟩ := hp.deletes_deletes e he
    cases haction.symm.trans hdelete
  · cases hretried.action_eq.symm.trans (hp.merging_merge e he)

/-- All moves of a group come before its first delete. -/
theorem movedFirst (hp : GroupParts s g selection counting writing merging moves deletes)
    {before after : Transcript} {e : Action.interface.Exchange}
    (hsplit : counting ++ (writing ++ (merging ++ (moves ++ deletes))) = before ++ e :: after)
    (hdelete : e.1.Deletion) {d : Dependent} (hd : d ∈ s.dependents) {l : String}
    (hl : l ∈ selection.loserIds) : ∃ e' ∈ before, MovedBy d l selection.keep.id e' := by
  have hmem : e ∈ deletes := by
    refine hp.mem_deletes ?_ hdelete
    rw [hsplit]
    exact List.mem_append_right _ List.mem_cons_self
  have hmoved := hp.moved.resolve_left (List.ne_nil_of_mem hmem)
  have hpair : (d, l) ∈ s.dependents.flatMap fun d => selection.loserIds.map fun l => (d, l) :=
    List.mem_flatMap.mpr ⟨d, hd, List.mem_map_of_mem hl⟩
  obtain ⟨e', he', hdone⟩ := hmoved.moved _ hpair
  refine ⟨e', ?_, hdone⟩
  -- No part before the deletes has a delete, so all of them come before this one.
  have hfront : counting ++ (writing ++ (merging ++ moves)) <+: before := by
    refine prefix_of_not_mem (a := e) (by simpa using hsplit) fun hfront => ?_
    rcases List.mem_append.mp hfront with he | hfront
    · exact (hp.counting_quiet e he).not_stepwise (.inr hdelete)
    rcases List.mem_append.mp hfront with he | hfront
    · exact (hp.writing_notes e he).not_stepwise (.inr hdelete)
    rcases List.mem_append.mp hfront with he | he
    · obtain ⟨table, column, ids, hdelete⟩ := hdelete
      cases (hp.merging_merge e he).symm.trans hdelete
    · exact (hp.moves_moves e he).not_deletion hdelete
  refine hfront.subset ?_
  simp [he']

theorem orderly (hp : GroupParts s g selection counting writing merging moves deletes) :
    Orderly s g (counting ++ (writing ++ (merging ++ (moves ++ deletes)))) where
  uncounted hfailed := by
    obtain ⟨counts, hcounting, -⟩ := hp.counted
    exact absurd hfailed (not_countsFailed hcounting)
  transacted plan call reply hcall hy hreply e he hstep := by
    refine hreply (hp.transacted hcall hy ?_)
    rcases hstep with ⟨table, column, source, target, hmove⟩ | hdelete
    · exact List.ne_nil_of_mem (List.mem_append_left _ (hp.mem_moves he hmove))
    · exact List.ne_nil_of_mem (List.mem_append_right _ (hp.mem_deletes he hdelete))
  confined e he hchanges := by
    refine ⟨selection, hp.chosen _, ?_⟩
    rcases hp.mem_cases he with (hquiet | hnow | hentry) | ⟨-, hmerge⟩ | ⟨-, hmoves⟩ |
      ⟨-, hdeletes⟩
    · exact absurd hquiet hchanges
    · rw [hnow] at hchanges
      exact absurd trivial hchanges
    · exact .inl hentry
    · exact .inr (.inl hmerge)
    · exact .inr (.inr (.inl hmoves))
    · exact .inr (.inr (.inr hdeletes))
  movedFirst selection' hchosen before e after hsplit hdelete d hd l hl := by
    obtain rfl := hchosen.unique (hp.chosen _)
    exact hp.movedFirst hsplit hdelete hd hl
  unmoved d l keep call f hcall hy hf e he hdelete :=
    hf (hp.unmoved hcall hy (List.ne_nil_of_mem (hp.mem_deletes he hdelete)) f rfl)

end GroupParts

/-- What was asked up to a point is in order if all that was asked is. -/
theorem Orderly.of_append {rest : Transcript} (ho : Orderly s g (h ++ rest)) : Orderly s g h where
  uncounted := by
    rintro ⟨hneeds, counting, results, hcounting, hfailed⟩ e he
    have hcounting' : counting <+: h ++ rest := hcounting.trans (List.prefix_append _ _)
    exact ho.uncounted ⟨hneeds, counting, results, hcounting', hfailed⟩ e
      (List.mem_append_left _ he)
  transacted plan call reply hcall hy hreply e he :=
    ho.transacted plan call reply (hcall.trans (List.prefix_append _ _).isInfix) hy hreply e
      (List.mem_append_left _ he)
  confined e he hchanges := by
    obtain ⟨selection, ⟨counting, counts, hcounting, hy, hselect⟩, hconfined⟩ :=
      ho.confined e (List.mem_append_left _ he) hchanges
    refine ⟨selection, ⟨counting, counts, ?_, hy, hselect⟩, hconfined⟩
    rcases List.prefix_or_prefix_of_prefix hcounting (List.prefix_append h rest) with hpre | hpre
    · exact hpre
    · -- Up to a point at which something is changed the counts have come to their end.
      exact absurd ((only_countsFor s g).yields hy e (hpre.subset he)).quiet hchanges
  movedFirst selection hchosen before e after hsplit := by
    have hchosen' := hchosen.mono (List.prefix_append h rest)
    refine ho.movedFirst selection hchosen' before e (after ++ rest) ?_
    rw [hsplit, List.append_assoc, List.cons_append]
  unmoved d l keep call f hcall hy hf e he :=
    ho.unmoved d l keep call f (hcall.trans (List.prefix_append _ _).isInfix) hy hf e
      (List.mem_append_left _ he)

/-- At every point of a group its calls are in order. -/
theorem asks_mergeGroup_orderly (ha : (mergeGroup s run g).Asks h) : Orderly s g h := by
  -- The group could have gone on to its end, and then what it asked has its parts.
  obtain ⟨rest, outcome, hy⟩ := ha.exists_yields Action.answer_nonempty
  have ho : Orderly s g (h ++ rest) := by
    rcases (yields_mergeGroup hy).parts with hquiet | ⟨_, _, _, _, _, _, hsplit, hparts⟩
    · exact .of_quiet hquiet
    · rw [hsplit]
      exact hparts.orderly
  exact ho.of_append

/-! ## A whole run -/

/-- A run that is cut into what was asked for its groups, each with a property. Outside of the
groups nothing is changed. The groups are candidates of the entities that were fetched, from the
first on. -/
def InGroups (s : Settings) (run : String) (P : DuplicateGroup → Transcript → Prop)
    (h : Transcript) : Prop :=
  (∀ e ∈ h, e.1.Quiet) ∨
  ∃ (opening closing : Transcript) (entities : List Entity)
    (segments : List (DuplicateGroup × Transcript)),
    h = opening ++ ((segments.map (·.2)).flatten ++ closing) ∧
    ⟨Action.call (.fetchEntities s.entity), Attempt.answered (.ok entities)⟩ ∈ opening ∧
    (∀ e ∈ opening ++ closing, e.1.Quiet) ∧
    segments.map (·.1) <+: (Grouping.build s.normalizer entities).candidates ∧
    ∀ seg ∈ segments, (mergeGroup s run seg.1).Asks seg.2 ∧ P seg.1 seg.2

/-- What every group has at every point, the groups of a run have at every point of the run. -/
theorem asks_inGroups {backend : String} {P : DuplicateGroup → Transcript → Prop}
    (hP : ∀ g asked, (mergeGroup s run g).Asks asked → P g asked)
    (ha : (mergeAll s backend run).Asks h) : InGroups s run P h := by
  cases asks_mergeAll ha with
  | unread hquiet => exact .inl hquiet
  | read hfetch hopening hgroups hclosing =>
    obtain ⟨hbegun, hasked⟩ := hgroups.begun
    refine .inr ⟨_, _, _, _, rfl, hfetch, List.forall_mem_append.mpr ⟨hopening, hclosing⟩, hbegun,
      fun seg hseg => ?_⟩
    exact ⟨hasked seg hseg, hP seg.1 seg.2 (hasked seg hseg)⟩

/-- Outside of the groups nothing is changed, and what is asked for each group is in order. -/
def InOrder (s : Settings) (run : String) (h : Transcript) : Prop :=
  InGroups s run (Orderly s) h

/-- At every point of a run its calls are in order, whatever the store answers. -/
theorem mergeAll_inOrder {backend : String} (ha : (mergeAll s backend run).Asks h) :
    InOrder s run h :=
  asks_inGroups (fun _ _ => asks_mergeGroup_orderly) ha

namespace Sample

/-- Regions, and projects that refer to them. -/
def settings : Settings where
  entity := ⟨"regions", "id", "name", none⟩
  dependents := [⟨"projects", "region_id"⟩]
  policy := .mostRecent

/-- The start of an epoch. -/
def instant : Instant :=
  ⟨⟨1970, 1, 1, by decide⟩, 0, 0, by decide, by decide⟩

/-- Two regions of one name, with a project that refers to the second. -/
def tables : Tables where
  clock := instant
  tables := [
    ("regions", {
      columns := ["id", "name"]
      rows := [[("id", .str "r1"), ("name", .str "Foo")],
        [("id", .str "r2"), ("name", .str "foo")]] }),
    ("projects", {
      columns := ["region_id"]
      rows := [[("region_id", .str "r2")]] })]

/-- Four regions of two names, with a project for the second one of each name. -/
def twoKeys : Tables where
  clock := instant
  tables := [
    ("regions", {
      columns := ["id", "name"]
      rows := [("r1", "Foo"), ("r2", "foo"), ("r3", "Bar"), ("r4", "bar")].map fun (id, name) =>
        [("id", .str id), ("name", .str name)] }),
    ("projects", {
      columns := ["region_id"]
      rows := ["r2", "r4"].map fun id => [("region_id", .str id)] })]

/-- Some tables, and no file. -/
def world (t : Tables) : World Tables :=
  ⟨t, ⟨"/", []⟩, instant, 1⟩

/-- What a run on some tables asks, up to its end. -/
def transcript (t : Tables) : Transcript :=
  (mergeAll settings "memory" "run").transcript (World.answer Tables.store) (world t)

/-- Some tables behind a schedule of faults, and no file. -/
def faulty (t : Tables) (faults : List Fault) : World (Faulty Tables) :=
  ⟨{ inner := t, faults }, ⟨"/", []⟩, instant, 1⟩

/-- What a run behind faults asks, up to its end. -/
def faultyTranscript (t : Tables) (faults : List Fault) : Transcript :=
  (mergeAll settings "memory" "run").transcript (World.answer (Faulty.store Tables.store))
    (faulty t faults)

/-- The result of that run and the world afterwards. -/
def faultyEnd (t : Tables) (faults : List Fault) : Except Stop Summary × World (Faulty Tables) :=
  World.perform (Faulty.store Tables.store) (mergeAll settings "memory" "run") (faulty t faults)

/-- The calls of a transcript in words. -/
def calls (h : Transcript) : List String :=
  h.filterMap fun e =>
    match e.1 with
    | .call r => some r.describe
    | _ => none

end Sample

theorem mergeAll_inOrder_sample :
    Sample.calls (Sample.transcript Sample.tables) = ["check_columns regions id,name",
      "check_columns projects region_id", "fetch_entities regions", "merge FOO r1 r2",
      "repoint projects region_id r2 r1", "delete_ids regions id r2", "fetch_entities regions"] ∧
    InOrder Sample.settings "run" (Sample.transcript Sample.tables) :=
  ⟨by decide +kernel, mergeAll_inOrder (Program.yields_transcript _ _ _).asks⟩

end RegistryDedup
