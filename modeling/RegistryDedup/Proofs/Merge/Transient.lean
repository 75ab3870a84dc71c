import RegistryDedup.Proofs.Merge.Fatal

/-!
# Groups that failed transiently

- `FailedTransiently`: what is asked for a group ended in a transient failure of its count, its
  merge or a move.
- `GroupCourse.transient_iff`: these are the groups that a run counts on its way to giving up.

A group may end with a call of any kind, so that each kind is compared with the course that the
group took: `transient_of_merging` for its merge, `transient_of_moving` for a move, and
`counted_of_failedTransiently` for its counts.
-/

namespace RegistryDedup

variable {s : Settings} {run : String} {g : DuplicateGroup} {h : Transcript}

/-- What is asked for a group ends in a failure that is worth another attempt: that of its count, of
its merge in one transaction, or of a move. -/
inductive FailedTransiently (s : Settings) (g : DuplicateGroup) : Transcript → Prop
  | counting {h : Transcript} {failure : CountFailure}
      (hy : (countsFor s g).Yields h (.error failure)) (hf : failure.failure.isRetryable) :
      FailedTransiently s g h
  | merging {front h : Transcript} {plan : MergePlan} {f : Failure}
      (hy : (Run.merge s.retry plan).Yields h (.error f)) (hf : f.isRetryable) :
      FailedTransiently s g (front ++ h)
  | moving {front h : Transcript} {d : Dependent} {source target : String} {f : Failure}
      (hy : (Run.repoint s.retry d source target).Yields h (.error f)) (hf : f.isRetryable) :
      FailedTransiently s g (front ++ h)

/-- A call ends with the attempt that gave its reply. -/
theorem getLast?_of_yields_calling {policy : RetryPolicy} {operation : String} {r : Request}
    {reply : Reply r.Answer} (hy : (Run.calling policy operation r).Yields h reply) :
    ∃ x : Attempt r.Answer, h.getLast? = some ⟨Action.call r, x⟩ ∧
      x.reply policy operation = reply := by
  obtain ⟨fails, x, rfl, hx, -⟩ := Run.yields_calling hy
  exact ⟨x, List.getLast?_concat, hx⟩

theorem yields_repointDependent_error {policy : RetryPolicy} {keep : String} {d : Dependent}
    {losers : List String} {moved : Nat} {failure : RepointFailure}
    (hy : (repointDependent policy keep d losers moved).Yields h (.error failure)) :
    ∃ front call l, h = front ++ call ∧
      (Run.repoint policy d l keep).Yields call (.error failure.failure) := by
  induction losers generalizing h moved with
  | nil => cases hy.2
  | cons l losers ih =>
    obtain ⟨reply, call, rest, rfl, hcall, hrest⟩ := Program.yields_bind.mp hy
    have hlater : ∀ {n : Nat}, (repointDependent policy keep d losers n).Yields rest
        (.error failure) → ∃ front call' l, call ++ rest = front ++ call' ∧
          (Run.repoint policy d l keep).Yields call' (.error failure.failure) := by
      intro n hy
      obtain ⟨front, call', l', rfl, hcall'⟩ := ih hy
      exact ⟨call ++ front, call', l', (List.append_assoc _ _ _).symm, hcall'⟩
    cases reply with
    | ok n => exact hlater hrest
    | error f =>
      dsimp only at hrest
      split at hrest
      · exact hlater hrest
      · obtain ⟨rfl, heq⟩ := hrest
        cases heq
        exact ⟨[], call, l, List.append_nil _, hcall⟩

/-- A group whose references could not all be moved ends with the move that failed. -/
theorem yields_repointGroup_error {policy : RetryPolicy} {keep : String} {losers : List String}
    {dependents : List Dependent} {failure : RepointFailure}
    (hy : (repointGroup policy keep losers dependents).Yields h (.error failure)) :
    ∃ front call d l, h = front ++ call ∧
      (Run.repoint policy d l keep).Yields call (.error failure.failure) := by
  rw [repointGroup] at hy
  generalize ([] : Tally) = moved at hy
  induction dependents generalizing h moved with
  | nil => cases hy.2
  | cons d dependents ih =>
    obtain ⟨reply, first, rest, rfl, hfirst, hrest⟩ := Program.yields_bind.mp hy
    cases reply with
    | ok n =>
      obtain ⟨front, call, d', l, rfl, hcall⟩ := ih _ hrest
      exact ⟨first ++ front, call, d', l, (List.append_assoc _ _ _).symm, hcall⟩
    | error f =>
      obtain ⟨rfl, heq⟩ := hrest
      cases heq
      obtain ⟨front, call, l, rfl, hcall⟩ := yields_repointDependent_error hfirst
      exact ⟨front, call, d, l, List.append_nil _, hcall⟩

section

variable {plan plan' : MergePlan} {report : GroupReport} {outcome : GroupReport × Bool}
  {f : Failure}

theorem getLast?_append_of_some {α : Type} {xs ys : List α} {a : α} (hys : ys.getLast? = some a) :
    (xs ++ ys).getLast? = some a := by
  rw [List.getLast?_append, hys, Option.some_or]

/-- A single call is no merge. -/
theorem StepwiseCourse.ne_merge (hc : StepwiseCourse s plan report h outcome) :
    ∀ e ∈ h, e.1 ≠ .call (.merge plan') := by
  have hmoves : ∀ {moves : Transcript} {reply},
      (repointGroup s.retry plan.keep plan.losers plan.dependents).Yields moves reply →
      ∀ e ∈ moves, e.1 ≠ .call (.merge plan') := by
    intro moves reply hmoves e he heq
    obtain ⟨d, -, l, -, hmove⟩ := (only_repointGroup _ _ _ _).yields hmoves e he
    cases hmove.symm.trans heq
  cases hc with
  | stuck hstuck => exact hmoves hstuck
  | purged hmoved hdeletes =>
    refine List.forall_mem_append.mpr ⟨hmoves hmoved, fun e he heq => ?_⟩
    obtain ⟨l, -, hdelete⟩ := (only_purgeLosers _ _ _).yields hdeletes e he
    cases hdelete.symm.trans heq

theorem PlannedCourse.transient_of_merging (hc : PlannedCourse s plan report h outcome)
    {x : Attempt (Option MergeOutcome)} (hlast : h.getLast? = some ⟨Action.call (.merge plan'), x⟩)
    (hx : x.reply s.retry "merge" = .error f) (hf : f.isRetryable) : outcome.2 = true := by
  have hsame : ∀ {merging : Transcript} {reply : Reply (Option MergeOutcome)},
      (Run.merge s.retry plan).Yields merging reply →
      merging.getLast? = some ⟨Action.call (.merge plan'), x⟩ → reply = .error f := by
    intro merging reply hmerging hlast
    obtain ⟨y, hy, rfl⟩ := getLast?_of_yields_calling hmerging
    have heq := Option.some.inj (hy.symm.trans hlast)
    obtain rfl := Request.merge.inj (Action.call.inj (Sigma.mk.inj heq).1)
    obtain rfl : y = x := eq_of_heq (Sigma.mk.inj heq).2
    exact hx
  cases hc with
  | failed hmerging =>
    cases hsame hmerging hlast
    exact hf
  | merged hmerging => cases hsame hmerging hlast
  | @stepwise merging steps _ hmerging hsteps =>
    rw [List.getLast?_append] at hlast
    cases hstep : steps.getLast? with
    | none =>
      rw [hstep, Option.none_or] at hlast
      cases hsame hmerging hlast
    | some e =>
      rw [hstep, Option.some_or] at hlast
      obtain rfl := Option.some.inj hlast
      exact absurd rfl (hsteps.ne_merge _ (List.mem_of_getLast? hstep))

theorem PlannedCourse.failedTransiently (hc : PlannedCourse s plan report h outcome)
    (ht : outcome.2 = true) (first : Transcript) : FailedTransiently s g (first ++ h) := by
  cases hc with
  | failed hmerging => exact .merging hmerging ht
  | merged => cases ht
  | stepwise _ hsteps =>
    cases hsteps with
    | stuck hstuck =>
      obtain ⟨front, call, d, l, rfl, hmove⟩ := yields_repointGroup_error hstuck
      rw [← List.append_assoc, ← List.append_assoc]
      exact .moving hmove ht
    | purged => cases ht

/-- Among moves that came to their ends no call failed transiently. -/
theorem not_retryable_of_movesDone {policy : RetryPolicy} {keep : String}
    {moves : List (Dependent × String)} (hm : MovesDone policy keep moves h) {d : Dependent}
    {source target : String} {call : Transcript} (hcall : call <:+: h)
    (hy : (Run.repoint policy d source target).Yields call (.error f)) : ¬ f.isRetryable := by
  have hbounded : Run.Bounded policy "repoint" (.repoint d.table d.column source target) h := by
    rw [← List.append_nil h]
    exact hm.bounded _ _ Run.bounded_nil
  exact MovesDone.not_retryable (hbounded.reply
    (P := fun reply => ∀ f, reply = .error f → f.isNotFound) (hm.ends _) hcall hy f rfl)

/-- What ends with something and does not have an item ends so after that item. -/
theorem suffix_of_not_mem {α : Type} {front call before after : List α} {a : α}
    (h : front ++ call = before ++ a :: after) (ha : a ∉ call) : call <:+ after := by
  rcases split_append h with ⟨rest, -, rfl⟩ | ⟨front', -, rfl⟩
  · exact List.suffix_append _ _
  · exact absurd (by simp) ha

theorem PlannedCourse.transient_of_moving (hc : PlannedCourse s plan report h outcome)
    {first front call : Transcript} {d : Dependent} {source target : String}
    (hsplit : first ++ h = front ++ call)
    (hy : (Run.repoint s.retry d source target).Yields call (.error f)) (hf : f.isRetryable) :
    outcome.2 = true := by
  obtain ⟨x, hlast, hx⟩ := getLast?_of_yields_calling hy
  have hmoves : ∀ e ∈ call, e.1 = .call (.repoint d.table d.column source target) :=
    Run.only_calling.yields hy
  have hend : (first ++ h).getLast? =
      some ⟨Action.call (.repoint d.table d.column source target), x⟩ := by
    rw [hsplit]
    exact getLast?_append_of_some hlast
  have hmerged : ∀ {reply}, ¬ (Run.merge s.retry plan).Yields h reply := by
    intro reply hmerging
    obtain ⟨y, hy, -⟩ := getLast?_of_yields_calling hmerging
    rw [getLast?_append_of_some hy] at hend
    cases (Sigma.mk.inj (Option.some.inj hend)).1
  cases hc with
  | failed hmerging => exact absurd hmerging hmerged
  | merged hmerging => exact absurd hmerging hmerged
  | @stepwise merging steps _ hmerging hsteps =>
    cases hsteps with
    | @stuck _ failure hstuck =>
      -- The move that failed is the last call of the group.
      obtain ⟨front', call', d', l, rfl, hy'⟩ := yields_repointGroup_error hstuck
      obtain ⟨y, hlast', hy'⟩ := getLast?_of_yields_calling hy'
      rw [getLast?_append_of_some (getLast?_append_of_some (getLast?_append_of_some hlast'))] at hend
      obtain rfl : y = x := eq_of_heq (Sigma.mk.inj (Option.some.inj hend)).2
      obtain rfl : failure.failure = f := Except.error.inj (hy'.symm.trans hx)
      exact hf
    | @purged moves deletes _ _ hmoved hdeletes =>
      refine absurd hf (not_retryable_of_movesDone (yields_repointGroup hmoved) ?_ hy)
      cases hdelete : deletes.getLast? with
      | some e =>
        rw [getLast?_append_of_some (getLast?_append_of_some (getLast?_append_of_some hdelete))]
          at hend
        obtain rfl := Option.some.inj hend
        obtain ⟨l, -, hl⟩ := (only_purgeLosers _ _ _).yields hdeletes _
          (List.mem_of_getLast? hdelete)
        cases hl
      | none =>
        -- No delete was made, so the call ends the moves. The merge before them is not in it.
        rw [List.getLast?_eq_none_iff.mp hdelete, List.append_nil] at hsplit
        obtain ⟨fails, y, rfl, -⟩ := Run.yields_calling hmerging
        have hmove : front ++ call =
            (first ++ fails) ++ ⟨Action.call (.merge plan), y⟩ :: moves := by
          rw [← hsplit]
          simp
        refine (suffix_of_not_mem hmove fun hmem => ?_).isInfix
        cases hmoves _ hmem

end

/-- A group that came no further than its count failed transiently just if its count did. -/
theorem counted_of_failedTransiently {counted : Except CountFailure (List RefCount)}
    (hcounting : (countsFor s g).Yields h counted) (hfailed : FailedTransiently s g h) :
    ∃ failure, counted = .error failure ∧ failure.failure.isRetryable := by
  have hlooks : ∀ {r : Request} {x : Attempt r.Answer}, h.getLast? = some ⟨Action.call r, x⟩ →
      ¬ r.Changes :=
    fun hlast => ((only_countsFor s g).yields hcounting _ (List.mem_of_getLast? hlast)).looks
  cases hfailed with
  | @counting _ failure hy hf =>
    exact ⟨failure, (hcounting.unique hy (rfl : h ++ [] = h ++ [])).2, hf⟩
  | merging hy =>
    obtain ⟨x, hlast, -⟩ := getLast?_of_yields_calling hy
    exact absurd trivial (hlooks (getLast?_append_of_some hlast))
  | moving hy =>
    obtain ⟨x, hlast, -⟩ := getLast?_of_yields_calling hy
    exact absurd trivial (hlooks (getLast?_append_of_some hlast))

theorem transient_of_failedTransiently {counting first rest : Transcript}
    {counts : List RefCount} {plan : MergePlan} {report : GroupReport}
    {outcome : GroupReport × Bool} (hcounting : (countsFor s g).Yields counting (.ok counts))
    (hc : PlannedCourse s plan report rest outcome)
    (hfailed : FailedTransiently s g (counting ++ (first ++ rest))) : outcome.2 = true := by
  generalize hh : counting ++ (first ++ rest) = h at hfailed
  cases hfailed with
  | counting hy =>
    rw [← List.append_nil h] at hh
    cases (hcounting.unique hy hh).2
  | merging hy hf =>
    obtain ⟨x, hlast, hx⟩ := getLast?_of_yields_calling hy
    have hend := congrArg List.getLast? hh
    rw [getLast?_append_of_some hlast] at hend
    cases hrest : rest.getLast? with
    | none =>
      obtain ⟨e, he, -⟩ := hc.exists_merge
      rw [List.getLast?_eq_none_iff.mp hrest] at he
      exact absurd he List.not_mem_nil
    | some e =>
      rw [getLast?_append_of_some (getLast?_append_of_some hrest)] at hend
      exact hc.transient_of_merging (hrest.trans hend) hx hf
  | moving hy hf =>
    rw [← List.append_assoc] at hh
    exact hc.transient_of_moving hh hy hf

/-- The groups that a run counts are those that failed transiently. -/
theorem GroupCourse.transient_iff {outcome : GroupReport × Bool}
    (hc : GroupCourse s run g h (.ok outcome)) :
    outcome.2 = true ↔ FailedTransiently s g h := by
  cases hc with
  | uncounted hcounting =>
    refine ⟨.counting hcounting, fun hfailed => ?_⟩
    obtain ⟨failure, heq, hf⟩ := counted_of_failedTransiently hcounting hfailed
    cases heq
    exact hf
  | empty hcounting _ =>
    refine iff_of_false Bool.false_ne_true fun hfailed => ?_
    obtain ⟨failure, heq, -⟩ := counted_of_failedTransiently hcounting hfailed
    cases heq
  | previewed hcounting _ _ =>
    refine iff_of_false Bool.false_ne_true fun hfailed => ?_
    obtain ⟨failure, heq, -⟩ := counted_of_failedTransiently hcounting hfailed
    cases heq
  | planned hcounting _ _ _ hrest =>
    refine ⟨fun ht => ?_, transient_of_failedTransiently hcounting hrest⟩
    rw [← List.append_assoc]
    exact hrest.failedTransiently ht _

end RegistryDedup
