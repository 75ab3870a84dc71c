import RegistryDedup.Proofs.Merge.Streak

/-!
# Runs that go on after a fatal failure

A failure of configuration or authority is documented to stop the whole run. It does not: a run
gives up only for failures that are worth another attempt, and so it takes up the groups after the
one for which the call was made.

- `RunHandled`: a run that got as far as its groups, with those that it handled. It gave up just
  where they end in a row that is long enough.
- `yields_runHandled`: every run that did not end before its groups is one.
- `GoesOn`: the place of a call among the groups of its run, what its group still asks, and what is
  asked for the groups after it.
- `mergeAll_alters_after_fatal_iff`: further changes follow just where losers are left, or where a
  later group gets as far as a survivor.
-/

namespace RegistryDedup

variable {s : Settings} {backend run : String} {h before after : Transcript}
  {e : Action.interface.Exchange} {f : Failure}

/-! ## A run with the groups that it handled -/

/-- The parts of a run that got as far as its groups, with each group that it handled. It gave up
just where these end in a row that is long enough, and no row was before. -/
structure RunHandled (s : Settings) (backend run : String) (entities : List Entity)
    (handled : List Handling) (opening closing last : Transcript)
    (result : Except Stop Summary) : Prop extends
    RunParts s backend run entities (handled.map (·.group)) (handled.map (·.report)) opening
      (handled.map (·.asked)).flatten closing last result where
  valid : ∀ x ∈ handled, x.Valid s run
  gaveUp_iff : (∃ reason summary, result = .error (.aborted reason summary)) ↔ RowFull s handled
  first : ∀ front, front <+: handled → front ≠ handled → ¬ RowFull s front

/-- Groups that were handled to their end have their reports. -/
theorem groupsReported_of_valid {handled : List Handling} (hvalid : ∀ x ∈ handled, x.Valid s run) :
    GroupsReported s run (handled.map (·.group)) (handled.map (·.asked)).flatten
      (handled.map (·.report)) := by
  induction handled with
  | nil => exact .nil
  | cons x handled ih =>
    obtain ⟨hx, hhandled⟩ := List.forall_mem_cons.mp hvalid
    exact .cons hx (ih hhandled)

section

variable {entities : List Entity} {handled : List Handling} {front back : Transcript}
  {groups : Except Stop (List GroupReport)} {result : Except Stop Summary}

theorem RowExit.closing
    (hc : RowExit s run (summarize s backend run entities.length · [])
      (Grouping.build s.normalizer entities).candidates handled front groups)
    (hclosed : Closed s backend run entities groups back result) :
    Closing s backend run entities (handled.map (·.group)) (handled.map (·.report)) (front ++ back)
      result := by
  cases hc with
  | all hall _ =>
    cases hclosed with
    | unverified hlooking => exact .unverified hall hlooking
    | verified hlooking => exact .verified hall hlooking
  | gaveUp =>
    cases hclosed
    exact .gaveUp
  | unwritten hnext _ hlast =>
    cases hclosed
    obtain ⟨counting, writing, _, _, _, rfl, hcounting, hwriting, rfl⟩ := hlast.stop_of_error
    rw [List.append_nil]
    exact .unwritten hnext hcounting hwriting

/-- A run gives up just where its groups end in a row that is long enough. -/
theorem RowExit.gaveUp_iff
    (hc : RowExit s run (summarize s backend run entities.length · [])
      (Grouping.build s.normalizer entities).candidates handled front groups)
    (hclosed : Closed s backend run entities groups back result) :
    (∃ reason summary, result = .error (.aborted reason summary)) ↔ RowFull s handled := by
  have htrouble : ∀ t, ¬ ∃ reason summary,
      (.error (.trouble t) : Except Stop Summary) = .error (.aborted reason summary) := by
    rintro t ⟨reason, summary, heq⟩
    cases heq
  cases hc with
  | all _ hnever =>
    refine iff_of_false ?_ (hnever handled (List.prefix_refl _))
    cases hclosed with
    | unverified => exact htrouble _
    | verified =>
      rintro ⟨reason, summary, heq⟩
      cases heq
  | gaveUp _ _ hfull _ _ =>
    cases hclosed
    exact iff_of_true ⟨_, _, rfl⟩ hfull
  | unwritten _ hnever hlast =>
    cases hclosed
    obtain ⟨_, _, _, _, _, -, -, -, rfl⟩ := hlast.stop_of_error
    exact iff_of_false (htrouble _) (hnever handled (List.prefix_refl _))

end

/-- A run did not get as far as its groups, or it handled the first of them. -/
theorem yields_runHandled {result : Except Stop Summary}
    (hy : (mergeAll s backend run).Yields h result) :
    (∀ e ∈ h, s.Frames e.1) ∨
    ∃ entities handled opening closing last,
      h = opening ++ ((handled.map (·.asked)).flatten ++ (closing ++ last)) ∧
      RunHandled s backend run entities handled opening closing last result := by
  rcases yields_frame hy with ⟨hframes, -⟩ |
    ⟨entities, opening, merging, closing, last, groups, rfl, hframe⟩
  · exact .inl hframes
  · obtain ⟨handled, front, rfl, hvalid, hexit⟩ := hframe.merged.handlings
    refine .inr ⟨entities, handled, opening, front ++ closing, last, ?_, ?_⟩
    · simp only [List.append_assoc]
    · exact { fetched := hframe.fetched
              opened := hframe.opened
              begun := hexit.begun
              reported := groupsReported_of_valid hvalid
              valid := hvalid
              closed := hexit.closing hframe.closed
              gaveUp_iff := hexit.gaveUp_iff hframe.closed
              first := hexit.first
              left := hframe.left }

/-! ## After a fatal failure -/

/-- A call that is made for a group: a count, a merge, a move or a delete. -/
def Action.ForGroup (a : Action) : Prop :=
  (∃ table column value, a = .call (.countReferences table column value)) ∨ a.Alters

theorem Settings.Frames.not_forGroup {a : Action} (ha : s.Frames a) : ¬ a.ForGroup := by
  rintro (⟨table, column, value, rfl⟩ | halters)
  · simp [Frames, Action.Checks, Action.Bordering] at ha
  · exact ha.quiet.not_alters halters

/-- After the groups that were handled to their end no call for a group failed fatally. -/
theorem Closing.not_fatal {entities : List Entity} {handled : List DuplicateGroup}
    {reports : List GroupReport} {result : Except Stop Summary}
    (hc : Closing s backend run entities handled reports h result) :
    ∀ e ∈ h, e.1.ForGroup → ¬ FailedFatally f e := by
  intro e he hgroup
  cases hc with
  | gaveUp => exact absurd he List.not_mem_nil
  | unwritten _ hcounting hwriting =>
    rcases List.mem_append.mp he with he | he
    · exact not_fatal_of_counts hcounting e he
    · exact not_fatal_of_writeJournal hwriting e he
  | unverified _ hlooking => exact absurd hgroup (frames_of_fetch hlooking e he).not_forGroup
  | verified _ hlooking => exact absurd hgroup (frames_of_fetch hlooking e he).not_forGroup

/-- What is asked after a call for the group of `x` ended in a fatal failure: `rest` for its own
group, with the losers that are left to be deleted, then what is asked for the groups that come
later, and `closing` after all groups. -/
structure AskedAfter (s : Settings) (f : Failure) (a : Action) (x : Handling)
    (later : List Handling) (rest closing : Transcript) (left : List String) : Prop where
  group : AfterFatal s x.group f x.report a rest left x.transient
  /-- The losers that are left are all that the group still changes. -/
  group_alters : (∃ e ∈ rest, e.1.Alters) ↔ left ≠ []
  later_alters : ∀ y ∈ later, (∃ e ∈ y.asked, e.1.Alters) ↔ y.report.keep.isSome
  still : ∀ e ∈ closing, ¬ e.1.Alters

/-- What is changed after the call is changed in its own group or in a later one. -/
theorem AskedAfter.alters_iff {a : Action} {x : Handling} {later : List Handling}
    {rest closing : Transcript} {left : List String}
    (hc : AskedAfter s f a x later rest closing left) :
    (∃ e ∈ rest ++ ((later.map (·.asked)).flatten ++ closing), e.1.Alters) ↔
      left ≠ [] ∨ ∃ y ∈ later, y.report.keep.isSome := by
  have hclosed : ¬ ∃ e ∈ closing, e.1.Alters := by
    rintro ⟨e, he, halters⟩
    exact hc.still e he halters
  have hlater : (∃ e ∈ (later.map (·.asked)).flatten, e.1.Alters) ↔
      ∃ y ∈ later, y.report.keep.isSome := by
    constructor
    · rintro ⟨e, he, halters⟩
      obtain ⟨asked, hasked, he⟩ := List.mem_flatten.mp he
      obtain ⟨y, hy, rfl⟩ := List.mem_map.mp hasked
      exact ⟨y, hy, (hc.later_alters y hy).mp ⟨e, he, halters⟩⟩
    · rintro ⟨y, hy, hkeep⟩
      obtain ⟨e, he, halters⟩ := (hc.later_alters y hy).mpr hkeep
      exact ⟨e, List.mem_flatten.mpr ⟨y.asked, List.mem_map_of_mem hy, he⟩, halters⟩
  simp only [List.mem_append, or_and_right, exists_or]
  rw [hc.group_alters, hlater, iff_false_intro hclosed, or_false]

/-- A call that ended in a fatal failure, in its place in a run: it was made for the group of `x`,
after the groups of `done` were handled, and those of `later` were handled after it. Together they
are all groups that the run handled. Further changes are made just where losers are left, or where
a later group gets as far as a survivor. -/
def GoesOn (s : Settings) (backend run : String) (f : Failure) (before : Transcript)
    (e : Action.interface.Exchange) (after : Transcript) (result : Except Stop Summary) : Prop :=
  ∃ entities done x later opening own rest closing last left,
    before = opening ++ ((done.map (·.asked)).flatten ++ own) ∧
    x.asked = own ++ e :: rest ∧
    after = rest ++ ((later.map (·.asked)).flatten ++ (closing ++ last)) ∧
    RunHandled s backend run entities (done ++ x :: later) opening closing last result ∧
    AskedAfter s f e.1 x later rest (closing ++ last) left ∧
    ((∃ e' ∈ after, e'.1.Alters) ↔ left ≠ [] ∨ ∃ y ∈ later, y.report.keep.isSome)

/-- A fatal failure does not stop a run that writes. Further merges, moves or deletes follow just
where it was a delete and losers are left, or where a later group gets as far as a survivor. -/
theorem mergeAll_alters_after_fatal_iff {result : Except Stop Summary} (hwet : s.dryRun = false)
    (hy : (mergeAll s backend run).Yields (before ++ e :: after) result)
    (hgroup : e.1.ForGroup) (hf : FailedFatally f e) :
    GoesOn s backend run f before e after result := by
  rcases yields_runHandled hy with hframes |
    ⟨entities, handled, opening, closing, last, hsplit, hrun⟩
  · exact absurd hgroup (hframes e (by simp)).not_forGroup
  · rcases split_append hsplit.symm with ⟨rest, rfl, -⟩ | ⟨front, rfl, hmid⟩
    · exact absurd hgroup (hrun.opened e (by simp)).not_forGroup
    · rcases split_append hmid with ⟨back, hhandled, rfl⟩ | ⟨front', rfl, hlast⟩
      · obtain ⟨done, x, own, rest, later, rfl, hx, rfl, rfl⟩ := split_flatten hhandled
        have hvalid : (mergeGroup s run x.group).Yields (own ++ e :: rest)
            (.ok (x.report, x.transient)) := by
          rw [← hx]
          exact hrun.valid x (by simp)
        obtain ⟨left, hafter⟩ := (yields_mergeGroup hvalid).afterFatal hwet hf
        have hasked : AskedAfter s f e.1 x later rest (closing ++ last) left :=
          { group := hafter
            group_alters := hafter.alters_iff
            later_alters := fun y hy =>
              (yields_mergeGroup (hrun.valid y (by simp [hy]))).alters_iff hwet
            still := List.forall_mem_append.mpr
              ⟨hrun.closed.not_alters, fun e he => (hrun.left e he).quiet.not_alters⟩ }
        refine ⟨entities, done, x, later, opening, own, rest, closing, last, left, rfl, hx, ?_,
          hrun, hasked, ?_⟩
        · rw [List.append_assoc]
        · rw [List.append_assoc]
          exact hasked.alters_iff
      · -- What is asked after the groups has no such failure.
        have he : e ∈ closing ++ last := hlast ▸ by simp
        rcases List.mem_append.mp he with he | he
        · exact absurd hf (hrun.closed.not_fatal e he hgroup)
        · exact absurd hgroup (Settings.Frames.not_forGroup (s := s) (.inr (.inl (hrun.left e he))))

namespace Sample

/-- Moves from the second region are not allowed. -/
def forbidding : List Fault :=
  [{ start := "repoint projects region_id r2", failure := .reported .auth "boom" }]

/-- The move that is not allowed. -/
def forbidden : Action.interface.Exchange :=
  ⟨.call (.repoint "projects" "region_id" "r2" "r1"), .answered (.error (.reported .auth "boom"))⟩

theorem forbidden_failed : FailedFatally (.reported .auth "boom") forbidden :=
  ⟨by decide, _, rfl⟩

theorem forbidden_forGroup : forbidden.1.ForGroup :=
  .inr ⟨.repoint "projects" "region_id" "r2" "r1", trivial, rfl⟩

/-- What is asked before the move that is not allowed. -/
def beforeForbidden : Transcript :=
  (faultyTranscript twoKeys forbidding).take 4

/-- What is asked after it. -/
def afterForbidden : Transcript :=
  (faultyTranscript twoKeys forbidding).drop 5

theorem split_forbidden :
    faultyTranscript twoKeys forbidding = beforeForbidden ++ forbidden :: afterForbidden := by
  have hlength : (faultyTranscript twoKeys forbidding).length = 9 := by decide +kernel
  have hfour : 4 < (faultyTranscript twoKeys forbidding).length := by rw [hlength]; decide
  have hat : (faultyTranscript twoKeys forbidding)[4] = forbidden := rfl
  rw [beforeForbidden, afterForbidden, ← hat, ← List.drop_eq_getElem_cons hfour,
    List.take_append_drop]

end Sample

/-- After a move of the first group failed for want of authority, the second group is merged. -/
theorem mergeAll_alters_after_fatal_iff_sample :
    Sample.faultyTranscript Sample.twoKeys Sample.forbidding =
      Sample.beforeForbidden ++ Sample.forbidden :: Sample.afterForbidden ∧
    Sample.calls Sample.afterForbidden = ["merge BAR r3 r4", "repoint projects region_id r4 r3",
      "delete_ids regions id r4", "fetch_entities regions"] ∧
    FailedFatally (.reported .auth "boom") Sample.forbidden ∧
    GoesOn Sample.settings "memory" "run" (.reported .auth "boom") Sample.beforeForbidden
      Sample.forbidden Sample.afterForbidden
      (Sample.faultyEnd Sample.twoKeys Sample.forbidding).1 := by
  have hy : (mergeAll Sample.settings "memory" "run").Yields
      (Sample.beforeForbidden ++ Sample.forbidden :: Sample.afterForbidden)
      (Sample.faultyEnd Sample.twoKeys Sample.forbidding).1 := by
    rw [← Sample.split_forbidden]
    exact Program.yields_transcript _ _ _
  refine ⟨Sample.split_forbidden, by decide +kernel, Sample.forbidden_failed, ?_⟩
  exact mergeAll_alters_after_fatal_iff rfl hy Sample.forbidden_forGroup Sample.forbidden_failed

end RegistryDedup
