import RegistryDedup.Proofs.Merge.Ending
import RegistryDedup.Proofs.Merge.Order

/-!
# What a run that ends early tells

The error of a run that gave up has the reports of the groups that it handled. A run may also end
early because the entry of a group cannot be written to the journal, or because the look at the
table at its end fails. Its error then names the circumstance and has no reports, although groups
were merged.

- `Stop.Tells`: the error of a run has the reports of some groups.
- `Closing.tells_iff`: of the exits of a run that ends early, one alone tells the reports.
- `mergeAll_tells_iff`: the same of every run that changed something and ended early.
-/

namespace RegistryDedup

variable {s : Settings} {backend run : String} {h : Transcript} {stop : Stop}

/-- The error of a run tells what became of some groups. -/
def Stop.Tells (stop : Stop) (reports : List GroupReport) : Prop :=
  ∃ reason summary, stop = .aborted reason summary ∧ summary.groups = reports

/-- A merge, a move or a delete that succeeded. -/
def Changed (e : Action.interface.Exchange) : Prop :=
  ∃ (r : Request) (a : r.Answer), r.Changes ∧ e = ⟨.call r, .answered (.ok a)⟩

instance (e : Action.interface.Exchange) : Decidable (Changed e) :=
  match e with
  | ⟨.call r, x⟩ =>
    match (x : Attempt r.Answer) with
    | .answered (.ok a) =>
      if hr : r.Changes then .isTrue ⟨r, a, hr, rfl⟩
      else .isFalse fun ⟨r', _, hr', heq⟩ => hr (Action.call.inj (Sigma.mk.inj heq).1 ▸ hr')
    | .answered (.error _) => .isFalse fun ⟨_, _, _, heq⟩ => by cases heq
    | .late => .isFalse fun ⟨_, _, _, heq⟩ => by cases heq
  | ⟨.pick _, _⟩ | ⟨.now, _⟩ | ⟨.acquireLock _, _⟩ | ⟨.releaseLock _, _⟩ | ⟨.openJournal _, _⟩
  | ⟨.appendJournal _ _, _⟩ => .isFalse fun ⟨_, _, _, heq⟩ => by cases heq

/-- A call that may change something: a merge, a move or a delete. -/
def Action.Alters (a : Action) : Prop :=
  ∃ r : Request, r.Changes ∧ a = .call r

theorem Action.Quiet.not_alters {a : Action} (ha : a.Quiet) : ¬ a.Alters := by
  rintro ⟨r, hr, rfl⟩
  exact ha hr

theorem Action.Notes.not_alters {a : Action} (ha : a.Notes) : ¬ a.Alters := by
  rintro ⟨r, hr, rfl⟩
  simp [Notes] at ha

theorem Changed.alters {e : Action.interface.Exchange} (he : Changed e) : e.1.Alters := by
  obtain ⟨r, _, hr, rfl⟩ := he
  exact ⟨r, hr, rfl⟩

/-- To count the references of a group and to write its entry changes nothing. -/
theorem journaled_not_alters {g : DuplicateGroup} {selection : Selection}
    {counting writing : Transcript} {counted : Except CountFailure (List RefCount)}
    {written : Except FileError Unit} (hcounting : (countsFor s g).Yields counting counted)
    (hwriting : (writeJournal s run g.key selection).Yields writing written) :
    ∀ e ∈ counting ++ writing, ¬ e.1.Alters :=
  List.forall_mem_append.mpr
    ⟨fun e he => ((only_countsFor s g).yields hcounting e he).quiet.not_alters,
      fun e he => ((only_writeJournal _ _ _ _).yields hwriting e he).not_alters⟩

namespace Closing

variable {entities : List Entity} {handled : List DuplicateGroup} {reports : List GroupReport}

/-- After the groups that were handled nothing is changed. -/
theorem not_alters {result : Except Stop Summary}
    (hc : Closing s backend run entities handled reports h result) :
    ∀ e ∈ h, ¬ e.1.Alters := by
  have hlook : ∀ {reply : Reply (List Entity)},
      (Run.fetchEntities s.retry s.entity).Yields h reply → ∀ e ∈ h, ¬ e.1.Alters :=
    fun hlooking e he => ((only_calling_quiet id).yields hlooking e he).not_alters
  cases hc with
  | gaveUp => simp
  | unverified _ hlooking => exact hlook hlooking
  | verified _ hlooking => exact hlook hlooking
  | unwritten _ hcounting hwriting => exact journaled_not_alters hcounting hwriting

/-- The reports are told just where neither an entry of the journal nor the look at the table is
what ended the run. -/
theorem tells_iff (hc : Closing s backend run entities handled reports h (.error stop)) :
    stop.Tells reports ↔
      ¬ (EntryLost h ∨ ∃ f, (Run.fetchEntities s.retry s.entity).Yields h (.error f)) := by
  have htrouble : ∀ t, ¬ (Stop.trouble t).Tells reports := by
    rintro t ⟨reason, summary, heq, -⟩
    cases heq
  cases hc with
  | gaveUp =>
    refine iff_of_true ⟨_, _, rfl, rfl⟩ ?_
    rintro (⟨path, entry, f, he⟩ | ⟨f, hlooking⟩)
    · exact absurd he List.not_mem_nil
    · -- A call is asked for at least once.
      obtain ⟨fails, x, hnil, -⟩ := Run.yields_calling hlooking
      simp at hnil
  | unwritten _ _ hwriting =>
    refine iff_of_false (htrouble _) (not_not_intro (.inl ?_))
    exact (entryLost_of_writeJournal hwriting).mono (List.subset_append_right _ _)
  | unverified _ hlooking =>
    exact iff_of_false (htrouble _) (not_not_intro (.inr ⟨_, hlooking⟩))

end Closing

/-- A run ended early after it had handled some groups, all of what it changed being theirs. Its
error tells what became of them, in their order, just where no entry of the journal was lost after
them and no look at the table failed. -/
def EndsEarly (s : Settings) (backend run : String) (h : Transcript) (stop : Stop) : Prop :=
  ∃ entities handled reports opening merging closing last,
    h = opening ++ (merging ++ (closing ++ last)) ∧
    RunParts s backend run entities handled reports opening merging closing last (.error stop) ∧
    handled ≠ [] ∧ (∀ e ∈ closing, ¬ Changed e) ∧
    (stop.Tells reports ↔ ¬ (EntryLost closing ∨
      ∃ f, (Run.fetchEntities s.retry s.entity).Yields closing (.error f)))

/-- The error of a run that changed something need not tell of it. -/
theorem mergeAll_tells_iff (hy : (mergeAll s backend run).Yields h (.error stop))
    (hchanged : ∃ e ∈ h, Changed e) : EndsEarly s backend run h stop := by
  obtain ⟨e, he, hchanged⟩ := hchanged
  have halters := hchanged.alters
  rcases yields_parts hy with ⟨hprepares, -⟩ |
    ⟨entities, handled, reports, opening, merging, closing, last, rfl, hparts⟩
  · exact absurd halters (hprepares e he).quiet.not_alters
  · refine ⟨entities, handled, reports, opening, merging, closing, last, rfl, hparts, ?_,
      fun e he hchanged => hparts.closed.not_alters e he hchanged.alters, hparts.closed.tells_iff⟩
    -- What was changed was changed for a group, so there is one.
    rintro rfl
    have hreported := hparts.reported
    cases hreported
    rw [List.nil_append, List.mem_append, List.mem_append] at he
    rcases he with he | he | he
    · exact (hparts.opened e he).quiet.not_alters halters
    · exact hparts.closed.not_alters e he halters
    · exact (hparts.left e he).quiet.not_alters halters

namespace Sample

/-- The second look at the regions fails. -/
def blinded : List Fault :=
  [{ start := "fetch_entities regions", failure := .reported .other "boom", skip := 1 }]

/-- The error of a run whose last look failed. -/
def unverified : Stop :=
  .trouble ⟨["verification failed"], .store (.reported .other "boom")⟩

theorem faultyEnd_blinded : (faultyEnd tables blinded).1 = .error unverified := by
  decide +kernel

end Sample

/-- The two regions were merged, and the error does not tell so. -/
theorem mergeAll_tells_iff_sample :
    Sample.calls (Sample.faultyTranscript Sample.tables Sample.blinded) =
      ["check_columns regions id,name", "check_columns projects region_id",
        "fetch_entities regions", "merge FOO r1 r2", "repoint projects region_id r2 r1",
        "delete_ids regions id r2", "fetch_entities regions"] ∧
    (∃ e ∈ Sample.faultyTranscript Sample.tables Sample.blinded, Changed e) ∧
    Sample.unverified.message = "verification failed: other: boom" ∧
    (∀ reports, ¬ Sample.unverified.Tells reports) ∧
    EndsEarly Sample.settings "memory" "run"
      (Sample.faultyTranscript Sample.tables Sample.blinded) Sample.unverified := by
  have hchanged : ∃ e ∈ Sample.faultyTranscript Sample.tables Sample.blinded, Changed e := by
    decide +kernel
  refine ⟨by decide +kernel, hchanged, by decide +kernel, ?_, ?_⟩
  · rintro reports ⟨reason, summary, heq, -⟩
    cases heq
  · refine mergeAll_tells_iff ?_ hchanged
    rw [← Sample.faultyEnd_blinded]
    exact Program.yields_transcript _ _ _

end RegistryDedup
