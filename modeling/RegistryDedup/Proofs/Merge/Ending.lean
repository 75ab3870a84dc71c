import RegistryDedup.Proofs.Merge.Exits

/-!
# Runs that come to their end

What a run that was not stopped has asked, together with what it reports. The accounts of a run that
may have been stopped leave the reports out; here each group that was handled has its report.

- `GroupsReported`: groups that were handled to their end, with their reports in the same order.
- `Closing`: what comes after the groups that were handled, by the exits of a run.
- `RunParts`: a run that got as far as its groups, with its preparations before and its closing
  after them (`yields_parts`).
- `RunEnd`: a whole run with its result. A result with reports has one for each of the first groups,
  and for each of all groups where the run did not give up.
- `RunEnd.exists_group`: what a report of a result is about, with all that was asked for it.
-/

namespace RegistryDedup

variable {s : Settings} {run : String} {h : Transcript}

/-! ## Groups with their reports -/

/-- Groups that were handled to their end, with all that was asked for them and their reports. -/
inductive GroupsReported (s : Settings) (run : String) :
    List DuplicateGroup → Transcript → List GroupReport → Prop where
  | nil : GroupsReported s run [] [] []
  | cons {g : DuplicateGroup} {groups : List DuplicateGroup} {h h' : Transcript}
      {report : GroupReport} {transient : Bool} {reports : List GroupReport}
      (hfirst : (mergeGroup s run g).Yields h (.ok (report, transient)))
      (hrest : GroupsReported s run groups h' reports) :
      GroupsReported s run (g :: groups) (h ++ h') (report :: reports)

/-- A report is about one of the groups. -/
theorem GroupsReported.exists_group {groups : List DuplicateGroup} {reports : List GroupReport}
    (hc : GroupsReported s run groups h reports) {report : GroupReport}
    (hreport : report ∈ reports) :
    ∃ g ∈ groups, ∃ before asked after transient, h = before ++ (asked ++ after) ∧
      (mergeGroup s run g).Yields asked (.ok (report, transient)) := by
  induction hc with
  | nil => exact absurd hreport List.not_mem_nil
  | @cons g groups h₁ h₂ _ transient _ hfirst _ ih =>
    rcases List.mem_cons.mp hreport with rfl | hreport
    · exact ⟨g, List.mem_cons_self, [], h₁, h₂, transient, rfl, hfirst⟩
    · obtain ⟨g', hg', before, asked, after, transient', rfl, hasked⟩ := ih hreport
      refine ⟨g', List.mem_cons_of_mem _ hg', h₁ ++ before, asked, after, transient', ?_, hasked⟩
      rw [List.append_assoc]

/-- A group ends the run only by its entry that could not be written to the journal. -/
theorem GroupCourse.stop_of_error {g : DuplicateGroup} {stop : Stop}
    (hc : GroupCourse s run g h (.error stop)) :
    ∃ counting writing counts selection e, h = counting ++ writing ∧
      (countsFor s g).Yields counting (.ok counts) ∧
      (writeJournal s run g.key selection).Yields writing (.error e) ∧
      stop = journalTrouble "writing" s e := by
  cases hc with
  | unwritten hcounting _ _ hwriting =>
    exact ⟨_, _, _, _, _, rfl, hcounting, hwriting, rfl⟩

/-- A run that did not leave on the way has handled all groups. -/
theorem GroupsExit.all {partialOf : List GroupReport → Summary} {groups : List DuplicateGroup}
    {streak : Nat} {done reports : List GroupReport}
    (hc : GroupsExit s run partialOf groups streak done h (.ok reports)) :
    ∃ later, reports = done ++ later ∧ GroupsReported s run groups h later := by
  generalize hok : (Except.ok reports : Except Stop (List GroupReport)) = result at hc
  induction hc with
  | finished =>
    cases hok
    exact ⟨[], (List.append_nil _).symm, .nil⟩
  | unwritten => cases hok
  | gaveUp => cases hok
  | next hfirst _ _ ih =>
    obtain ⟨later, rfl, hlater⟩ := ih hok
    exact ⟨_ :: later, List.append_assoc _ _ _, .cons hfirst hlater⟩

/-- A run that left on the way has handled the first groups. It gave up after the last of them, or
the next one had no entry in the journal. -/
theorem GroupsExit.stopped {partialOf : List GroupReport → Summary} {groups : List DuplicateGroup}
    {streak : Nat} {done : List GroupReport} {stop : Stop}
    (hc : GroupsExit s run partialOf groups streak done h (.error stop)) :
    ∃ handled reports merging last, h = merging ++ last ∧ handled <+: groups ∧
      GroupsReported s run handled merging reports ∧
      ((last = [] ∧ handled ≠ [] ∧ ∃ reason,
        stop = .aborted reason { partialOf (done ++ reports) with aborted := some reason }) ∨
      ∃ g, handled ++ [g] <+: groups ∧ GroupCourse s run g last (.error stop)) := by
  have hone : ∀ (g : DuplicateGroup) groups, [g] <+: g :: groups := fun g groups =>
    List.cons_prefix_cons.mpr ⟨rfl, List.nil_prefix⟩
  generalize hstop : (Except.error stop : Except Stop (List GroupReport)) = result at hc
  induction hc with
  | finished => cases hstop
  | @unwritten g groups _ _ asked _ hlast =>
    cases hstop
    exact ⟨[], [], [], asked, rfl, List.nil_prefix, .nil,
      .inr ⟨g, hone g groups, yields_mergeGroup hlast⟩⟩
  | @gaveUp g groups _ _ asked report reason hlast _ _ =>
    cases hstop
    refine ⟨[g], [report], asked ++ [], [], ?_, hone g groups, .cons hlast .nil,
      .inl ⟨rfl, List.cons_ne_nil _ _, _, rfl⟩⟩
    rw [List.append_nil, List.append_nil]
  | @next g groups _ done asked rest report _ result hfirst _ _ ih =>
    obtain ⟨handled, reports, merging, last, rfl, hbegun, hreported, hexit⟩ := ih hstop
    refine ⟨g :: handled, report :: reports, asked ++ merging, last,
      (List.append_assoc _ _ _).symm, List.cons_prefix_cons.mpr ⟨rfl, hbegun⟩,
      .cons hfirst hreported, ?_⟩
    rw [List.append_assoc] at hexit
    rcases hexit with ⟨hlast, -, hgaveUp⟩ | ⟨g', hnext, hunwritten⟩
    · exact .inl ⟨hlast, List.cons_ne_nil _ _, hgaveUp⟩
    · exact .inr ⟨g', List.cons_prefix_cons.mpr ⟨rfl, hnext⟩, hunwritten⟩

/-! ## After the groups -/

/-- What a run asks after the groups that it handled, and its result, by its exits. -/
inductive Closing (s : Settings) (backend run : String) (entities : List Entity)
    (handled : List DuplicateGroup) (reports : List GroupReport) :
    Transcript → Except Stop Summary → Prop where
  | gaveUp {reason : String} :
      Closing s backend run entities handled reports [] (.error (.aborted reason
        { summarize s backend run entities.length reports [] with aborted := some reason }))
  | unwritten {counting writing : Transcript} {g : DuplicateGroup} {counts : List RefCount}
      {selection : Selection} {e : FileError}
      (hnext : handled ++ [g] <+: (Grouping.build s.normalizer entities).candidates)
      (hcounting : (countsFor s g).Yields counting (.ok counts))
      (hwriting : (writeJournal s run g.key selection).Yields writing (.error e)) :
      Closing s backend run entities handled reports (counting ++ writing)
        (.error (journalTrouble "writing" s e))
  | unverified {looking : Transcript} {f : Failure}
      (hall : handled = (Grouping.build s.normalizer entities).candidates)
      (hlooking : (Run.fetchEntities s.retry s.entity).Yields looking (.error f)) :
      Closing s backend run entities handled reports looking
        (.error (.trouble ((Trouble.ofFailure f).within "verification failed")))
  | verified {looking : Transcript} {left : List Entity}
      (hall : handled = (Grouping.build s.normalizer entities).candidates)
      (hlooking : (Run.fetchEntities s.retry s.entity).Yields looking (.ok left)) :
      Closing s backend run entities handled reports looking
        (.ok (summarize s backend run entities.length reports
          (Grouping.build s.normalizer left).residuals))

/-- A run whose candidates were taken up has handled the first of them, each to its end. -/
theorem Closed.parts {backend : String} {entities : List Entity} {merging closing : Transcript}
    {groups : Except Stop (List GroupReport)} {result : Except Stop Summary}
    (hgroups : CandidatesExit s backend run entities merging groups)
    (hc : Closed s backend run entities groups closing result) :
    ∃ handled reports front back, merging ++ closing = front ++ back ∧
      handled <+: (Grouping.build s.normalizer entities).candidates ∧
      GroupsReported s run handled front reports ∧
      Closing s backend run entities handled reports back result := by
  cases hc with
  | stopped =>
    obtain ⟨handled, reports, front, last, rfl, hbegun, hreported, ⟨rfl, -, reason, rfl⟩ |
      ⟨g, hnext, hunwritten⟩⟩ := hgroups.stopped
    · exact ⟨handled, reports, front, [], by simp, hbegun, hreported, .gaveUp⟩
    · obtain ⟨_, _, _, _, e, rfl, hcounting, hwriting, rfl⟩ := hunwritten.stop_of_error
      exact ⟨handled, reports, front, _, List.append_nil _, hbegun, hreported,
        .unwritten hnext hcounting hwriting⟩
  | unverified hlooking =>
    obtain ⟨reports, rfl, hreported⟩ := hgroups.all
    exact ⟨_, _, _, _, rfl, List.prefix_refl _, hreported, .unverified rfl hlooking⟩
  | verified hlooking =>
    obtain ⟨reports, rfl, hreported⟩ := hgroups.all
    exact ⟨_, _, _, _, rfl, List.prefix_refl _, hreported, .verified rfl hlooking⟩

/-! ## A whole run -/

/-- The reports of a result. A run that ended with trouble has none. -/
def reportsOf : Except Stop Summary → List GroupReport
  | .ok summary => summary.groups
  | .error (.aborted _ summary) => summary.groups
  | .error (.trouble _) => []

/-- A run from its first fetch on, with its result. -/
inductive FetchedEnd (s : Settings) (run : String) : Transcript → Except Stop Summary → Prop where
  | troubled {h : Transcript} {t : Trouble} : FetchedEnd s run h (.error (.trouble t))
  | reported {fetching merging closing : Transcript} {entities : List Entity}
      {handled : List DuplicateGroup} {result : Except Stop Summary}
      (hfetch : (Run.fetchEntities s.retry s.entity).Yields fetching (.ok entities))
      (hbegun : handled <+: (Grouping.build s.normalizer entities).candidates)
      (hgroups : GroupsReported s run handled merging (reportsOf result))
      (hclosing : ∀ e ∈ closing, e.1.Quiet)
      (hall : ∀ summary, result = .ok summary →
        handled = (Grouping.build s.normalizer entities).candidates) :
      FetchedEnd s run (fetching ++ (merging ++ closing)) result

theorem FetchedExit.fetchedEnd {backend : String} {result : Except Stop Summary}
    (hc : FetchedExit s backend run h result) : FetchedEnd s run h result := by
  cases hc with
  | unread => exact .troubled
  | read hfetch hgroups hclosed =>
    obtain ⟨handled, reports, front, back, hsplit, hbegun, hreported, hclosing⟩ :=
      hclosed.parts hgroups
    rw [hsplit]
    cases hclosing with
    | gaveUp => exact .reported hfetch hbegun hreported (by simp) (by simp)
    | unwritten => exact .troubled
    | unverified => exact .troubled
    | verified hall hlooking =>
      have hquiet := (only_calling_quiet id).yields hlooking
      exact .reported hfetch hbegun hreported hquiet fun _ _ => hall

/-- A whole run with its result. Where there are reports, all tables and columns were there. -/
inductive RunEnd (s : Settings) (run : String) : Transcript → Except Stop Summary → Prop where
  | troubled {h : Transcript} {t : Trouble} : RunEnd s run h (.error (.trouble t))
  | reported {checking opening fetching merging closing : Transcript} {entities : List Entity}
      {handled : List DuplicateGroup} {result : Except Stop Summary}
      (hpreflight : (preflight s).Yields checking (.ok ()))
      (hopening : ∀ e ∈ opening, e.1.Quiet)
      (hfetch : (Run.fetchEntities s.retry s.entity).Yields fetching (.ok entities))
      (hbegun : handled <+: (Grouping.build s.normalizer entities).candidates)
      (hgroups : GroupsReported s run handled merging (reportsOf result))
      (hclosing : ∀ e ∈ closing, e.1.Quiet)
      (hall : ∀ summary, result = .ok summary →
        handled = (Grouping.build s.normalizer entities).candidates) :
      RunEnd s run (checking ++ (opening ++ (fetching ++ (merging ++ closing)))) result

theorem FetchedEnd.runEnd {checking opening last : Transcript} {result : Except Stop Summary}
    (hc : FetchedEnd s run h result) (hpreflight : (preflight s).Yields checking (.ok ()))
    (hopening : ∀ e ∈ opening, e.1.Quiet) (hlast : ∀ e ∈ last, e.1.Quiet) :
    RunEnd s run (checking ++ (opening ++ (h ++ last))) result := by
  cases hc with
  | troubled => exact .troubled
  | reported hfetch hbegun hgroups hclosing hall =>
    rw [List.append_assoc, List.append_assoc]
    exact .reported hpreflight hopening hfetch hbegun hgroups
      (List.forall_mem_append.mpr ⟨hclosing, hlast⟩) hall

theorem yields_mergeAll {backend : String} {result : Except Stop Summary}
    (hy : (mergeAll s backend run).Yields h result) : RunEnd s run h result := by
  cases yields_runExit hy with
  | unready => exact .troubled
  | ready hpreflight hlocked =>
    cases hlocked with
    | refused => exact .troubled
    | opened hopening hfetched hlast =>
      exact hfetched.fetchedEnd.runEnd hpreflight (fun e he => (hopening e he).quiet)
        fun e he => (hlast e he).quiet

/-- The parts of a run that got as far as its groups, with all that it reports. -/
structure RunParts (s : Settings) (backend run : String) (entities : List Entity)
    (handled : List DuplicateGroup) (reports : List GroupReport)
    (opening merging closing last : Transcript) (result : Except Stop Summary) : Prop where
  fetched : ⟨Action.call (.fetchEntities s.entity), Attempt.answered (.ok entities)⟩ ∈ opening
  opened : ∀ e ∈ opening, s.Frames e.1
  begun : handled <+: (Grouping.build s.normalizer entities).candidates
  reported : GroupsReported s run handled merging reports
  closed : Closing s backend run entities handled reports closing result
  left : ∀ e ∈ last, e.1.Bordering

/-- A run did not get as far as its groups, or it has its parts. -/
theorem yields_parts {backend : String} {result : Except Stop Summary}
    (hy : (mergeAll s backend run).Yields h result) :
    ((∀ e ∈ h, s.Frames e.1) ∧ ∃ t, result = .error (.trouble t)) ∨
    ∃ entities handled reports opening merging closing last,
      h = opening ++ (merging ++ (closing ++ last)) ∧
      RunParts s backend run entities handled reports opening merging closing last result := by
  refine (yields_frame hy).imp (fun ⟨hframes, _, htrouble⟩ => ⟨hframes, htrouble⟩) ?_
  rintro ⟨entities, opening, merging, closing, last, groups, rfl, hframe⟩
  obtain ⟨handled, reports, front, back, hsplit, hbegun, hreported, hclosing⟩ :=
    hframe.closed.parts hframe.merged
  refine ⟨entities, handled, reports, opening, front, back, last, ?_, ?_⟩
  · rw [← List.append_assoc merging, hsplit, List.append_assoc]
  · exact { fetched := hframe.fetched, opened := hframe.opened, begun := hbegun,
            reported := hreported, closed := hclosing, left := hframe.left }

/-- What a report of a result is about, with all that was asked for it. -/
theorem RunEnd.exists_group {result : Except Stop Summary} (hc : RunEnd s run h result)
    {report : GroupReport} (hreport : report ∈ reportsOf result) :
    ∃ g before asked after transient, h = before ++ (asked ++ after) ∧
      (mergeGroup s run g).Yields asked (.ok (report, transient)) := by
  cases hc with
  | troubled => exact absurd hreport List.not_mem_nil
  | @reported checking opening fetching _ closing _ _ _ _ _ _ _ hgroups _ _ =>
    obtain ⟨g, -, before, asked, after, transient, rfl, hasked⟩ := hgroups.exists_group hreport
    refine ⟨g, checking ++ (opening ++ (fetching ++ before)), asked, after ++ closing, transient,
      ?_, hasked⟩
    simp only [List.append_assoc]

end RegistryDedup
