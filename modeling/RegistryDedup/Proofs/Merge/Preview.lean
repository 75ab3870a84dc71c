import RegistryDedup.Proofs.Merge.Outcome

/-!
# What a dry run foretells

A dry run only looks. On tables in memory it foretells what the real run does with each group,
although the real run counts the references of a group only after it has merged the groups before:
merging a group moves no reference to a member of another one.

- `only_mergeAll_looks`: a dry run changes nothing, and leaves the lock and the journal alone.
- `SameFor`: tables that are the same for the members of some groups. `MemoryGroup.foretold` says of
  one group that it fares the same on them.
- `GroupsForetold`: the groups of both runs. Both handle all of them, or give up after the same one;
  or the journal is refused to the real run, which has done as foretold up to then.
- `PreviewOf`, `mergeAll_foretold`: whole runs.
-/

namespace RegistryDedup

open Interface.Environment

variable {s : Settings} {backend run backend' run' : String} {g : DuplicateGroup}
  {h h' : Transcript} {t t' u u' : Tables}

/-! ## A dry run only looks -/

theorem only_mergeGroup_looks (hdry : s.dryRun = true) (g : DuplicateGroup) :
    (mergeGroup s run g).Only Action.Looks := by
  refine ((only_countsFor s g).mono fun _ ha => ha.looks).bind fun reply => ?_
  cases reply with
  | error failure => trivial
  | ok counts =>
    dsimp only
    cases select s.policy g.members counts with
    | none => trivial
    | some selection =>
      dsimp only
      rw [if_pos hdry]
      trivial

/-- A dry run only looks at the store. It takes no lock, and it opens and writes no journal. -/
theorem only_mergeAll_looks (hdry : s.dryRun = true) (backend run : String) :
    (mergeAll s backend run).Only Action.Looks := by
  have hlock : s.writeLock = none := if_pos hdry
  have hjournal : s.writeJournal = none := if_pos hdry
  refine ((only_preflight s).mono fun _ ha => ha.looks).bind fun reply => ?_
  cases reply with
  | error f => trivial
  | ok _ =>
    show (mergeLocked s backend run).Only Action.Looks
    rw [mergeLocked, hlock]
    show (mergeJournaled s backend run).Only Action.Looks
    rw [mergeJournaled, hjournal]
    exact only_mergeFetched id (only_mergeGroup_looks hdry)

theorem Refused.not_looks {e : Action.interface.Exchange} (he : Refused e) : ¬ e.1.Looks := by
  rcases he with ⟨path, f, rfl⟩ | ⟨path, f, rfl⟩ | ⟨path, entry, f, rfl⟩ <;> exact id

/-! ## One group in both runs -/

/-- The settings of the dry run of a run. -/
def Settings.preview (s : Settings) : Settings :=
  { s with dryRun := true }

/-- Tables that are the same for the members of some groups. -/
structure SameFor (s : Settings) (ids : List String) (t u : Tables) : Prop where
  alike : Tables.Alike t u
  cells : ∀ d ∈ s.dependents, ∀ some ⊆ ids, u.cells d some = t.cells d some

theorem SameFor.refl (ids : List String) : SameFor s ids t t :=
  ⟨.refl t, fun _ _ _ _ => rfl⟩

theorem SameFor.mono {ids ids' : List String} (hsame : SameFor s ids t u) (hsub : ids' ⊆ ids) :
    SameFor s ids' t u :=
  ⟨hsame.alike, fun d hd some hsome => hsame.cells d hd some fun _ hid => hsub (hsome hid)⟩

theorem Present.preview (hp : Present s t) : Present s.preview t :=
  ⟨hp.entity, hp.dependents⟩

theorem Counted.of_preview {result : Except CountFailure (List RefCount)}
    (hc : Counted s.preview g t result) : Counted s g t result := by
  cases hc with
  | needless hneeds => exact .needless hneeds
  | told hneeds hfine hcounts =>
    exact .told hneeds hfine ⟨hcounts.ids, hcounts.total, hcounts.perTable, hcounts.keys⟩
  | failed hneeds hfails htransient => exact .failed hneeds hfails htransient

/-- What becomes of a group in a dry run and in the real run, which may find it on tables that have
changed for other groups. -/
theorem MemoryGroup.foretold (hwet : s.dryRun = false) (hsame : SameFor s g.ids t u)
    {dry real : Except Stop (GroupReport × Bool)}
    (hdry : MemoryGroup s.preview g t h dry t') (hreal : MemoryGroup s g u h' real u') :
    t' = t ∧ ∃ report transient, dry = .ok (report, transient) ∧
      ((∃ report', real = .ok (report', transient) ∧ report'.preview = report.preview) ∨
        (∃ trouble, real = .error (.trouble trouble)) ∧ ∃ e ∈ h', Refused e) := by
  -- Both runs are told the same of the references.
  have hagree : ∀ {result result'}, Counted s.preview g t result → Counted s g u result' →
      (∃ counts, result = .ok counts ∧ result' = .ok counts) ∨
      ∃ failure failure', result = .error failure ∧ result' = .error failure' ∧
        failure.failure.isRetryable = failure'.failure.isRetryable :=
    fun hc hc' => hc.of_preview.agree (hc'.transfer hsame.alike hsame.cells)
  cases hdry with
  | unwritten hwrites _ => cases hwrites
  | planned _ _ hwrites _ _ => cases hwrites
  | uncounted hcounted =>
    refine ⟨rfl, _, _, rfl, ?_⟩
    cases hreal with
    | previewed _ _ hdry => cases hwet.symm.trans hdry
    | unwritten _ hlost => exact .inr ⟨⟨_, rfl⟩, hlost.exists_refused⟩
    | uncounted hcounted' =>
      obtain ⟨counts, hok, -⟩ | ⟨_, _, hfailed, hfailed', hretry⟩ := hagree hcounted hcounted'
      · cases hok
      · cases hfailed
        cases hfailed'
        refine .inl ⟨_, (congrArg (fun transient => Except.ok (_, transient)) hretry).symm, ?_⟩
        rfl
    | planned hcounted' _ _ _ _ =>
      obtain ⟨counts, hok, -⟩ | ⟨_, _, -, hfailed', -⟩ := hagree hcounted hcounted'
      · cases hok
      · cases hfailed'
  | previewed hcounted hselect _ =>
    refine ⟨rfl, _, _, rfl, ?_⟩
    cases hreal with
    | previewed _ _ hdry => cases hwet.symm.trans hdry
    | unwritten _ hlost => exact .inr ⟨⟨_, rfl⟩, hlost.exists_refused⟩
    | uncounted hcounted' =>
      obtain ⟨counts, -, hok'⟩ | ⟨_, _, hfailed, -, -⟩ := hagree hcounted hcounted'
      · cases hok'
      · cases hfailed
    | planned hcounted' hselect' _ hpreview hdone =>
      obtain ⟨counts, hok, hok'⟩ | ⟨_, _, hfailed, -, -⟩ := hagree hcounted hcounted'
      · cases hok
        cases hok'
        cases hselect.symm.trans hselect'
        refine .inl ⟨_, ?_, hpreview⟩
        rw [← hdone.lasting]
      · cases hfailed

/-! ## All groups in both runs -/

/-- What becomes of the groups in a dry run and in the real run, after some reports that the real
run has made already. -/
inductive GroupsForetold (s : Settings) (run' : String)
    (partialOf partialOf' : List GroupReport → Summary) (done' : List GroupReport)
    (h' : Transcript) :
    Except Stop (List GroupReport) → Except Stop (List GroupReport) → Prop where
  | finished {reports reports' : List GroupReport}
      (hsame : reports'.map (·.preview) = reports.map (·.preview)) :
      GroupsForetold s run' partialOf partialOf' done' h' (.ok reports) (.ok reports')
  | gaveUp {reports reports' : List GroupReport} {reason : String}
      (hsame : reports'.map (·.preview) = reports.map (·.preview)) :
      GroupsForetold s run' partialOf partialOf' done' h'
        (.error (.aborted reason { partialOf reports with aborted := some reason }))
        (.error (.aborted reason { partialOf' reports' with aborted := some reason }))
  | refused {result : Except Stop (List GroupReport)} {trouble : Trouble}
      {handled : List DuplicateGroup} {merging : Transcript} {reports' : List GroupReport}
      (hrefused : ∃ e ∈ h', Refused e) (hbegun : merging <+: h')
      (hreported : GroupsReported s run' handled merging reports')
      (hsame : (done' ++ reports').map (·.preview) <+:
        (reportsOf (result.map partialOf)).map (·.preview)) :
      GroupsForetold s run' partialOf partialOf' done' h' result (.error (.trouble trouble))

/-- A dry run keeps the reports that it has made. -/
theorem GroupsExit.prefix_reports {partialOf : List GroupReport → Summary}
    (hpartial : ∀ reports, (partialOf reports).groups = reports) (hdry : s.dryRun = true)
    {groups : List DuplicateGroup} {streak : Nat} {done : List GroupReport}
    {result : Except Stop (List GroupReport)}
    (hc : GroupsExit s run partialOf groups streak done h result) :
    done <+: reportsOf (result.map partialOf) := by
  induction hc with
  | finished =>
    show _ <+: (partialOf _).groups
    simp only [hpartial, List.prefix_refl]
  | unwritten hlast =>
    obtain ⟨_, _, _, _, _, _, -, hwriting, -⟩ := (yields_mergeGroup hlast).stop_of_error
    have hjournal : s.writeJournal = none := if_pos hdry
    rw [writeJournal, hjournal] at hwriting
    cases hwriting.2
  | gaveUp =>
    show _ <+: (partialOf _).groups
    rw [hpartial]
    exact List.prefix_append _ _
  | next _ _ _ ih => exact (List.prefix_append _ _).trans ih

/-- A group that the real run has handled before. -/
theorem GroupsForetold.cons {partialOf partialOf' : List GroupReport → Summary}
    {done' : List GroupReport} {asked' rest' : Transcript} {report' : GroupReport}
    {transient : Bool} {result result' : Except Stop (List GroupReport)}
    (hfirst : (mergeGroup s run' g).Yields asked' (.ok (report', transient)))
    (hc : GroupsForetold s run' partialOf partialOf' (done' ++ [report']) rest' result result') :
    GroupsForetold s run' partialOf partialOf' done' (asked' ++ rest') result result' := by
  cases hc with
  | finished hsame => exact .finished hsame
  | gaveUp hsame => exact .gaveUp hsame
  | refused hrefused hbegun hreported hsame =>
    obtain ⟨e, he, hrefused⟩ := hrefused
    refine .refused ⟨e, List.mem_append_right _ he, hrefused⟩
      ((List.prefix_append_right_inj _).mpr hbegun) (.cons hfirst hreported) ?_
    rwa [List.append_assoc] at hsame

/-- The real run is refused its journal for the next group. -/
theorem GroupsForetold.of_refused {partialOf partialOf' : List GroupReport → Summary}
    {done done' : List GroupReport} {result : Except Stop (List GroupReport)} {trouble : Trouble}
    (hrefused : ∃ e ∈ h', Refused e) (hdone : done'.map (·.preview) = done.map (·.preview))
    (hearlier : done <+: reportsOf (result.map partialOf)) :
    GroupsForetold s run' partialOf partialOf' done' h' result (.error (.trouble trouble)) := by
  refine .refused hrefused List.nil_prefix .nil ?_
  rw [List.append_nil, hdone]
  exact hearlier.map _

/-- The first group of a run up to its exit, and what comes after it. -/
theorem GroupsExit.first {partialOf : List GroupReport → Summary} {groups : List DuplicateGroup}
    {streak : Nat} {done : List GroupReport} {result : Except Stop (List GroupReport)}
    (hc : GroupsExit s run partialOf (g :: groups) streak done h result) :
    ∃ asked rest outcome, h = asked ++ rest ∧ (mergeGroup s run g).Yields asked outcome ∧
      (∀ stop, outcome = .error stop → result = .error stop) ∧
      ∀ report transient, outcome = .ok (report, transient) →
        if transient = true ∧ max s.maxFailuresInARow 1 ≤ streak + 1 then
          result = .error (.aborted (abortReason (streak + 1) g.key) { partialOf (done ++ [report])
            with aborted := some (abortReason (streak + 1) g.key) })
        else GroupsExit s run partialOf groups (if transient then streak + 1 else 0)
          (done ++ [report]) rest result := by
  cases hc with
  | unwritten hlast =>
    refine ⟨h, [], _, (List.append_nil h).symm, hlast, ?_, ?_⟩
    · rintro _ ⟨⟩
      rfl
    · rintro _ _ ⟨⟩
  | gaveUp hlast hlimit hreason =>
    refine ⟨h, [], _, (List.append_nil h).symm, hlast, ?_, ?_⟩
    · rintro _ ⟨⟩
    · rintro _ _ ⟨⟩
      rw [if_pos ⟨rfl, hlimit⟩, hreason]
  | next hfirst hlimit hrest =>
    refine ⟨_, _, _, rfl, hfirst, ?_, ?_⟩
    · rintro _ ⟨⟩
    · rintro _ _ ⟨⟩
      rw [if_neg fun hboth => Nat.not_le_of_lt (hlimit hboth.1) hboth.2]
      exact hrest

/-- The groups of a dry run and those of the real run, both after as many groups. -/
theorem truthful_groupsForetold (hs : ∀ d ∈ s.dependents, d.table ≠ s.entity.table)
    (hwet : s.dryRun = false) {partialOf partialOf' : List GroupReport → Summary}
    (hpartial : ∀ reports, (partialOf reports).groups = reports) {groups : List DuplicateGroup}
    {streak : Nat} {done done' : List GroupReport} {result result' : Except Stop (List GroupReport)}
    (hp : Present s t) (hdry : GroupsExit s.preview run partialOf groups streak done h result)
    (hf : Tables.truthful.Follows t h t')
    (hreal : GroupsExit s run' partialOf' groups streak done' h' result')
    (hf' : Tables.truthful.Follows u h' u') (hsame : SameFor s (groups.flatMap (·.ids)) t u)
    (hids : (groups.flatMap (·.ids)).Nodup) (hmembers : ∀ g ∈ groups, g.members ≠ [])
    (hdone : done'.map (·.preview) = done.map (·.preview)) :
    GroupsForetold s run' partialOf partialOf' done' h' result result' := by
  induction groups generalizing u streak done done' h h' result result' with
  | nil =>
    cases hdry
    cases hreal
    exact .finished hdone
  | cons g groups ih =>
    rw [List.flatMap_cons] at hsame hids
    rw [List.nodup_append'] at hids
    rw [List.forall_mem_cons] at hmembers
    obtain ⟨hgroup, hrest, hdisjoint⟩ := hids
    have hearlier := hdry.prefix_reports hpartial rfl
    obtain ⟨asked, rest, dry, rfl, hy, -, hgoes⟩ := hdry.first
    obtain ⟨asked', rest', real, rfl, hy', hstops', hgoes'⟩ := hreal.first
    obtain ⟨v, hf, hlater⟩ := follows_append.mp hf
    obtain ⟨v', hf', hlater'⟩ := follows_append.mp hf'
    have hm := truthful_memoryGroup hp.preview hgroup hmembers.1 hy hf
    have hm' := truthful_memoryGroup (hp.alike hsame.alike) hgroup hmembers.1 hy' hf'
    obtain ⟨rfl, report, transient, rfl, ⟨report', rfl, hpreview⟩ | ⟨⟨trouble, rfl⟩, hrefused⟩⟩ :=
      hm.foretold hwet (hsame.mono (List.subset_append_left _ _)) hm'
    · have hdone' : (done' ++ [report']).map (·.preview) = (done ++ [report]).map (·.preview) := by
        rw [List.map_append, List.map_append, hdone, List.map_singleton, List.map_singleton,
          hpreview]
      have hnext := hgoes report transient rfl
      have hnext' := hgoes' report' transient rfl
      have hmax : s.preview.maxFailuresInARow = s.maxFailuresInARow := rfl
      rw [hmax] at hnext
      by_cases hlimit : transient = true ∧ max s.maxFailuresInARow 1 ≤ streak + 1
      · rw [if_pos hlimit] at hnext hnext'
        rw [hnext, hnext']
        exact .gaveUp hdone'
      · rw [if_neg hlimit] at hnext hnext'
        -- For the groups that wait the tables have not changed.
        obtain ⟨hreport, hafter⟩ := hm'.reportOf hs hwet
        refine (ih hnext hlater hnext' hlater' ⟨hsame.alike.trans hafter.alike, ?_⟩ hrest
          hmembers.2 hdone').cons hy'
        intro d hd some hsub
        rw [hafter.cells_of_disjoint hreport hgroup hd (hs d hd)
          fun id hid hmem => hdisjoint hid (hsub hmem)]
        exact hsame.cells d hd some fun id hid => List.mem_append_right _ (hsub hid)
    · rw [hstops' _ rfl]
      obtain ⟨e, he, hrefused⟩ := hrefused
      exact .of_refused ⟨e, List.mem_append_left _ he, hrefused⟩ hdone hearlier

/-! ## Whole runs -/

/-- What a dry run ends with and what the real run ends with, which was asked `h'`. -/
inductive PreviewOf (s : Settings) (run' : String) (h' : Transcript) :
    (dry real : Except Stop Summary) → Prop where
  /-- Both handle all groups, with the same said of each. -/
  | finished {dry real : Summary}
      (hsame : real.groups.map (·.preview) = dry.groups.map (·.preview)) :
      PreviewOf s run' h' (.ok dry) (.ok real)
  /-- Both give up, after the same groups. -/
  | gaveUp {dry real : Summary} {reason : String}
      (hsame : real.groups.map (·.preview) = dry.groups.map (·.preview)) :
      PreviewOf s run' h' (.error (.aborted reason dry)) (.error (.aborted reason real))
  /-- Neither gets any further than to look for its tables and columns. -/
  | unready {trouble : Trouble} (hchecks : ∀ e ∈ h', e.1.Checks) :
      PreviewOf s run' h' (.error (.trouble trouble)) (.error (.trouble trouble))
  /-- The real run is refused its lock or its journal. The groups that it has handled before are
  the first ones of the dry run. -/
  | refused {dry : Except Stop Summary} {trouble : Trouble} {handled : List DuplicateGroup}
      {merging : Transcript} {reports' : List GroupReport} (hrefused : ∃ e ∈ h', Refused e)
      (hbegun : merging <:+: h') (hreported : GroupsReported s run' handled merging reports')
      (hsame : reports'.map (·.preview) <+: (reportsOf dry).map (·.preview)) :
      PreviewOf s run' h' dry (.error (.trouble trouble))

/-- What is said of the groups is said of the runs that handle them. -/
theorem GroupsForetold.previewOf {merging' opening' closing' : Transcript}
    {result result' : Except Stop (List GroupReport)} {scanned scanned' : Nat}
    {residuals residuals' : List Residual}
    (hc : GroupsForetold s run' (summarize s.preview backend run scanned · [])
      (summarize s backend' run' scanned' · []) [] merging' result result') :
    PreviewOf s run' (opening' ++ (merging' ++ closing'))
      (result.map (summarize s.preview backend run scanned · residuals))
      (result'.map (summarize s backend' run' scanned' · residuals')) := by
  cases hc with
  | finished hsame => exact .finished hsame
  | gaveUp hsame => exact .gaveUp hsame
  | refused hrefused hbegun hreported hsame =>
    have hreports : reportsOf (result.map (summarize s.preview backend run scanned · [])) =
        reportsOf (result.map (summarize s.preview backend run scanned · residuals)) := by
      cases result <;> rfl
    obtain ⟨e, he, hrefused⟩ := hrefused
    refine .refused ⟨e, by simp [he], hrefused⟩ ?_ hreported (hreports ▸ hsame)
    exact (hbegun.trans (List.prefix_append _ _)).isInfix.trans
      (List.suffix_append opening' _).isInfix

/-- A dry run changes nothing, takes no lock and opens no journal, whatever the store answers. On
tables in memory it foretells what the real run does: the same groups in the same order, with the
same counts, survivors and losers, whatever counts fail. -/
theorem mergeAll_foretold :
    (∀ {s : Settings} {backend run : String} {h : Transcript}, s.dryRun = true →
      (mergeAll s backend run).Asks h → ∀ e ∈ h, e.1.Looks) ∧
    ∀ {s : Settings} {backend run backend' run' : String} {h h' : Transcript}
      {dry real : Except Stop Summary} {t t' u' : Tables}, s.dryRun = false →
      (∀ d ∈ s.dependents, d.table ≠ s.entity.table) → DistinctIds s t →
      (mergeAll s.preview backend run).Yields h dry → Tables.truthful.Follows t h t' →
      (mergeAll s backend' run').Yields h' real → Tables.truthful.Follows t h' u' →
      PreviewOf s run' h' dry real := by
  refine ⟨fun hdry ha => (only_mergeAll_looks hdry _ _).asks ha, ?_⟩
  intro s backend run backend' run' h h' dry real t t' u' hwet hs hdistinct hy hf hy' hf'
  have hforeign := foreign_of_elsewhere hs
  have hsame : s.preview.readiness t = s.readiness t := rfl
  have hlooks := (only_mergeAll_looks (s := s.preview) rfl backend run).yields hy
  have hexit := truthful_memoryExit hforeign hy' hf'
  cases truthful_memoryExit (s := s.preview) hforeign hy hf with
  | refused _ he hrefused => exact absurd (hlooks _ he) hrefused.not_looks
  | unready hready _ =>
    cases hexit with
    | unready hready' hchecks =>
      cases hready.symm.trans hready'
      exact .unready hchecks
    | refused hready' _ _ => cases hready.symm.trans hready'
    | merged hready' _ _ => cases hready.symm.trans hready'
  | merged hready hgroups hmerging =>
    cases hexit with
    | unready hready' _ => cases hready.symm.trans hready'
    | refused _ he hrefused =>
      exact .refused ⟨_, he, hrefused⟩ List.nil_infix .nil List.nil_prefix
    | merged hready' hgroups' hmerging' =>
      have hforetold := truthful_groupsForetold hs hwet (fun _ => rfl)
        (Present.of_readiness hready') hgroups hmerging hgroups' hmerging' (.refl _)
        (candidates_ids_nodup hdistinct) (fun g hg => Grouping.members_ne_nil hg) rfl
      exact hforetold.previewOf

namespace Sample

/-- What a dry run asks, up to its end. -/
def previewTranscript (t : Tables) : Transcript :=
  (mergeAll referenced.preview "memory" "dry").transcript (World.answer Tables.store) (world t)

/-- The result of the dry run and the world afterwards. -/
def previewEnd (t : Tables) : Except Stop Summary × World Tables :=
  World.perform Tables.store (mergeAll referenced.preview "memory" "dry") (world t)

theorem follows_preview (t : Tables) :
    Tables.truthful.Follows t (previewTranscript t) (previewEnd t).2.state :=
  Program.follows_transcript World.state truthful_answer _ (world t)

end Sample

/-- The dry run says of both names what the real run does, and leaves the regions as they are. -/
theorem mergeAll_foretold_sample :
    (reportsOf (Sample.previewEnd Sample.twoKeys).1).map (·.preview) =
      [⟨"FOO", ["r1", "r2"], some "r2", ["r1"],
        [⟨"r1", 0, [("projects", 0)]⟩, ⟨"r2", 1, [("projects", 1)]⟩]⟩,
      ⟨"BAR", ["r3", "r4"], some "r4", ["r3"],
        [⟨"r3", 0, [("projects", 0)]⟩, ⟨"r4", 1, [("projects", 1)]⟩]⟩] ∧
    (∀ e ∈ Sample.previewTranscript Sample.twoKeys, e.1.Looks) ∧
    PreviewOf Sample.referenced "run" (Sample.referencedTranscript Sample.twoKeys)
      (Sample.previewEnd Sample.twoKeys).1 (Sample.referencedEnd Sample.twoKeys).1 := by
  have hdistinct : DistinctIds Sample.referenced Sample.twoKeys := by
    unfold DistinctIds
    decide
  refine ⟨by decide +kernel, mergeAll_foretold.1 rfl (Program.yields_transcript _ _ _).asks, ?_⟩
  exact mergeAll_foretold.2 rfl Sample.referenced_elsewhere hdistinct
    (Program.yields_transcript _ _ _) (Sample.follows_preview _)
    (Program.yields_transcript _ _ _) (Sample.follows_referenced _)

end RegistryDedup
