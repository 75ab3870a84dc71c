import RegistryDedup.Proofs.Merge.Choice
import RegistryDedup.Proofs.Merge.Outcome

/-!
# A second run

A run that has come to its end leaves nothing to do for the next one. Groups whose references could
not be counted cannot be counted again. In a group that was merged only losers are left whose delete
is refused; the same entity is kept as before, since all references have come to it, and so the next
run finds no reference to move and no loser that it could delete.

- `Resting`: a group for which nothing is left to do. `truthful_resting` says that merging it
  changes nothing.
- `resting_of_reports`: the groups after a run are resting.
- `mergeAll_idempotent`: a run after one with a result changes nothing, at every point of it.
-/

namespace RegistryDedup

open Interface.Environment

variable {s : Settings} {run : String} {g : DuplicateGroup} {r : GroupReport}
  {reports : List GroupReport} {h : Transcript} {t t' t'' : Tables}

/-! ## Groups with nothing left to do -/

/-- Whatever may be counted and chosen for a group, there are no references to its losers, and their
deletes are refused. -/
def Resting (s : Settings) (t : Tables) (g : DuplicateGroup) : Prop :=
  ∀ counts selection, Counted s g t (.ok counts) →
    select s.policy g.members counts = some selection → ∀ l ∈ selection.loserIds,
      (∀ d ∈ s.dependents, t.references d l = 0) ∧ (s.entity.table, l) ∈ t.failingDeletes

theorem Resting.noted (hr : Resting s t g) (hn : t.Noted t') : Resting s t' g := by
  intro counts selection hcounted hselect
  have halike := hn.alike
  obtain ⟨events, rfl⟩ := hn
  exact hr counts selection (hcounted.transfer halike fun _ _ _ _ => rfl) hselect

/-- Merging a group with nothing left to do changes nothing, at every point. -/
theorem truthful_resting (hp : Present s t) (hr : Resting s t g)
    (ha : (mergeGroup s run g).Asks h) (hf : Tables.truthful.Follows t h t') : t.Noted t' := by
  have ho := asks_mergeGroup_orderly ha
  refine hf.keeps (P := t.Noted) (.refl t) fun e he v v' hv hstep => ?_
  by_cases hquiet : e.1.Quiet
  · exact truthful_quiet hquiet hstep ▸ hv
  obtain ⟨selection, ⟨counting, counts, ⟨rest, hrest⟩, hcounting, hselect⟩, hconfined⟩ :=
    ho.confined e he hquiet
  -- The count that the selection goes by was made before anything was changed.
  rw [← hrest] at hf
  obtain ⟨u, hcounts, -⟩ := follows_append.mp hf
  obtain ⟨rfl, hcounted⟩ := truthful_countsFor hp hcounting hcounts
  have hresting := hr counts selection hcounted hselect
  obtain ⟨a, x⟩ := e
  rcases hconfined with ⟨path, entry, rfl⟩ | rfl | ⟨d, hd, l, hl, rfl⟩ | ⟨l, hl, rfl⟩
  · obtain rfl : v' = v := hstep
    exact hv
  · obtain rfl : v' = v := hstep.2
    exact hv
  · obtain rfl : v' = (v.repoint d.table d.column l selection.keep.id).2 := hstep.2
    refine hv.trans (Tables.noted_repoint ?_ _)
    rw [hv.rows]
    exact Tables.references_eq_zero.mp ((hresting l hl).1 d hd)
  · obtain rfl : v' = (v.deleteIds s.entity.table s.entity.idColumn [l]).2 := hstep.2
    rw [Tables.deleteIds_of_failing (hv.alike.failingDeletes ▸ (hresting l hl).2)]
    exact hv

theorem truthful_restingGroups {segments : List (DuplicateGroup × Transcript)}
    (hp : Present s t) (hr : ∀ seg ∈ segments, Resting s t seg.1)
    (ha : ∀ seg ∈ segments, (mergeGroup s run seg.1).Asks seg.2)
    (hf : Tables.truthful.Follows t (segments.map (·.2)).flatten t') : t.Noted t' := by
  induction segments generalizing t with
  | nil =>
    obtain rfl := hf
    exact .refl _
  | cons seg segments ih =>
    rw [List.map_cons, List.flatten_cons] at hf
    obtain ⟨u, hfirst, hrest⟩ := follows_append.mp hf
    rw [List.forall_mem_cons] at hr ha
    -- The groups that wait are still resting, since only events were noted.
    have hnoted := truthful_resting hp hr.1 ha.1 hfirst
    exact hnoted.trans
      (ih (hp.alike hnoted.alike) (fun seg hseg => (hr.2 seg hseg).noted hnoted) ha.2 hrest)

/-- A run on groups with nothing left to do changes nothing, at every point. -/
theorem RunCourse.noted (hp : Present s t)
    (hr : ∀ g ∈ (Grouping.build s.normalizer (s.entities t)).candidates, Resting s t g)
    (hc : RunCourse s run h) (hf : Tables.truthful.Follows t h t') : t.Noted t' := by
  cases hc with
  | unread hquiet =>
    obtain rfl := hf.unchanged fun e he _ _ => truthful_quiet (hquiet e he)
    exact .refl _
  | read hfetch hopening hgroups hclosing =>
    obtain ⟨u, hopen, hf⟩ := follows_append.mp hf
    obtain ⟨v, hmerge, hclose⟩ := follows_append.mp hf
    have hanswer := (hopen.answers fun e he _ _ => truthful_quiet (hopening e he)) _ hfetch
    obtain rfl := hopen.unchanged fun e he _ _ => truthful_quiet (hopening e he)
    obtain rfl := hclose.unchanged fun e he _ _ => truthful_quiet (hclosing e he)
    have hentities := Except.ok.inj ((Attempt.answered.inj hanswer.1).trans hp.fetch)
    obtain ⟨hbegun, hasks⟩ := hgroups.begun
    rw [hentities] at hbegun
    exact truthful_restingGroups hp
      (fun seg hseg => hr _ (hbegun.subset (List.mem_map_of_mem hseg))) hasks hmerge

/-! ## Groups after a run -/

/-- Whether the reports of a run do not give an entity as deleted. -/
def isLeft (reports : List GroupReport) (e : Entity) : Bool :=
  !reports.any fun r => r.deleted.contains e.id

/-- The entities after a run are those that it has left. -/
theorem TablesAfter.entities (h : TablesAfter s reports t t') :
    s.entities t' = (s.entities t).filter (isLeft reports) := by
  have hrows : t'.rows s.entity.table = (t.rows s.entity.table).filter fun row =>
      !reports.any fun r => r.deleted.any (row.has s.entity.idColumn) := by
    rw [Tables.rows, h.primary, Tables.rows]
    cases t.find? s.entity.table <;> rfl
  rw [Settings.entities, hrows, Settings.entities, List.filterMap_filter, List.filter_filterMap]
  congr 1
  funext row
  rw [Row.entity?]
  cases hid : row.text? s.entity.idColumn with
  | none => simp
  | some id =>
    simp only [Row.any_has_of_text hid]
    rfl

/-- A group after a run is what is left of a group before it. -/
theorem TablesAfter.candidates (h : TablesAfter s reports t t') {g' : DuplicateGroup}
    (hg' : g' ∈ (Grouping.build s.normalizer (s.entities t')).candidates) :
    ∃ g ∈ (Grouping.build s.normalizer (s.entities t)).candidates,
      g'.members = g.members.filter (isLeft reports) := by
  obtain ⟨hkey, hmembers, hlen⟩ := Grouping.mem_candidates.mp hg'
  let g : DuplicateGroup :=
    ⟨g'.key, (s.entities t).filter fun e => s.normalizer.key e.name == g'.key⟩
  have hfilter : g'.members = g.members.filter (isLeft reports) := by
    rw [hmembers, h.entities, List.filter_filter, List.filter_filter]
    simp only [Bool.and_comm]
  refine ⟨g, Grouping.mem_candidates.mpr ⟨hkey, rfl, ?_⟩, hfilter⟩
  exact Nat.lt_of_lt_of_le hlen (hfilter ▸ List.length_filter_le _ _)

theorem ReportOf.deleted_mem (hr : ReportOf s g t r) {id : String} (hid : id ∈ r.deleted) :
    id ∈ r.members := by
  cases hr with
  | skipped => exact absurd hid List.not_mem_nil
  | merged hr =>
    exact hr.members_perm.mem_iff.mpr (List.mem_cons_of_mem _ ((hr.deleted id).mp hid).1)

/-- A member of a group is left if its own report does not give it as deleted. -/
theorem ReportsApart.isLeft_iff (ha : ReportsApart reports)
    (hdeleted : ∀ r ∈ reports, ∀ id ∈ r.deleted, id ∈ r.members) (hr : r ∈ reports) {e : Entity}
    (he : e.id ∈ r.members) : isLeft reports e = true ↔ e.id ∉ r.deleted := by
  rw [isLeft, Bool.not_eq_true', List.any_eq_false]
  simp only [List.contains_iff_mem]
  constructor
  · exact fun hleft => hleft r hr
  · intro hleft r' hr' hgone
    obtain rfl := ha.unique hr hr' he (hdeleted r' hr' _ hgone)
    exact hleft hgone

/-- What is left of a merged group is split as before: all references have come to the entity that
was kept. -/
theorem MergedReport.split_again {selection selection' : Selection}
    (hm : MergedReport s g t selection r) (ha : ReportsApart reports) (hr : r ∈ reports)
    (hafter : TablesAfter s reports t t') (hs : ∀ d ∈ s.dependents, d.table ≠ s.entity.table)
    (hleft : isLeft reports selection.keep = true) {g' : DuplicateGroup} {counts' : List RefCount}
    (hmembers : g'.members = g.members.filter (isLeft reports))
    (hcounted : Counted s g' t' (.ok counts'))
    (hselect : select s.policy g'.members counts' = some selection') :
    selection'.keep = selection.keep ∧
      selection'.losers = selection.losers.filter (isLeft reports) := by
  rw [hmembers] at hselect
  have hmem : ∀ {e}, e ∈ g.members ↔ e = selection.keep ∨ e ∈ selection.losers :=
    mem_members_iff hm.selected
  have htotal : s.policy.needsCounts = true → ∀ e ∈ g.members, isLeft reports e = true →
      totalOf counts' e.id = s.referencesTo t' e.id := by
    intro hneeds e he hp
    refine (hcounted.countsOf hneeds).totalOf_eq (List.mem_map_of_mem ?_)
    rw [hmembers]
    exact List.mem_filter.mpr ⟨he, hp⟩
  refine select_again hm.selected hselect hleft (fun hneeds e he => ?_) fun hneeds hzero => ?_
  · obtain ⟨he, hp⟩ := List.mem_filter.mp he
    rw [htotal hneeds e (hmem.mpr (.inr he)) hp]
    refine hafter.referencesTo_loser ha hr hm.merged hm.keep hm.members_perm hs ?_
    exact hm.losers ▸ List.mem_map_of_mem he
  · -- The sum of the references to the members is that of the references to the one kept.
    rw [htotal hneeds _ (hmem.mpr (.inl rfl)) hleft,
      hafter.referencesTo_keep ha hr hm.merged hm.keep hm.members_perm hs] at hzero
    have hnone : ∀ e ∈ g.members, totalOf r.counts e.id = 0 := by
      intro e he
      have hid : e.id ∈ g.ids := List.mem_map_of_mem he
      rw [(hm.counted.countsOf hneeds).totalOf_eq hid]
      refine List.sum_eq_zero_iff.mp hzero _ (List.mem_map_of_mem ?_)
      rwa [hm.members]
    exact ⟨hnone _ (hmem.mpr (.inl rfl)), fun e he => hnone e (hmem.mpr (.inr he))⟩

/-- What is left of a group after a run has nothing left to do. -/
theorem resting_of_reports (hs : ∀ d ∈ s.dependents, d.table ≠ s.entity.table)
    (hdistinct : DistinctIds s t) (hafter : TablesAfter s reports t t')
    (hreports : List.Forall₂ (fun g r => ReportOf s g t r)
      (Grouping.build s.normalizer (s.entities t)).candidates reports)
    {g' : DuplicateGroup} (hg' : g' ∈ (Grouping.build s.normalizer (s.entities t')).candidates) :
    Resting s t' g' := by
  have hapart := ReportsApart.of_groups (candidates_ids_nodup hdistinct) hreports
  obtain ⟨g, hg, hmembers⟩ := hafter.candidates hg'
  obtain ⟨r, hr, hreport⟩ := exists_of_forall₂ hreports.flip hg
  have hleft : ∀ e ∈ g.members, isLeft reports e = true ↔ e.id ∉ r.deleted := by
    intro e he
    refine hapart.isLeft_iff (fun r' hr' id hid => ?_) hr ?_
    · obtain ⟨g', -, hreport'⟩ := exists_of_forall₂ hreports hr'
      exact hreport'.deleted_mem hid
    · rw [hreport.key_members.2]
      exact List.mem_map_of_mem he
  intro counts' selection' hcounted hselect l hl
  cases hreport with
  | skipped hneeds hfails =>
    -- All members are left, and so is the count that fails.
    obtain ⟨d, hd, id, hid, hfails⟩ := hfails
    obtain ⟨e, he, rfl⟩ := List.mem_map.mp hid
    have he' : e ∈ g'.members := by
      rw [hmembers, List.mem_filter, hleft e he]
      exact ⟨he, List.not_mem_nil⟩
    have hagain : CountFails s t' g'.ids :=
      ⟨d, hd, e.id, List.mem_map_of_mem he', hafter.alike.failingCounts ▸ hfails⟩
    cases hcounted with
    | needless hneedless => cases hneeds.symm.trans hneedless
    | told _ hfine _ => exact absurd hagain hfine
  | @merged selection _ hm =>
    have hmem : ∀ {e}, e ∈ g.members ↔ e = selection.keep ∨ e ∈ selection.losers :=
      mem_members_iff hm.selected
    have hids : g.ids.Nodup := hm.members ▸ (List.nodup_flatMap.mp hapart.members).1 r hr
    have hkeep : isLeft reports selection.keep = true := by
      rw [hleft _ (hmem.mpr (.inl rfl)), hm.deleted, hm.losers]
      exact fun hloser => keep_not_mem_loserIds hm.selected hids hloser.1
    obtain ⟨-, hlosers⟩ := hm.split_again hapart hr hafter hs hkeep hmembers hcounted hselect
    rw [Selection.loserIds, hlosers] at hl
    obtain ⟨e, he, rfl⟩ := List.mem_map.mp hl
    obtain ⟨he, hp⟩ := List.mem_filter.mp he
    have hloser : e.id ∈ r.losers := hm.losers ▸ List.mem_map_of_mem he
    constructor
    · exact fun d hd =>
        hafter.references_loser hapart hr hm.merged hm.keep hm.members_perm hs hd hloser
    · -- A loser whose delete is not refused would not be left.
      rw [hafter.alike.failingDeletes]
      by_contra hallowed
      exact (hleft e (hmem.mpr (.inr he))).mp hp ((hm.deleted _).mpr ⟨hloser, hallowed⟩)

/-! ## A second run -/

/-- A run after one with a result changes nothing but the events that are noted, at every point of
it, whatever counts fail and whatever deletes are refused. -/
theorem mergeAll_idempotent {backend backend' run' : String} {summary : Summary} {h' : Transcript}
    (hs : ∀ d ∈ s.dependents, d.table ≠ s.entity.table) (hwet : s.dryRun = false)
    (hdistinct : DistinctIds s t) (hy : (mergeAll s backend run).Yields h (.ok summary))
    (hf : Tables.truthful.Follows t h t') (ha : (mergeAll s backend' run').Asks h')
    (hf' : Tables.truthful.Follows t' h' t'') : t'.Noted t'' := by
  obtain ⟨hp, hafter, hreports⟩ := truthful_mergeAll hs hwet hdistinct hy hf
  exact RunCourse.noted (hp.alike hafter.alike)
    (fun g' hg' => resting_of_reports hs hdistinct hafter hreports hg') (asks_mergeAll ha) hf'

namespace Sample

/-- A second run on what the first one has left of the three regions. -/
def secondTranscript : Transcript :=
  (mergeAll referenced "memory" "again").transcript (World.answer Tables.store)
    (referencedEnd refusing).2

/-- The world after the second run. -/
def secondEnd : World Tables :=
  (World.perform Tables.store (mergeAll referenced "memory" "again") (referencedEnd refusing).2).2

end Sample

/-- The second run tries to delete the third region once more. -/
theorem mergeAll_idempotent_sample :
    Sample.calls Sample.secondTranscript = ["check_columns regions id,name",
      "check_columns projects region_id", "fetch_entities regions",
      "count_refs projects region_id r2", "count_refs projects region_id r3", "merge FOO r2 r3",
      "repoint projects region_id r3 r2", "delete_ids regions id r3", "fetch_entities regions"] ∧
    (Sample.referencedEnd Sample.refusing).2.state.writes = 2 ∧
    (Sample.referencedEnd Sample.refusing).2.state.Noted Sample.secondEnd.state := by
  refine ⟨by decide +kernel, by decide +kernel, ?_⟩
  exact mergeAll_idempotent Sample.referenced_elsewhere rfl Sample.refusing_distinctIds
    Sample.yields_referenced (Sample.follows_referenced _) (Program.yields_transcript _ _ _).asks
    (Program.follows_transcript World.state truthful_answer _ _)

end RegistryDedup
