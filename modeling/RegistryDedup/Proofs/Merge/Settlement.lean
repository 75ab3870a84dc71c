import Mathlib.Data.List.Pairwise
import RegistryDedup.Proofs.Merge.Ending
import RegistryDedup.Proofs.Merge.Memory

/-!
# What a run leaves

A run works group by group, table by table and loser by loser. On tables in memory all of this comes
to one change that its reports tell: the deleted rows are gone, and each reference to a loser leads
to the entity that its group keeps.

- `leadOf`: where references lead by some reports.
- `TablesAfter`: tables that have changed as some reports tell. Changes by the reports of different
  groups can be joined, since the groups have no id in common (`TablesAfter.cons`).
- `MemoryGroup`: what becomes of one group, in a run that writes and in one that does not. Where the
  group is merged, `PlanDone` says what its moves and deletes come to.
- `ReportOf`: what a report tells of its group. It is about the tables at the start of the run as
  much as about those at the start of the group (`ReportOf.transfer`).
- `truthful_mergeAll`: what a run with a result has done to the tables, group by group.
- `TablesAfter.references_loser`, `TablesAfter.references_keep`: no reference to a loser is left,
  and the entity that is kept has all those of its group.
-/

namespace RegistryDedup

open Interface.Environment

variable {s : Settings} {run : String} {g : DuplicateGroup} {r : GroupReport}
  {reports : List GroupReport} {h : Transcript} {t t' t'' : Tables}

/-! ## Where references lead -/

/-- Whether the references of a group were moved. A loser of it may still be there. -/
def GroupReport.isMerged (r : GroupReport) : Bool :=
  r.status = .reconciled || r.status = .notFullyCleaned

/-- Where the references to the losers of a group lead. -/
def GroupReport.lead (r : GroupReport) : Target :=
  fun id => if r.isMerged ∧ id ∈ r.losers then r.keep else none

/-- Where the references to the losers of some groups lead. -/
def leadOf (reports : List GroupReport) : Target :=
  fun id => reports.findSome? (·.lead id)

theorem leadOf_singleton (r : GroupReport) : leadOf [r] = r.lead := by
  funext id
  rw [leadOf, List.findSome?_cons]
  cases r.lead id <;> rfl

theorem leadOf_cons (r : GroupReport) (reports : List GroupReport) :
    leadOf (r :: reports) = r.lead.join (leadOf reports) := by
  funext id
  rw [leadOf, List.findSome?_cons, Target.join]
  cases r.lead id <;> rfl

theorem lead_eq_some {id keep : String} (hlead : r.lead id = some keep) :
    r.isMerged ∧ id ∈ r.losers ∧ r.keep = some keep := by
  rw [GroupReport.lead] at hlead
  split at hlead
  · next hmerged => exact ⟨hmerged.1, hmerged.2, hlead⟩
  · cases hlead

/-! ## Tables that have changed as reports tell -/

/-- Tables that have changed as some reports tell. -/
structure TablesAfter (s : Settings) (reports : List GroupReport) (t t' : Tables) : Prop where
  alike : Tables.Alike t t'
  /-- The deleted rows are gone. -/
  primary : t'.find? s.entity.table = (t.find? s.entity.table).map
    (·.filterRows fun row => !reports.any fun r => r.deleted.any (row.has s.entity.idColumn))
  /-- The references are led elsewhere. -/
  others : ∀ name, name ≠ s.entity.table → t'.find? name = (t.find? name).map
    (·.mapRows (Row.redirectedAll (leadOf reports) (columnsIn s.dependents name)))

namespace TablesAfter

/-- Tables that have not changed, where the reports tell of no change. -/
theorem unchanged (hdeleted : ∀ r ∈ reports, r.deleted = [])
    (hlead : ∀ id, leadOf reports id = none) : TablesAfter s reports t t where
  alike := .refl t
  primary := by
    have hsame : ∀ u : Table, (u.filterRows fun row => !reports.any fun r =>
        r.deleted.any (row.has s.entity.idColumn)) = u := by
      refine fun u => Table.filterRows_of_forall fun row _ => ?_
      rw [Bool.not_eq_true', List.any_eq_false]
      intro r hr
      rw [hdeleted r hr]
      exact Bool.false_ne_true
    simp [hsame]
  others name _ := by
    have hsame : ∀ u : Table,
        u.mapRows (Row.redirectedAll (leadOf reports) (columnsIn s.dependents name)) = u :=
      fun u => Table.mapRows_of_forall fun row _ => Row.redirectedAll_of_none hlead _ _
    simp [hsame]

/-- Changes one after the other, by reports of groups that have nothing in common. -/
theorem cons (h : TablesAfter s [r] t t') (h' : TablesAfter s reports t' t'')
    (hapart : Target.Apart r.lead (leadOf reports)) : TablesAfter s (r :: reports) t t'' where
  alike := h.alike.trans h'.alike
  primary := by
    rw [h'.primary, h.primary, Option.map_map]
    congr 1
    funext u
    rw [Function.comp_apply, Table.filterRows_filterRows]
    simp only [List.any_cons, List.any_nil, Bool.or_false, Bool.not_or]
  others name hname := by
    rw [h'.others name hname, h.others name hname, Option.map_map, leadOf_singleton, leadOf_cons]
    congr 1
    funext u
    rw [Function.comp_apply, Table.mapRows_mapRows]
    simp only [Row.redirectedAll_trans hapart]

/-- The moves of a group and then its deletes. The primary table has no references to move. -/
theorem of_steps (hs : ∀ d ∈ s.dependents, d.table ≠ s.entity.table) {gone : List String}
    (hled : LedElsewhere r.lead s.dependents t t') (hpurged : Purged s.entity gone t' t'')
    (hdeleted : ∀ id, id ∈ r.deleted ↔ id ∈ gone) : TablesAfter s [r] t t'' where
  alike := hled.alike.trans hpurged.alike
  primary := by
    rw [hpurged.find?, if_pos rfl, hled.find?, columnsIn_eq_nil hs, Option.map_map]
    congr 1
    funext u
    rw [Function.comp_apply, Row.redirectedAll_nil, Table.mapRows_id, Table.filterRows,
      Table.filterRows]
    congr 1
    refine List.filter_congr fun row _ => ?_
    have hany :
        gone.any (row.has s.entity.idColumn) = r.deleted.any (row.has s.entity.idColumn) := by
      rw [Bool.eq_iff_iff, Row.any_has, Row.any_has]
      simp only [hdeleted]
    rw [hany, List.any_cons, List.any_nil, Bool.or_false]
  others name hname := by
    rw [hpurged.find?, if_neg hname, hled.find?, leadOf_singleton]

theorem rows (h : TablesAfter s reports t t') {name : String} (hname : name ≠ s.entity.table) :
    t'.rows name =
      (t.rows name).map (Row.redirectedAll (leadOf reports) (columnsIn s.dependents name)) := by
  rw [Tables.rows, h.others name hname, Tables.rows]
  cases t.find? name <;> rfl

/-- The references to some entities are those that were to the entities that lead to them. -/
theorem cells (h : TablesAfter s reports t t') (hsettled : (leadOf reports).Settled)
    {d : Dependent} (hd : d ∈ s.dependents) (hforeign : d.table ≠ s.entity.table)
    {ids ids' : List String} (hids : ∀ id, (leadOf reports).apply id ∈ ids ↔ id ∈ ids') :
    t'.cells d ids = t.cells d ids' := by
  have hcolumn : d.column ∈ columnsIn s.dependents d.table :=
    mem_columnsIn.mpr ⟨d, hd, rfl, rfl⟩
  rw [Tables.cells, h.rows hforeign, List.countP_map, Tables.cells]
  refine List.countP_congr fun row _ => ?_
  rw [Function.comp_apply, Row.any_has, Row.any_has, Row.text?_redirectedAll hsettled,
    if_pos hcolumn]
  cases row.text? d.column with
  | none => simp
  | some id => simpa using hids id

end TablesAfter

/-! ## What a report tells of its group -/

/-- The report of a group that was merged. -/
structure MergedReport (s : Settings) (g : DuplicateGroup) (t : Tables) (selection : Selection)
    (r : GroupReport) : Prop where
  merged : r.isMerged
  key : r.key = g.key
  members : r.members = g.ids
  keep : r.keep = some selection.keep.id
  losers : r.losers = selection.loserIds
  counted : Counted s g t (.ok r.counts)
  selected : select s.policy g.members r.counts = some selection
  repointed : s.dependents.Nodup → ∀ d ∈ s.dependents,
    r.repointed.lookup d.table = some (cellsIn s.dependents t r.losers d.table)
  /-- The losers are deleted whose delete is not refused. -/
  deleted : ∀ id, id ∈ r.deleted ↔ id ∈ r.losers ∧ (s.entity.table, id) ∉ t.failingDeletes
  failed : r.failed.map (·.1) = r.losers.filter fun l => (s.entity.table, l) ∈ t.failingDeletes

theorem MergedReport.members_perm {selection : Selection} (hr : MergedReport s g t selection r) :
    r.members.Perm (selection.keep.id :: r.losers) := by
  rw [hr.members, hr.losers]
  exact select_ids_perm hr.selected

/-- What a report tells of its group: its references could not be counted, or it was merged. -/
inductive ReportOf (s : Settings) (g : DuplicateGroup) (t : Tables) : GroupReport → Prop where
  | skipped {reason : String} (hneeds : s.policy.needsCounts = true)
      (hfails : CountFails s t g.ids) :
      ReportOf s g t { g.started with status := .notReconciled reason }
  | merged {selection : Selection} {r : GroupReport} (hr : MergedReport s g t selection r) :
      ReportOf s g t r

namespace ReportOf

theorem key_members (hr : ReportOf s g t r) : r.key = g.key ∧ r.members = g.ids := by
  cases hr with
  | skipped _ _ => exact ⟨rfl, rfl⟩
  | merged hr => exact ⟨hr.key, hr.members⟩

/-- References are led from a loser to the entity that is kept, both of the group. -/
theorem lead_mem (hr : ReportOf s g t r) {id keep : String} (hlead : r.lead id = some keep) :
    id ∈ g.ids ∧ keep ∈ g.ids := by
  obtain ⟨hmerged, hid, hkeep⟩ := lead_eq_some hlead
  cases hr with
  | skipped _ _ => cases hmerged
  | merged hr =>
    have hmem := fun id => hr.members_perm.mem_iff (a := id)
    rw [hr.members] at hmem
    rw [hr.keep] at hkeep
    cases hkeep
    exact ⟨(hmem id).mpr (List.mem_cons_of_mem _ hid), (hmem _).mpr List.mem_cons_self⟩

theorem lead_settled (hr : ReportOf s g t r) (hids : g.ids.Nodup) : r.lead.Settled := by
  intro id keep hlead
  obtain ⟨hmerged, -, hkeep⟩ := lead_eq_some hlead
  cases hr with
  | skipped _ _ => cases hmerged
  | merged hr =>
    rw [hr.keep] at hkeep
    cases hkeep
    refine if_neg fun hloser => ?_
    rw [hr.losers] at hloser
    exact keep_not_mem_loserIds hr.selected hids hloser.2

end ReportOf

/-! ## One group -/

/-- Writing an entry of the journal leaves the tables as they are. -/
theorem truthful_notes {a : Action} (ha : a.Notes) {x : Action.interface.Answer a}
    (he : Tables.truthful a t x t') : t' = t := by
  rcases ha with rfl | ⟨path, entry, rfl⟩ <;> exact he

/-- What a plan comes to on tables in memory: the references to the losers are moved, and then the
losers are deleted whose delete is not refused. -/
structure PlanDone (s : Settings) (selection : Selection) (t t' : Tables)
    (outcome : GroupReport × Bool) : Prop where
  steps : ∃ u, LedElsewhere (Target.gather selection.loserIds selection.keep.id) s.dependents t u ∧
    Purged s.entity (selection.loserIds.filter fun l => (s.entity.table, l) ∉ t.failingDeletes) u t'
  lasting : outcome.2 = false
  status : outcome.1.status =
    if outcome.1.failed.isEmpty then .reconciled else .notFullyCleaned
  repointed : s.dependents.Nodup → ∀ d ∈ s.dependents, outcome.1.repointed.lookup d.table =
    some (cellsIn s.dependents t selection.loserIds d.table)
  deleted : ∀ id, id ∈ outcome.1.deleted ↔
    id ∈ selection.loserIds ∧ (s.entity.table, id) ∉ t.failingDeletes
  failed : outcome.1.failed.map (·.1) =
    selection.loserIds.filter fun l => (s.entity.table, l) ∈ t.failingDeletes

/-- Tables in memory make no merge in one transaction, and no move in them fails. -/
theorem truthful_planned (hp : Present s t) {selection : Selection} {report : GroupReport}
    (hkeep : selection.keep.id ∉ selection.loserIds) {outcome : GroupReport × Bool}
    (hc : PlannedCourse s (s.plan g.key selection) report h outcome)
    (hf : Tables.truthful.Follows t h t') : PlanDone s selection t t' outcome := by
  have hmerge : ∀ {merging u reply},
      (Run.merge s.retry (s.plan g.key selection)).Yields merging reply →
      Tables.truthful.Follows t merging u → reply = .ok none ∧ u = t := by
    intro merging u reply hmerging hf
    obtain ⟨hreply, hu, -⟩ := truthful_calling hmerging hf
    exact ⟨hreply, hu⟩
  cases hc with
  | failed hmerging => cases (hmerge hmerging hf).1
  | merged hmerging => cases (hmerge hmerging hf).1
  | stepwise hmerging hsteps =>
    obtain ⟨u, hf, hf'⟩ := follows_append.mp hf
    obtain ⟨-, rfl⟩ := hmerge hmerging hf
    cases hsteps with
    | stuck hmoves =>
      obtain ⟨-, tally, hok, -⟩ := truthful_repointFrom hkeep hp.dependents hmoves hf'
      cases hok
    | @purged moves deletes moved outcome hmoves hdeletes =>
      obtain ⟨v, hmoving, hdeleting⟩ := follows_append.mp hf'
      obtain ⟨hled, tally, hok, hkeys, hsums⟩ :=
        truthful_repointFrom hkeep hp.dependents hmoves hmoving
      cases hok
      obtain ⟨hpurged, hgone, hfailed⟩ :=
        truthful_purgeFrom (hp.alike hled.alike).entity hdeletes hdeleting
      rw [hled.alike.failingDeletes] at hpurged hgone hfailed
      refine { steps := ⟨v, hled, hpurged⟩, lasting := rfl, status := rfl, repointed := ?_,
               deleted := fun id => (hgone id).trans (by simp [Settings.plan]), failed := hfailed }
      intro hnodup d hd
      have hsome : (moved.lookup d.table).isSome := (hkeys _).mpr (.inr ⟨d, hd, rfl⟩)
      obtain ⟨n, hn⟩ := Option.isSome_iff_exists.mp hsome
      have hsum := hsums hnodup d.table
      rw [Tally.get, hn, Tally.get, List.lookup_nil, Option.getD_none, Nat.zero_add] at hsum
      exact hn.trans (congrArg some hsum)

/-- What becomes of a group on tables in memory, with the tables afterwards. -/
inductive MemoryGroup (s : Settings) (g : DuplicateGroup) (t : Tables) :
    Transcript → Except Stop (GroupReport × Bool) → Tables → Prop where
  | uncounted {h : Transcript} {failure : CountFailure}
      (hcounted : Counted s g t (.error failure)) :
      MemoryGroup s g t h
        (.ok (g.started.unreconciled failure.message failure.failure.isRetryable)) t
  | previewed {h : Transcript} {counts : List RefCount} {selection : Selection}
      (hcounted : Counted s g t (.ok counts))
      (hselect : select s.policy g.members counts = some selection) (hdry : s.dryRun = true) :
      MemoryGroup s g t h (.ok ({ g.selected selection counts with status := .dryRun }, false)) t
  | unwritten {h : Transcript} {e : FileError} (hwet : s.dryRun = false) (hlost : EntryLost h) :
      MemoryGroup s g t h (.error (journalTrouble "writing" s e)) t
  | planned {h : Transcript} {counts : List RefCount} {selection : Selection}
      {outcome : GroupReport × Bool} {t' : Tables} (hcounted : Counted s g t (.ok counts))
      (hselect : select s.policy g.members counts = some selection) (hwet : s.dryRun = false)
      (hpreview : outcome.1.preview = (g.selected selection counts).preview)
      (hdone : PlanDone s selection t t' outcome) : MemoryGroup s g t h (.ok outcome) t'

theorem truthful_memoryGroup (hp : Present s t) (hids : g.ids.Nodup) (hmembers : g.members ≠ [])
    {outcome : Except Stop (GroupReport × Bool)} (hy : (mergeGroup s run g).Yields h outcome)
    (hf : Tables.truthful.Follows t h t') : MemoryGroup s g t h outcome t' := by
  cases yields_mergeGroup hy with
  | uncounted hcounting =>
    obtain ⟨rfl, hcounted⟩ := truthful_countsFor hp hcounting hf
    exact .uncounted hcounted
  | @empty _ counts _ hselect =>
    obtain ⟨selection, hsome⟩ := exists_select s.policy counts hmembers
    cases hselect.symm.trans hsome
  | previewed hcounting hselect hdry =>
    obtain ⟨rfl, hcounted⟩ := truthful_countsFor hp hcounting hf
    exact .previewed hcounted hselect hdry
  | unwritten hcounting _ hwet hwriting =>
    obtain ⟨u, hcounts, hwrites⟩ := follows_append.mp hf
    obtain ⟨rfl, -⟩ := truthful_countsFor hp hcounting hcounts
    have hnotes := (only_writeJournal _ _ _ _).yields hwriting
    obtain rfl := hwrites.unchanged fun e he _ _ => truthful_notes (hnotes e he)
    have hlost := entryLost_of_writeJournal hwriting
    exact .unwritten hwet (hlost.mono (List.subset_append_right _ _))
  | planned hcounting hselect hwet hwriting hrest =>
    obtain ⟨u, hcounts, hwritten⟩ := follows_append.mp hf
    obtain ⟨rfl, hcounted⟩ := truthful_countsFor hp hcounting hcounts
    obtain ⟨v, hwrites, hplanned⟩ := follows_append.mp hwritten
    have hnotes := (only_writeJournal _ _ _ _).yields hwriting
    obtain rfl := hwrites.unchanged fun e he _ _ => truthful_notes (hnotes e he)
    exact .planned hcounted hselect hwet hrest.preview
      (truthful_planned hp (keep_not_mem_loserIds hselect hids) hrest hplanned)

/-- A group whose survivor is chosen has its references moved and its losers deleted. -/
theorem PlanDone.reportOf (hs : ∀ d ∈ s.dependents, d.table ≠ s.entity.table)
    {selection : Selection} {counts : List RefCount} {outcome : GroupReport × Bool}
    (hdone : PlanDone s selection t t' outcome) (hcounted : Counted s g t (.ok counts))
    (hselect : select s.policy g.members counts = some selection)
    (hpreview : outcome.1.preview = (g.selected selection counts).preview) :
    ReportOf s g t outcome.1 ∧ TablesAfter s [outcome.1] t t' := by
  have hkeep : outcome.1.keep = some selection.keep.id := congrArg GroupPreview.keep hpreview
  have hlosers : outcome.1.losers = selection.loserIds := congrArg GroupPreview.losers hpreview
  have hcounts : outcome.1.counts = counts := congrArg GroupPreview.counts hpreview
  have hmerged : outcome.1.isMerged = true := by
    rw [GroupReport.isMerged, hdone.status]
    split <;> rfl
  constructor
  · refine @ReportOf.merged _ _ _ selection _ ?_
    exact { merged := hmerged, key := congrArg GroupPreview.key hpreview,
            members := congrArg GroupPreview.members hpreview, keep := hkeep, losers := hlosers,
            counted := hcounts ▸ hcounted, selected := hcounts ▸ hselect,
            repointed := hlosers ▸ hdone.repointed, deleted := hlosers ▸ hdone.deleted,
            failed := hlosers ▸ hdone.failed }
  · obtain ⟨u, hled, hpurged⟩ := hdone.steps
    refine .of_steps hs ?_ hpurged fun id => ?_
    · have hlead : outcome.1.lead = Target.gather selection.loserIds selection.keep.id := by
        funext id
        rw [GroupReport.lead, hmerged, hkeep, hlosers]
        simp [Target.gather]
      rw [hlead]
      exact hled
    · rw [List.mem_filter, decide_eq_true_iff]
      exact hdone.deleted id

/-- What the report of a group tells on tables in memory. -/
theorem MemoryGroup.reportOf (hs : ∀ d ∈ s.dependents, d.table ≠ s.entity.table)
    (hwet : s.dryRun = false) {transient : Bool}
    (hm : MemoryGroup s g t h (.ok (r, transient)) t') :
    ReportOf s g t r ∧ TablesAfter s [r] t t' := by
  cases hm with
  | uncounted hcounted =>
    cases hcounted with
    | failed hneeds hfails _ =>
      refine ⟨.skipped hneeds hfails, .unchanged ?_ fun id => ?_⟩
      · simp [DuplicateGroup.started]
      · rw [leadOf_singleton]
        exact if_neg fun hmerged => Bool.false_ne_true hmerged.1
  | previewed _ _ hdry => cases hwet.symm.trans hdry
  | planned hcounted hselect _ hpreview hdone =>
    exact hdone.reportOf hs hcounted hselect hpreview

/-! ## All groups -/

/-- The references to entities that no report moves are the same in number. -/
theorem TablesAfter.cells_of_untouched (h : TablesAfter s reports t t')
    (hsettled : (leadOf reports).Settled) {d : Dependent} (hd : d ∈ s.dependents)
    (hforeign : d.table ≠ s.entity.table) {ids : List String}
    (hids : ∀ id keep, leadOf reports id = some keep → id ∉ ids ∧ keep ∉ ids) :
    t'.cells d ids = t.cells d ids := by
  refine h.cells hsettled hd hforeign fun id => ?_
  cases hlead : leadOf reports id with
  | none => rw [Target.apply_of_none hlead]
  | some keep =>
    rw [Target.apply_of_some hlead]
    have hout := hids id keep hlead
    exact ⟨fun hmem => absurd hmem hout.2, fun hmem => absurd hmem hout.1⟩

/-- Merging a group leaves the references to the members of other groups. -/
theorem TablesAfter.cells_of_disjoint (h : TablesAfter s [r] t t') (hreport : ReportOf s g t r)
    (hids : g.ids.Nodup) {d : Dependent} (hd : d ∈ s.dependents)
    (hforeign : d.table ≠ s.entity.table) {ids : List String} (hother : List.Disjoint g.ids ids) :
    t'.cells d ids = t.cells d ids := by
  have hsettled := hreport.lead_settled hids
  rw [← leadOf_singleton] at hsettled
  refine h.cells_of_untouched hsettled hd hforeign fun id keep hlead => ?_
  rw [leadOf_singleton] at hlead
  obtain ⟨hid, hkeep⟩ := hreport.lead_mem hlead
  exact ⟨fun hmem => hother hid hmem, fun hmem => hother hkeep hmem⟩

theorem references_eq_cells (t : Tables) (d : Dependent) (id : String) :
    t.references d id = t.cells d [id] := by
  simp [Tables.references, Tables.cells]

theorem CountFails.alike {ids : List String} (ha : Tables.Alike t t') :
    CountFails s t' ids ↔ CountFails s t ids := by
  rw [CountFails, ha.failingCounts, CountFails]

theorem Counted.transfer (ha : Tables.Alike t t')
    (hcells : ∀ d ∈ s.dependents, ∀ ids ⊆ g.ids, t'.cells d ids = t.cells d ids)
    {result : Except CountFailure (List RefCount)} (hc : Counted s g t' result) :
    Counted s g t result := by
  have hreferences : ∀ d ∈ s.dependents, ∀ id ∈ g.ids, t'.references d id = t.references d id := by
    intro d hd id hid
    rw [references_eq_cells, references_eq_cells, hcells d hd [id] (by simpa using hid)]
  cases hc with
  | needless hneeds => exact .needless hneeds
  | failed hneeds hfails htransient =>
    exact .failed hneeds ((CountFails.alike ha).mp hfails) htransient
  | @told counts hneeds hfine hcounts =>
    refine .told hneeds (fun hfails => hfine ((CountFails.alike ha).mpr hfails)) ?_
    have hmem : ∀ c ∈ counts, c.id ∈ g.ids := by
      intro c hc
      rw [← hcounts.ids]
      exact List.mem_map_of_mem hc
    refine { ids := hcounts.ids, total := fun c hc => ?_, perTable := fun c hc table => ?_,
             keys := hcounts.keys }
    · rw [hcounts.total c hc, Settings.referencesTo, Settings.referencesTo]
      exact congrArg List.sum (List.map_congr_left fun d hd => hreferences d hd _ (hmem c hc))
    · rw [hcounts.perTable c hc, Settings.referencesIn, Settings.referencesIn]
      refine congrArg List.sum (List.map_congr_left fun d hd => ?_)
      exact hreferences d (List.mem_of_mem_filter hd) _ (hmem c hc)

/-- What a report tells of its group holds at tables that are the same for the group. -/
theorem ReportOf.transfer (ha : Tables.Alike t t')
    (hcells : ∀ d ∈ s.dependents, ∀ ids ⊆ g.ids, t'.cells d ids = t.cells d ids)
    (hr : ReportOf s g t' r) : ReportOf s g t r := by
  cases hr with
  | skipped hneeds hfails => exact .skipped hneeds ((CountFails.alike ha).mp hfails)
  | @merged selection _ hr =>
    refine .merged { hr with counted := hr.counted.transfer ha hcells, repointed := ?_,
                             deleted := ha.failingDeletes ▸ hr.deleted,
                             failed := ha.failingDeletes ▸ hr.failed }
    intro hnodup d hd
    rw [hr.repointed hnodup d hd, cellsIn, cellsIn]
    refine congrArg (fun ns : List Nat => some ns.sum) (List.map_congr_left fun d' hd' => ?_)
    refine hcells d' (List.mem_of_mem_filter hd') _ fun id hid => ?_
    rw [← hr.members]
    exact hr.members_perm.mem_iff.mpr (List.mem_cons_of_mem _ hid)

/-- A lead is that of one of the reports. -/
theorem leadOf_eq_some {id keep : String} (hlead : leadOf reports id = some keep) :
    ∃ r ∈ reports, r.lead id = some keep :=
  List.exists_of_findSome?_eq_some hlead

theorem exists_of_forall₂ {α β : Type} {R : α → β → Prop} {xs : List α} {ys : List β}
    (h : List.Forall₂ R xs ys) {y : β} (hy : y ∈ ys) : ∃ x ∈ xs, R x y := by
  induction h with
  | nil => exact absurd hy List.not_mem_nil
  | cons hxy _ ih =>
    rcases List.mem_cons.mp hy with rfl | hy
    · exact ⟨_, List.mem_cons_self, hxy⟩
    · obtain ⟨x, hx, hR⟩ := ih hy
      exact ⟨x, List.mem_cons_of_mem _ hx, hR⟩

theorem forall₂_mono_of_mem {α β : Type} {R R' : α → β → Prop} {xs : List α} {ys : List β}
    (h : List.Forall₂ R xs ys) (himp : ∀ x ∈ xs, ∀ y, R x y → R' x y) : List.Forall₂ R' xs ys := by
  induction h with
  | nil => exact .nil
  | cons hxy _ ih =>
    rw [List.forall_mem_cons] at himp
    exact .cons (himp.1 _ hxy) (ih himp.2)

/-- What some groups leave: tables that have changed as their reports tell. -/
theorem truthful_groups (hs : ∀ d ∈ s.dependents, d.table ≠ s.entity.table)
    (hwet : s.dryRun = false) (hp : Present s t) {groups : List DuplicateGroup}
    (hc : GroupsReported s run groups h reports) (hids : (groups.flatMap (·.ids)).Nodup)
    (hmembers : ∀ g ∈ groups, g.members ≠ []) (hf : Tables.truthful.Follows t h t') :
    TablesAfter s reports t t' ∧ List.Forall₂ (fun g r => ReportOf s g t r) groups reports := by
  induction hc generalizing t with
  | nil =>
    obtain rfl := hf
    exact ⟨.unchanged (by simp) fun id => rfl, .nil⟩
  | @cons g groups h₁ h₂ r transient reports hfirst _ ih =>
    obtain ⟨u, hf, hf'⟩ := follows_append.mp hf
    rw [List.flatMap_cons, List.nodup_append'] at hids
    obtain ⟨hgroup, hrest, hdisjoint⟩ := hids
    rw [List.forall_mem_cons] at hmembers
    obtain ⟨hreport, hafter⟩ :=
      (truthful_memoryGroup hp hgroup hmembers.1 hfirst hf).reportOf hs hwet
    obtain ⟨hafter', hreports⟩ := ih (hp.alike hafter.alike) hrest hmembers.2 hf'
    have hrestLead : ∀ id keep, leadOf reports id = some keep →
        id ∈ groups.flatMap (·.ids) ∧ keep ∈ groups.flatMap (·.ids) := by
      intro id keep hlead
      obtain ⟨r', hr', hlead⟩ := leadOf_eq_some hlead
      obtain ⟨g', hg', hreport'⟩ := exists_of_forall₂ hreports hr'
      obtain ⟨hid, hkeep⟩ := hreport'.lead_mem hlead
      exact ⟨List.mem_flatMap.mpr ⟨g', hg', hid⟩, List.mem_flatMap.mpr ⟨g', hg', hkeep⟩⟩
    -- The ids of this group are in no other one.
    have hapart : Target.Apart r.lead (leadOf reports) :=
      .of_disjoint (fun _ _ => hreport.lead_mem) hrestLead hdisjoint
    -- What the later reports tell is taken back to the start, where their cells were the same.
    refine ⟨hafter.cons hafter' hapart, .cons hreport (forall₂_mono_of_mem hreports ?_)⟩
    intro g' hg' r' hreport'
    refine hreport'.transfer hafter.alike fun d hd ids hsub => ?_
    refine hafter.cells_of_disjoint hreport hgroup hd (hs d hd) fun id hid hmem => ?_
    exact hdisjoint hid (List.mem_flatMap.mpr ⟨g', hg', hsub hmem⟩)

/-! ## Reports of different groups -/

/-- Lists that have nothing in common are those of one item if they share a member. -/
theorem eq_of_mem_of_nodup_flatMap {α β : Type} {f : α → List β} {xs : List α}
    (h : (xs.flatMap f).Nodup) {a b : α} (ha : a ∈ xs) (hb : b ∈ xs) {x : β} (hxa : x ∈ f a)
    (hxb : x ∈ f b) : a = b := by
  by_contra hne
  have hsymm : Std.Symm (Function.onFun List.Disjoint f) :=
    ⟨fun _ _ hdisjoint _ hy hx => hdisjoint hx hy⟩
  exact (List.nodup_flatMap.mp h).2.forall ha hb hne hxa hxb

theorem flatMap_members {groups : List DuplicateGroup}
    (h : List.Forall₂ (fun g r => GroupReport.members r = g.ids) groups reports) :
    reports.flatMap (·.members) = groups.flatMap (·.ids) := by
  induction h with
  | nil => rfl
  | cons hr _ ih => rw [List.flatMap_cons, List.flatMap_cons, ih, hr]

/-- Reports of groups that have no id in common. -/
structure ReportsApart (reports : List GroupReport) : Prop where
  members : (reports.flatMap (·.members)).Nodup
  /-- References are led within a group, and not any further. -/
  lead : ∀ r ∈ reports, ∀ id keep, r.lead id = some keep →
    id ∈ r.members ∧ keep ∈ r.members ∧ r.lead keep = none

namespace ReportsApart

theorem of_groups {groups : List DuplicateGroup} (hids : (groups.flatMap (·.ids)).Nodup)
    (hreports : List.Forall₂ (fun g r => ReportOf s g t r) groups reports) :
    ReportsApart reports where
  members := by
    rw [flatMap_members (hreports.imp fun _ _ hr => hr.key_members.2)]
    exact hids
  lead r hr id keep hlead := by
    obtain ⟨g, hg, hreport⟩ := exists_of_forall₂ hreports hr
    have hgroup : g.ids.Nodup := (List.nodup_flatMap.mp hids).1 g hg
    obtain ⟨hid, hkeep⟩ := hreport.lead_mem hlead
    rw [hreport.key_members.2]
    exact ⟨hid, hkeep, hreport.lead_settled hgroup id keep hlead⟩

theorem unique (ha : ReportsApart reports) {r' : GroupReport} (hr : r ∈ reports)
    (hr' : r' ∈ reports) {id : String} (hid : id ∈ r.members) (hid' : id ∈ r'.members) : r = r' :=
  eq_of_mem_of_nodup_flatMap ha.members hr hr' hid hid'

/-- The references to the losers of a group lead where its own report says. -/
theorem leadOf_eq (ha : ReportsApart reports) (hr : r ∈ reports) {id : String}
    (hid : id ∈ r.members) : leadOf reports id = r.lead id := by
  cases hlead : leadOf reports id with
  | some keep =>
    obtain ⟨r', hr', hlead'⟩ := leadOf_eq_some hlead
    rw [ha.unique hr hr' hid (ha.lead r' hr' id keep hlead').1, hlead']
  | none => exact (List.findSome?_eq_none_iff.mp hlead r hr).symm

theorem settled (ha : ReportsApart reports) : (leadOf reports).Settled := by
  intro id keep hlead
  obtain ⟨r, hr, hlead⟩ := leadOf_eq_some hlead
  obtain ⟨-, hkeep, hnone⟩ := ha.lead r hr id keep hlead
  rw [ha.leadOf_eq hr hkeep, hnone]

/-- What leads to a member of a group is a member itself. -/
theorem mem_of_apply (ha : ReportsApart reports) (hr : r ∈ reports) {id : String}
    (hid : (leadOf reports).apply id ∈ r.members) : id ∈ r.members := by
  cases hlead : leadOf reports id with
  | none => rwa [Target.apply_of_none hlead] at hid
  | some keep =>
    rw [Target.apply_of_some hlead] at hid
    obtain ⟨r', hr', hlead⟩ := leadOf_eq_some hlead
    obtain ⟨hid', hkeep, -⟩ := ha.lead r' hr' id keep hlead
    rwa [ha.unique hr hr' hid hkeep]

end ReportsApart

/-! ## References afterwards -/

section Afterwards

variable {keep : String} (ha : ReportsApart reports) (hr : r ∈ reports) (hmerged : r.isMerged)
  (hkeep : r.keep = some keep) (hperm : r.members.Perm (keep :: r.losers))

include ha hr hmerged hkeep hperm

/-- It is the members of a merged group that lead to the entity that it keeps. -/
theorem apply_leadOf_eq_iff {id : String} :
    (leadOf reports).apply id = keep ↔ id ∈ r.members := by
  have hmember : keep ∈ r.members := hperm.mem_iff.mpr List.mem_cons_self
  constructor
  · rintro rfl
    exact ha.mem_of_apply hr hmember
  · intro hid
    have hlead : leadOf reports id = if id ∈ r.losers then some keep else none := by
      rw [ha.leadOf_eq hr hid, GroupReport.lead, hkeep]
      simp only [hmerged, true_and]
    by_cases hloser : id ∈ r.losers
    · exact Target.apply_of_some (hlead.trans (if_pos hloser))
    · rw [Target.apply_of_none (hlead.trans (if_neg hloser))]
      exact (List.mem_cons.mp (hperm.mem_iff.mp hid)).resolve_right hloser

/-- No reference to a loser is left. -/
theorem TablesAfter.references_loser (h : TablesAfter s reports t t')
    (hs : ∀ d ∈ s.dependents, d.table ≠ s.entity.table) {d : Dependent} (hd : d ∈ s.dependents)
    {l : String} (hl : l ∈ r.losers) : t'.references d l = 0 := by
  have hids : r.members.Nodup := (List.nodup_flatMap.mp ha.members).1 r hr
  have hne : keep ≠ l := by
    rintro rfl
    exact (List.nodup_cons.mp (hperm.nodup_iff.mp hids)).1 hl
  have hcells : t'.cells d [l] = t.cells d [] := by
    refine h.cells ha.settled hd (hs d hd) fun id => ?_
    rw [List.mem_singleton, iff_false_right List.not_mem_nil]
    intro happly
    have hl' : (leadOf reports).apply id ∈ r.members :=
      happly ▸ hperm.mem_iff.mpr (List.mem_cons_of_mem _ hl)
    have hid := ha.mem_of_apply hr hl'
    exact hne (((apply_leadOf_eq_iff ha hr hmerged hkeep hperm).mpr hid).symm.trans happly)
  rw [references_eq_cells, hcells, Tables.cells]
  simp

/-- The references to the entity that is kept are those that were to the members. -/
theorem TablesAfter.references_keep (h : TablesAfter s reports t t')
    (hs : ∀ d ∈ s.dependents, d.table ≠ s.entity.table) {d : Dependent} (hd : d ∈ s.dependents) :
    t'.references d keep = (r.members.map (t.references d)).sum := by
  have hids : r.members.Nodup := (List.nodup_flatMap.mp ha.members).1 r hr
  rw [references_eq_cells, ← Tables.cells_eq_sum hids]
  refine h.cells ha.settled hd (hs d hd) fun id => ?_
  rw [List.mem_singleton]
  exact apply_leadOf_eq_iff ha hr hmerged hkeep hperm

theorem TablesAfter.referencesTo_loser (h : TablesAfter s reports t t')
    (hs : ∀ d ∈ s.dependents, d.table ≠ s.entity.table) {l : String} (hl : l ∈ r.losers) :
    s.referencesTo t' l = 0 := by
  refine List.sum_eq_zero fun n hn => ?_
  obtain ⟨d, hd, rfl⟩ := List.mem_map.mp hn
  exact h.references_loser ha hr hmerged hkeep hperm hs hd hl

theorem TablesAfter.referencesTo_keep (h : TablesAfter s reports t t')
    (hs : ∀ d ∈ s.dependents, d.table ≠ s.entity.table) :
    s.referencesTo t' keep = (r.members.map (s.referencesTo t)).sum := by
  have hsum : s.referencesTo t' keep =
      (s.dependents.map fun d => (r.members.map (t.references d)).sum).sum :=
    congrArg List.sum (List.map_congr_left fun d hd =>
      h.references_keep ha hr hmerged hkeep hperm hs hd)
  rw [hsum, sum_map_sum_comm]
  rfl

end Afterwards

/-! ## A whole run -/

/-- The groups of a table have no id in common. -/
theorem candidates_ids_nodup (hdistinct : DistinctIds s t) :
    ((Grouping.build s.normalizer (s.entities t)).candidates.flatMap (·.ids)).Nodup := by
  refine List.nodup_flatMap.mpr ⟨fun g hg => (candidates_resolve hdistinct hg).2.1, ?_⟩
  have hkeys := Grouping.candidates_keys_nodup s.normalizer (s.entities t)
  rw [List.Nodup, List.pairwise_map] at hkeys
  refine hkeys.imp_of_mem fun {g g'} hg hg' hne id hid hid' => hne ?_
  exact hdistinct.key_unique ((candidates_resolve hdistinct hg).2.2 id hid)
    ((candidates_resolve hdistinct hg').2.2 id hid')

/-- What a run with a result has done to the tables, group by group. -/
theorem truthful_mergeAll {backend : String} {summary : Summary}
    (hs : ∀ d ∈ s.dependents, d.table ≠ s.entity.table) (hwet : s.dryRun = false)
    (hdistinct : DistinctIds s t) (hy : (mergeAll s backend run).Yields h (.ok summary))
    (hf : Tables.truthful.Follows t h t') :
    Present s t ∧ TablesAfter s summary.groups t t' ∧
      List.Forall₂ (fun g r => ReportOf s g t r)
        (Grouping.build s.normalizer (s.entities t)).candidates summary.groups := by
  generalize hend : (Except.ok summary : Except Stop Summary) = result at hy
  cases truthful_memoryExit (foreign_of_elsewhere hs) hy hf with
  | unready => cases hend
  | refused => cases hend
  | @merged opening merging closing groups _ hready hgroups hmerging =>
    cases groups with
    | error stop => cases hend
    | ok reports =>
      cases hend
      have hp := Present.of_readiness hready
      obtain ⟨later, rfl, hreported⟩ := hgroups.all
      exact ⟨hp, truthful_groups hs hwet hp hreported (candidates_ids_nodup hdistinct)
        (fun g hg => Grouping.members_ne_nil hg) hmerging⟩

end RegistryDedup
