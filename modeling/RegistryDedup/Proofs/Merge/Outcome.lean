import RegistryDedup.Proofs.Merge.Settlement

/-!
# What a run means

The moves and deletes of a run are made one at a time. What they come to can be read off the report
of the run: its tables afterwards are those at its start with one substitution made in the columns
that hold references, and without the entities that the report gives as deleted.

- `ReconciledGroup`: what the report of a merged group tells of the tables before and after a run.
- `ReconciledTables`: what all reports of a run tell of them.
- `mergeAll_reconciles`: a run with a result leaves its tables as its reports tell.
-/

namespace RegistryDedup

open Interface.Environment

variable {s : Settings} {run : String} {g : DuplicateGroup} {r : GroupReport}
  {reports : List GroupReport} {h : Transcript} {t t' : Tables}

/-! ## Counts and moves -/

/-- The counts of the losers of a group add up, table by table, to the cells that refer to them. -/
theorem CountsOf.sum_losers {ids losers : List String} {counts : List RefCount} {keep : String}
    (hc : CountsOf s t ids counts) (hperm : ids.Perm (keep :: losers))
    (hnodup : (keep :: losers).Nodup) (table : String) :
    ((counts.filter (·.id ∈ losers)).map (·.perTable.get table)).sum =
      cellsIn s.dependents t losers table := by
  obtain ⟨hkeep, hlosers⟩ := List.nodup_cons.mp hnodup
  -- The order of the losers need not be that of the counts.
  have hids : ((counts.filter (·.id ∈ losers)).map (·.id)).Perm losers := by
    have hfilter : (counts.filter (·.id ∈ losers)).map (·.id) = ids.filter (· ∈ losers) := by
      rw [← hc.ids, List.filter_map]
      rfl
    have hself : (keep :: losers).filter (· ∈ losers) = losers := by
      rw [List.filter_cons_of_neg (by simpa using hkeep), List.filter_eq_self]
      simp
    have hfiltered := hperm.filter fun id => decide (id ∈ losers)
    rwa [hself, ← hfilter] at hfiltered
  calc ((counts.filter (·.id ∈ losers)).map (·.perTable.get table)).sum
      = (((counts.filter (·.id ∈ losers)).map (·.id)).map (s.referencesIn t table)).sum := by
        rw [List.map_map]
        exact congrArg List.sum (List.map_congr_left fun c hmem =>
          hc.perTable c (List.mem_of_mem_filter hmem) table)
    _ = (losers.map (s.referencesIn t table)).sum := (hids.map _).sum_eq
    _ = cellsIn s.dependents t losers table := by
        rw [cellsIn]
        simp only [Tables.cells_eq_sum hlosers]
        exact sum_map_sum_comm (fun l d => t.references d l) losers _

/-! ## What reports tell -/

/-- What the report of a merged group tells of the tables before and after a run. -/
structure ReconciledGroup (s : Settings) (t t' : Tables) (reports : List GroupReport)
    (r : GroupReport) (kept : String) : Prop where
  keep : r.keep = some kept
  members : r.members.Perm (kept :: r.losers)
  /-- Each reference to a loser leads to the entity that is kept. -/
  led : ∀ l ∈ r.losers, leadOf reports l = some kept
  /-- The losers are deleted whose delete is not refused. -/
  deleted : ∀ id, id ∈ r.deleted ↔ id ∈ r.losers ∧ (s.entity.table, id) ∉ t.failingDeletes
  failed : r.failed.map (·.1) = r.losers.filter fun l => (s.entity.table, l) ∈ t.failingDeletes
  /-- The number of moves in a table is that of the cells that referred to a loser. -/
  repointed : ∀ d ∈ s.dependents,
    r.repointed.lookup d.table = some (cellsIn s.dependents t r.losers d.table)
  /-- It is what was counted for the losers. -/
  counted : s.policy = .mostReferenced → r.counts.map (·.id) = r.members ∧
    ∀ d ∈ s.dependents, r.repointed.lookup d.table =
      some ((r.counts.filter (·.id ∈ r.losers)).map (·.perTable.get d.table)).sum
  freed : ∀ l ∈ r.losers, s.referencesTo t' l = 0
  gathered : s.referencesTo t' kept = (r.members.map (s.referencesTo t)).sum

/-- What the reports of a run tell of the tables before and after it. -/
structure ReconciledTables (s : Settings) (t t' : Tables) (reports : List GroupReport) : Prop where
  /-- There is a report for each key that more than one entity had. -/
  groups : List.Forall₂ (fun g r => r.key = g.key ∧ r.members = g.ids)
    (Grouping.build s.normalizer (s.entities t)).candidates reports
  tables : TablesAfter s reports t t'
  /-- Tables without references are as they were. -/
  unrelated : ∀ name, name ≠ s.entity.table → (∀ d ∈ s.dependents, d.table ≠ name) →
    t'.find? name = t.find? name
  /-- No other reference is led elsewhere than those to the losers of a merged group. -/
  led : ∀ id dest, leadOf reports id = some dest →
    ∃ r ∈ reports, r.isMerged ∧ id ∈ r.losers ∧ r.keep = some dest
  merged : ∀ r ∈ reports, r.isMerged → ∃ kept, ReconciledGroup s t t' reports r kept
  /-- A group is not merged only where its references could not be counted. -/
  unmerged : ∀ r ∈ reports, r.isMerged = false →
    r.deleted = [] ∧ s.policy.needsCounts = true ∧ CountFails s t r.members

theorem MergedReport.reconciled {selection : Selection} (hr : MergedReport s g t selection r)
    (hmem : r ∈ reports) (ha : ReportsApart reports) (hafter : TablesAfter s reports t t')
    (hs : ∀ d ∈ s.dependents, d.table ≠ s.entity.table) (honce : s.dependents.Nodup) :
    ReconciledGroup s t t' reports r selection.keep.id where
  keep := hr.keep
  members := hr.members_perm
  led l hl := by
    have hmember : l ∈ r.members := hr.members_perm.mem_iff.mpr (List.mem_cons_of_mem _ hl)
    rw [ha.leadOf_eq hmem hmember, GroupReport.lead, if_pos ⟨hr.merged, hl⟩, hr.keep]
  deleted := hr.deleted
  failed := hr.failed
  repointed := hr.repointed honce
  counted hpolicy := by
    have hnodup : r.members.Nodup := (List.nodup_flatMap.mp ha.members).1 r hmem
    have hcounts := hr.counted.countsOf (congrArg Policy.needsCounts hpolicy)
    rw [← hr.members] at hcounts
    refine ⟨hcounts.ids, fun d hd => ?_⟩
    rw [hr.repointed honce d hd]
    exact congrArg some (hcounts.sum_losers hr.members_perm
      (hr.members_perm.nodup_iff.mp hnodup) d.table).symm
  freed l hl := hafter.referencesTo_loser ha hmem hr.merged hr.keep hr.members_perm hs hl
  gathered := hafter.referencesTo_keep ha hmem hr.merged hr.keep hr.members_perm hs

/-- A run with a result leaves its tables as its reports tell, whatever counts fail and whatever
deletes are refused. -/
theorem mergeAll_reconciles {backend : String} {summary : Summary}
    (hs : ∀ d ∈ s.dependents, d.table ≠ s.entity.table) (honce : s.dependents.Nodup)
    (hwet : s.dryRun = false) (hdistinct : DistinctIds s t)
    (hy : (mergeAll s backend run).Yields h (.ok summary))
    (hf : Tables.truthful.Follows t h t') : ReconciledTables s t t' summary.groups := by
  obtain ⟨-, hafter, hreports⟩ := truthful_mergeAll hs hwet hdistinct hy hf
  have hapart := ReportsApart.of_groups (candidates_ids_nodup hdistinct) hreports
  refine { groups := hreports.imp fun _ _ hr => hr.key_members, tables := hafter,
           unrelated := ?_, led := ?_, merged := ?_, unmerged := ?_ }
  · intro name hname hnone
    rw [hafter.others name hname, columnsIn_eq_nil hnone]
    simp
  · intro id dest hlead
    obtain ⟨r, hr, hlead⟩ := leadOf_eq_some hlead
    exact ⟨r, hr, lead_eq_some hlead⟩
  · intro r hr hmerged
    obtain ⟨g, -, hreport⟩ := exists_of_forall₂ hreports hr
    cases hreport with
    | skipped => cases hmerged
    | @merged selection _ hreport =>
      exact ⟨selection.keep.id, hreport.reconciled hr hapart hafter hs honce⟩
  · intro r hr hunmerged
    obtain ⟨g, -, hreport⟩ := exists_of_forall₂ hreports hr
    cases hreport with
    | skipped hneeds hfails => exact ⟨rfl, hneeds, hfails⟩
    | merged hreport => cases hunmerged.symm.trans hreport.merged

namespace Sample

/-- The settings of before with the other policy. -/
def referenced : Settings :=
  { settings with policy := .mostReferenced }

/-- Three regions of one name, of which the last one cannot be deleted. -/
def refusing : Tables where
  clock := instant
  tables := [
    ("regions", {
      columns := ["id", "name"]
      rows := ["r1", "r2", "r3"].map fun id => [("id", .str id), ("name", .str "Foo")] }),
    ("projects", {
      columns := ["region_id"]
      rows := ["r2", "r3", "r2"].map fun id => [("region_id", .str id)] })]
  failingDeletes := [("regions", "r3")]

/-- What a run on some tables asks, up to its end. -/
def referencedTranscript (t : Tables) : Transcript :=
  (mergeAll referenced "memory" "run").transcript (World.answer Tables.store) (world t)

/-- The result of the run and the world afterwards. -/
def referencedEnd (t : Tables) : Except Stop Summary × World Tables :=
  World.perform Tables.store (mergeAll referenced "memory" "run") (world t)

/-- What the run reports of the three regions. -/
def refusedReport : GroupReport where
  key := "FOO"
  members := ["r1", "r2", "r3"]
  keep := some "r2"
  losers := ["r1", "r3"]
  counts := [⟨"r1", 0, [("projects", 0)]⟩, ⟨"r2", 2, [("projects", 2)]⟩,
    ⟨"r3", 1, [("projects", 1)]⟩]
  repointed := [("projects", 1)]
  deleted := ["r1"]
  failed := [("r3", (Failure.stillReferenced "regions" "id" "r3").message)]
  status := .notFullyCleaned

/-- The result of the run on the three regions. -/
def refusedSummary : Summary :=
  summarize referenced "memory" "run" 3 [refusedReport] [⟨"FOO", ["r2", "r3"]⟩]

theorem referenced_elsewhere :
    ∀ d ∈ referenced.dependents, d.table ≠ referenced.entity.table := by
  decide

theorem refusing_distinctIds : DistinctIds referenced refusing := by
  unfold DistinctIds
  decide

theorem referencedEnd_refusing : (referencedEnd refusing).1 = .ok refusedSummary := by
  decide +kernel

theorem yields_referenced :
    (mergeAll referenced "memory" "run").Yields (referencedTranscript refusing)
      (.ok refusedSummary) := by
  have hyields : (mergeAll referenced "memory" "run").Yields (referencedTranscript refusing)
      (referencedEnd refusing).1 := Program.yields_transcript _ _ _
  rwa [referencedEnd_refusing] at hyields

theorem follows_referenced (t : Tables) :
    Tables.truthful.Follows t (referencedTranscript t) (referencedEnd t).2.state :=
  Program.follows_transcript World.state truthful_answer _ (world t)

end Sample

/-- The project of the third region refers to the second one afterwards, and the third region is
still there. -/
theorem mergeAll_reconciles_sample :
    ((Sample.referencedEnd Sample.refusing).2.state.rows "regions").map (·.text? "id") =
      [some "r2", some "r3"] ∧
    ((Sample.referencedEnd Sample.refusing).2.state.rows "projects").map (·.text? "region_id") =
      [some "r2", some "r2", some "r2"] ∧
    ReconciledTables Sample.referenced Sample.refusing
      (Sample.referencedEnd Sample.refusing).2.state [Sample.refusedReport] := by
  refine ⟨by decide +kernel, by decide +kernel, ?_⟩
  exact mergeAll_reconciles Sample.referenced_elsewhere (by decide) rfl
    Sample.refusing_distinctIds Sample.yields_referenced (Sample.follows_referenced _)

end RegistryDedup
