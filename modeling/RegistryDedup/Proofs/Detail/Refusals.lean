import RegistryDedup.Proofs.Detail.Dedupe
import RegistryDedup.Proofs.Store.Purge

/-!
# Stale details whose delete is refused

A run by itself deletes every stale record, one at a time, unless the delete is refused. What is
left is as it was, and what a second run finds stale it is refused again.

- `DetailTable.Removable`: a row that such a run deletes.
- `truthful_dedupeDetails`: the report of a run, and the tables after it.
- `DetailTable.Deduped`: what the report says of the tables.
- `dedupeDetails_deduped`: a run, the next one, and a dry run in its place.
-/

namespace RegistryDedup

open Interface.Environment

variable {policy : RetryPolicy} {table : DetailTable} {h : Transcript} {t t' : Tables}
  {r : DetailRecord} {row : Row} {id : String}

/-! ## One run -/

namespace DetailTable

/-- The table as one whose rows are deleted by their ids. -/
abbrev asEntities (table : DetailTable) : EntityTable :=
  ⟨table.table, table.idColumn, table.ownerColumn, some table.createdColumn⟩

/-- A row with a stale record whose delete is not refused. -/
def Removable (table : DetailTable) (t : Tables) (row : Row) : Prop :=
  ∃ r ∈ row.detail? table, r.Stale (table.records t) ∧ (table.table, r.id) ∉ t.failingDeletes

instance (table : DetailTable) (t : Tables) (row : Row) : Decidable (table.Removable t row) :=
  inferInstanceAs (Decidable (∃ r ∈ row.detail? table, _))

/-- The ids of the stale records. -/
def stale (table : DetailTable) (t : Tables) : List String :=
  staleIds (duplicateDetails (table.records t))

/-- The stale records whose delete is not refused. -/
def removed (table : DetailTable) (t : Tables) : List String :=
  (table.stale t).filter fun id => (table.table, id) ∉ t.failingDeletes

/-- The stale records whose delete is refused. -/
def refused (table : DetailTable) (t : Tables) : List String :=
  (table.stale t).filter fun id => (table.table, id) ∈ t.failingDeletes

/-- Why a delete is refused. -/
def refusal (table : DetailTable) (id : String) : String :=
  (Failure.stillReferenced table.table table.idColumn id).message

end DetailTable

/-- All ids that are given are deleted, but those whose delete is refused. -/
theorem truthful_deleteStale {ids : List String} {report report' : DetailReport}
    (hu : (t.find? table.table).isSome)
    (hy : (deleteStale policy table ids report).Yields h report')
    (hf : Tables.truthful.Follows t h t') :
    Purged table.asEntities (ids.filter fun id => (table.table, id) ∉ t.failingDeletes) t t' ∧
      ((∀ id ∈ ids, (table.table, id) ∈ t.failingDeletes) → t' = t) ∧
      report' =
        { report with
          deleted := report.deleted ++ ids.filter fun id => (table.table, id) ∉ t.failingDeletes
          failed := report.failed ++ (ids.filter fun id =>
            (table.table, id) ∈ t.failingDeletes).map fun id => (id, table.refusal id) } := by
  induction ids generalizing h t report with
  | nil =>
    obtain ⟨rfl, rfl⟩ := hy
    obtain rfl := hf
    exact ⟨.nil, fun _ => rfl, by simp⟩
  | cons id ids ih =>
    rw [deleteStale, Program.bind_eq, Program.yields_bind] at hy
    obtain ⟨reply, h₁, h₂, rfl, hcall, hy⟩ := hy
    obtain ⟨u, hf, hf'⟩ := follows_append.mp hf
    have hdelete : if (table.table, id) ∈ t.failingDeletes then
          reply = .error (.stillReferenced table.table table.idColumn id) ∧ u = t
        else (∃ n, reply = .ok n) ∧ Purged table.asEntities [id] t u :=
      @truthful_deleteId _ _ _ _ table.asEntities _ _ hu hcall hf
    split at hdelete
    · next hfailing =>
      obtain ⟨rfl, rfl⟩ := hdelete
      obtain ⟨hpurged, hsame, hreport⟩ := ih hu hy hf'
      have hrecord : report.record id
          (.error (.stillReferenced table.table table.idColumn id)) =
            { report with failed := report.failed ++ [(id, table.refusal id)] } := rfl
      refine ⟨?_, fun hall => hsame (List.forall_mem_cons.mp hall).2, ?_⟩
      · simpa [hfailing] using hpurged
      · rw [hreport, hrecord]
        simp [hfailing]
    · next hallowed =>
      obtain ⟨⟨n, rfl⟩, hfirst⟩ := hdelete
      obtain ⟨hpurged, -, hreport⟩ := ih (hfirst.isSome hu) hy hf'
      rw [hfirst.alike.failingDeletes] at hpurged hreport
      refine ⟨?_, fun hall => absurd (List.forall_mem_cons.mp hall).1 hallowed, ?_⟩
      · have hboth := hfirst.append hpurged
        simpa [hallowed] using hboth
      · rw [hreport]
        simp [hallowed, DetailReport.record]

theorem truthful_fetchDetails {reply : Reply (List DetailRecord)}
    (hu : (t.find? table.table).isSome)
    (hy : (Run.fetchDetails policy table).Yields h reply) (hf : Tables.truthful.Follows t h t') :
    reply = .ok (table.records t) ∧ t' = t := by
  obtain ⟨hreply, ht, -⟩ := truthful_calling hy hf
  exact ⟨hreply.trans (fetchDetails_of_isSome hu), ht⟩

/-- The report of a run that is no dry run, and the tables after it. -/
theorem truthful_dedupeDetails {result : Reply DetailReport} (hu : (t.find? table.table).isSome)
    (hy : (dedupeDetails policy table false).Yields h result)
    (hf : Tables.truthful.Follows t h t') :
    Purged table.asEntities (table.removed t) t t' ∧
      ((∀ id ∈ table.stale t, (table.table, id) ∈ t.failingDeletes) → t' = t) ∧
      result = .ok
        { table := table.table
          dryRun := false
          scanned := (table.records t).length
          duplicates := duplicateDetails (table.records t)
          deleted := table.removed t
          failed := (table.refused t).map fun id => (id, table.refusal id)
          residualOwners := (duplicateDetails (table.records t')).map (·.owner) } := by
  rw [dedupeDetails, Program.bind_eq, Program.yields_bind] at hy
  obtain ⟨reply, h₁, h₂, rfl, hfetch, hy⟩ := hy
  obtain ⟨u, hf, hf'⟩ := follows_append.mp hf
  obtain ⟨rfl, rfl⟩ := truthful_fetchDetails hu hfetch hf
  dsimp only at hy
  split at hy
  · next hempty =>
    obtain ⟨rfl, rfl⟩ := hy
    obtain rfl := hf'
    have hnone : table.stale t' = [] := by
      rw [DetailTable.stale, List.isEmpty_iff.mp hempty]
      rfl
    rw [DetailTable.removed, DetailTable.refused, hnone, List.isEmpty_iff.mp hempty]
    exact ⟨.nil, fun _ => rfl, rfl⟩
  · rw [if_neg Bool.false_ne_true, Program.bind_eq, Program.yields_bind] at hy
    obtain ⟨report, h₃, h₄, rfl, hdelete, hy⟩ := hy
    obtain ⟨v, hf, hlast⟩ := follows_append.mp hf'
    obtain ⟨hpurged, hsame, hreport⟩ := truthful_deleteStale hu hdelete hf
    have hv : (v.find? table.table).isSome := hpurged.isSome hu
    rw [Program.bind_eq, Program.yields_bind] at hy
    obtain ⟨reply, h₅, h₆, rfl, hagain, hy⟩ := hy
    obtain ⟨w, hf, hend⟩ := follows_append.mp hlast
    obtain ⟨rfl, rfl⟩ := truthful_fetchDetails hv hagain hf
    obtain ⟨rfl, rfl⟩ := hy
    obtain rfl := hend
    refine ⟨hpurged, hsame, ?_⟩
    rw [hreport]
    rfl

/-- The report of a dry run, which changes nothing. -/
theorem truthful_dryRun {result : Reply DetailReport} (hu : (t.find? table.table).isSome)
    (hy : (dedupeDetails policy table true).Yields h result)
    (hf : Tables.truthful.Follows t h t') :
    t' = t ∧ result = .ok
      { table := table.table
        dryRun := true
        scanned := (table.records t).length
        duplicates := duplicateDetails (table.records t)
        residualOwners := (duplicateDetails (table.records t)).map (·.owner) } := by
  rw [dedupeDetails, Program.bind_eq, Program.yields_bind] at hy
  obtain ⟨reply, h₁, h₂, rfl, hfetch, hy⟩ := hy
  obtain ⟨u, hf, hf'⟩ := follows_append.mp hf
  obtain ⟨rfl, rfl⟩ := truthful_fetchDetails hu hfetch hf
  dsimp only at hy
  split at hy
  · next hempty =>
    obtain ⟨rfl, rfl⟩ := hy
    obtain rfl := hf'
    rw [List.isEmpty_iff.mp hempty]
    exact ⟨rfl, rfl⟩
  · obtain ⟨rfl, rfl⟩ := hy
    exact ⟨hf', rfl⟩

/-! ## What is left -/

section Purged

variable (hids : table.DistinctIds t) (hpurged : Purged table.asEntities (table.removed t) t t')

include hids

theorem mem_removed : id ∈ table.removed t ↔ ∃ r ∈ table.records t, r.Stale (table.records t) ∧
    r.id = id ∧ (table.table, id) ∉ t.failingDeletes := by
  rw [DetailTable.removed, List.mem_filter, DetailTable.stale, mem_staleIds hids.records,
    decide_eq_true_iff]
  constructor
  · rintro ⟨⟨r, hr, hstale, hid⟩, hallowed⟩
    exact ⟨r, hr, hstale, hid, hallowed⟩
  · rintro ⟨r, hr, hstale, hid, hallowed⟩
    exact ⟨⟨r, hr, hstale, hid⟩, hallowed⟩

/-- The rows with the ids that are removed are the removable ones. -/
theorem has_removed_iff (hrow : row ∈ t.rows table.table) :
    ((table.removed t).any (row.has table.idColumn)) = true ↔ table.Removable t row := by
  rw [Row.any_has]
  constructor
  · rintro ⟨id, hid, htext⟩
    obtain ⟨r, hr, hstale, rfl, hallowed⟩ := (mem_removed hids).mp hid
    obtain ⟨other, hother, hdetail⟩ := List.mem_filterMap.mp hr
    obtain rfl := hids.eq_of_text hother hrow (detail?_id hdetail) htext
    exact ⟨r, hdetail, hstale, hallowed⟩
  · rintro ⟨r, hdetail, hstale, hallowed⟩
    have hr : r ∈ table.records t := List.mem_filterMap.mpr ⟨row, hrow, hdetail⟩
    exact ⟨r.id, (mem_removed hids).mpr ⟨r, hr, hstale, rfl, hallowed⟩, detail?_id hdetail⟩

include hpurged

theorem rows_purged : t'.rows table.table =
    (t.rows table.table).filter fun row => !decide (table.Removable t row) := by
  refine hpurged.rows.trans (List.filter_congr fun row hrow => ?_)
  rw [Bool.not_inj_iff, Bool.eq_iff_iff, has_removed_iff hids hrow, decide_eq_true_iff]

/-- A record is left unless it is stale and its delete is not refused. -/
theorem mem_records_purged : r ∈ table.records t' ↔ r ∈ table.records t ∧
    (r.Stale (table.records t) → (table.table, r.id) ∈ t.failingDeletes) := by
  rw [DetailTable.records, rows_purged hids hpurged, List.mem_filterMap]
  simp only [List.mem_filter, Bool.not_eq_true', decide_eq_false_iff_not]
  constructor
  · rintro ⟨row, ⟨hrow, hkept⟩, hdetail⟩
    refine ⟨List.mem_filterMap.mpr ⟨row, hrow, hdetail⟩, fun hstale => ?_⟩
    by_contra hallowed
    exact hkept ⟨r, hdetail, hstale, hallowed⟩
  · rintro ⟨hr, hfailing⟩
    obtain ⟨row, hrow, hdetail⟩ := List.mem_filterMap.mp hr
    refine ⟨row, ⟨hrow, ?_⟩, hdetail⟩
    rintro ⟨r', hdetail', hstale, hallowed⟩
    obtain rfl := Option.some.inj (hdetail.symm.trans hdetail')
    exact hallowed (hfailing hstale)

/-- What was stale is stale still, if it is left. -/
theorem stale_purged : r.Stale (table.records t') ↔ r.Stale (table.records t) := by
  refine DetailRecord.stale_iff_of_kept (fun r hr => ?_) fun r hr hfresh => ?_
  · exact ((mem_records_purged hids hpurged).mp hr).1
  · exact (mem_records_purged hids hpurged).mpr ⟨hr, fun hstale => absurd hstale hfresh⟩

/-- What is removed is stale and no longer there. -/
theorem mem_removed_iff_gone : id ∈ table.removed t ↔ ∃ r ∈ table.records t,
    r.Stale (table.records t) ∧ r.id = id ∧ r ∉ table.records t' := by
  rw [mem_removed hids]
  refine exists_congr fun r => and_congr_right fun hr => and_congr_right fun hstale =>
    and_congr_right fun hid => ?_
  rw [mem_records_purged hids hpurged, ← hid]
  constructor
  · intro hallowed hleft
    exact hallowed (hleft.2 hstale)
  · intro hgone hfailing
    exact hgone ⟨hr, fun _ => hfailing⟩

/-- What is refused was stale and is left. -/
theorem mem_refused_iff_left : id ∈ table.refused t ↔ ∃ r ∈ table.records t',
    r.Stale (table.records t) ∧ r.id = id := by
  rw [DetailTable.refused, List.mem_filter, DetailTable.stale, mem_staleIds hids.records,
    decide_eq_true_iff]
  constructor
  · rintro ⟨⟨r, hr, hstale, rfl⟩, hfailing⟩
    exact ⟨r, (mem_records_purged hids hpurged).mpr ⟨hr, fun _ => hfailing⟩, hstale, rfl⟩
  · rintro ⟨r, hr, hstale, rfl⟩
    obtain ⟨hold, hfailing⟩ := (mem_records_purged hids hpurged).mp hr
    exact ⟨⟨r, hold, hstale, rfl⟩, hfailing hstale⟩

/-- An owner keeps its newest record. -/
theorem exists_newest_purged (hr : r ∈ table.records t) : ∃ newest ∈ table.records t',
    newest.owner = r.owner ∧
      ∀ other ∈ table.records t, other.owner = r.owner → newest.isOlder other = false := by
  obtain ⟨newest, hin, howner, hfresh⟩ := DetailRecord.exists_fresh hr
  refine ⟨newest, ?_, howner, ?_⟩
  · rw [mem_records_purged hids hpurged]
    exact ⟨hin, fun hstale => absurd hstale hfresh⟩
  · intro other hother hsame
    rw [Bool.eq_false_iff]
    intro holder
    exact hfresh ⟨other, hother, hsame.trans howner.symm, holder⟩

/-- What is stale after a run is refused again. -/
theorem stale_again : ∀ id ∈ table.stale t', (table.table, id) ∈ t'.failingDeletes := by
  have hids' : table.DistinctIds t' := by
    refine hids.sublist ?_
    rw [rows_purged hids hpurged]
    exact List.filter_sublist
  intro id hid
  obtain ⟨r, hr, hstale, rfl⟩ := (mem_staleIds hids'.records).mp hid
  rw [hpurged.alike.failingDeletes]
  exact ((mem_records_purged hids hpurged).mp hr).2 ((stale_purged hids hpurged).mp hstale)

end Purged

/-! ## What is reported -/

/-- What a run has done to a table of details, and what its report says of it. -/
structure DetailTable.Deduped (table : DetailTable) (t : Tables) (report : DetailReport)
    (t' : Tables) : Prop where
  /-- The rows that are gone are the stale ones, but those whose delete is refused. -/
  rows : t'.rows table.table =
    (t.rows table.table).filter fun row => !decide (table.Removable t row)
  elsewhere : ∀ n, n ≠ table.table → t'.rows n = t.rows n
  /-- Each owner has its newest record. -/
  newest : ∀ r ∈ table.records t, ∃ newest ∈ table.records t', newest.owner = r.owner ∧
    ∀ other ∈ table.records t, other.owner = r.owner → newest.isOlder other = false
  deleted : report.deleted.Nodup ∧ ∀ id, id ∈ report.deleted ↔
    ∃ r ∈ table.records t, r.Stale (table.records t) ∧ r.id = id ∧ r ∉ table.records t'
  failed : (report.failed.map (·.1)).Nodup ∧ ∀ id, id ∈ report.failed.map (·.1) ↔
    ∃ r ∈ table.records t', r.Stale (table.records t) ∧ r.id = id
  residual : report.residualOwners.Nodup ∧ ∀ owner, owner ∈ report.residualOwners ↔
    1 < (recordsOf owner (table.records t')).length
  exitCode : report.exitCode = 0 ↔ ∀ owner, (recordsOf owner (table.records t')).length ≤ 1

/-- No owner is reported just where none has several records. -/
theorem exitCode_eq_zero {report : DetailReport} {records : List DetailRecord}
    (hresidual : report.residualOwners = (duplicateDetails records).map (·.owner)) :
    report.exitCode = 0 ↔ ∀ owner, (recordsOf owner records).length ≤ 1 := by
  have hempty : report.exitCode = 0 ↔ report.residualOwners = [] := by
    rw [DetailReport.exitCode]
    split
    · next hnil => exact iff_of_true rfl (List.isEmpty_iff.mp hnil)
    · next hne => exact iff_of_false Nat.one_ne_zero fun hnil => hne (List.isEmpty_iff.mpr hnil)
  rw [hempty, hresidual, List.eq_nil_iff_forall_not_mem]
  refine forall_congr' fun owner => ?_
  rw [mem_duplicateOwners, not_lt]

/-- A run on a table whose ids differ, whatever deletes are refused: it deletes the stale rows but
those, and reports what it has done and which owners still have several rows. The next run changes
nothing, and a dry run in its place changes nothing and reports the owners that it works on. -/
theorem dedupeDetails_deduped {result : Reply DetailReport}
    (htable : (t.find? table.table).isSome) (hids : table.DistinctIds t)
    (hy : (dedupeDetails policy table false).Yields h result)
    (hf : Tables.truthful.Follows t h t') :
    ∃ report, result = .ok report ∧ table.Deduped t report t' ∧
      (∀ owner, owner ∈ report.duplicates.map (·.owner) ↔
        1 < (recordsOf owner (table.records t)).length) ∧
      (∀ policy next result' t'', (dedupeDetails policy table false).Yields next result' →
        Tables.truthful.Follows t' next t'' → t'' = t' ∧ ∃ report', result' = .ok report' ∧
          report'.deleted = [] ∧ report'.residualOwners = report.residualOwners) ∧
      ∀ policy dry result' t'', (dedupeDetails policy table true).Yields dry result' →
        Tables.truthful.Follows t dry t'' → t'' = t ∧ ∃ report', result' = .ok report' ∧
          report'.deleted = [] ∧ report'.failed = [] ∧
          report'.residualOwners = report.duplicates.map (·.owner) := by
  obtain ⟨hpurged, -, rfl⟩ := truthful_dedupeDetails htable hy hf
  refine ⟨_, rfl, ?deduped, fun owner => mem_duplicateOwners, ?next, ?dry⟩
  case deduped =>
    have hfailed : ((table.refused t).map fun id => (id, table.refusal id)).map (·.1) =
        table.refused t := by
      rw [List.map_map]
      exact List.map_id _
    have hdistinct := nodup_staleIds hids.records
    exact {
      rows := rows_purged hids hpurged
      elsewhere := fun n hn => by rw [Tables.rows, hpurged.find?, if_neg hn, Tables.rows]
      newest := fun r => exists_newest_purged hids hpurged
      deleted := ⟨hdistinct.filter _, fun id => mem_removed_iff_gone hids hpurged⟩
      failed := by
        rw [hfailed]
        exact ⟨hdistinct.filter _, fun id => mem_refused_iff_left hids hpurged⟩
      residual := ⟨nodup_duplicateOwners _, fun owner => mem_duplicateOwners⟩
      exitCode := exitCode_eq_zero rfl }
  case next =>
    intro policy next result' t'' hy' hf'
    have htable' : (t'.find? table.table).isSome := by
      rw [hpurged.find?, if_pos rfl, Option.isSome_map]
      exact htable
    obtain ⟨-, hsame, rfl⟩ := truthful_dedupeDetails htable' hy' hf'
    have hstale := stale_again hids hpurged
    obtain rfl := hsame hstale
    refine ⟨rfl, _, rfl, ?_, rfl⟩
    exact List.filter_eq_nil_iff.mpr fun id hid => by simpa using hstale id hid
  case dry =>
    intro policy dry result' t'' hy' hf'
    obtain ⟨rfl, rfl⟩ := truthful_dryRun htable hy' hf'
    exact ⟨rfl, _, rfl, rfl, rfl, rfl⟩

namespace DetailSample

/-- The institutions, of which the first one cannot be deleted. -/
def refusing : Tables :=
  { tables with failingDeletes := [("institutions", "i1")] }

/-- The tables, and no file. -/
def refusingWorld : World Tables :=
  { world with state := refusing }

/-- A run by itself. -/
def single : Run (Reply DetailReport) :=
  dedupeDetails {} institutions false

/-- Its report, and the world after it. -/
def singleEnd : Reply DetailReport × World Tables :=
  single.run (World.answer Tables.store) refusingWorld

end DetailSample

/-- The second institution is deleted, the first one is left, and its owner is reported. -/
theorem dedupeDetails_deduped_sample : ∃ report, DetailSample.singleEnd.1 = .ok report ∧
    (DetailSample.singleEnd.2.state.rows "institutions").map (·.text? "id") =
      [some "i1", some "i3", some "i4"] ∧
    report.failed.map (·.1) = ["i1"] ∧ report.residualOwners = ["h1"] ∧
    DetailSample.institutions.Deduped DetailSample.refusing report
      DetailSample.singleEnd.2.state := by
  have hids : DetailSample.institutions.DistinctIds DetailSample.refusing := by
    unfold DetailTable.DistinctIds
    decide +kernel
  have htable : (DetailSample.refusing.find? DetailSample.institutions.table).isSome := by
    decide +kernel
  have hyields := Program.yields_transcript (World.answer Tables.store) DetailSample.single
    DetailSample.refusingWorld
  have hfollows := Program.follows_transcript World.state truthful_answer DetailSample.single
    DetailSample.refusingWorld
  obtain ⟨report, hresult, hdeduped, -⟩ := dedupeDetails_deduped htable hids hyields hfollows
  have hreport : DetailSample.singleEnd.1.toOption.map
      (fun r => (r.failed.map (·.1), r.residualOwners)) = some (["i1"], ["h1"]) := by
    decide +kernel
  have hresult' : DetailSample.singleEnd.1 = .ok report := hresult
  rw [hresult'] at hreport
  obtain ⟨hfailed, hresidual⟩ := Prod.mk.inj (Option.some.inj hreport)
  exact ⟨report, hresult', by decide +kernel, hfailed, hresidual, hdeduped⟩

end RegistryDedup
