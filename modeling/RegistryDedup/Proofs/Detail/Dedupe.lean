import RegistryDedup.Proofs.Detail.Duplicates
import RegistryDedup.Proofs.Store.Shared

/-!
# Runs that delete stale details at the same time

A run deletes what was stale when it read the table, whatever other runs have done since. Those
delete stale records too, and by `stale_iff_of_kept` what is stale is not changed by that. So no run
ever deletes a record that was not stale at the start, and the first run to come to its end leaves
none that was.

- `DetailTable.records`, `DetailTable.Shed`: the records of a table, and what the runs do to it.
- `shed_party`: among runs that delete stale rows only, another run deletes stale rows only.
- `shed_ended`: a run that has come to its end has left no stale record.
- `dedupeDetails_interleaved`: the runs together.
-/

namespace RegistryDedup

open Interface.Environment Relation

variable {ι : Type} [DecidableEq ι] {policy : RetryPolicy} {table : DetailTable} {dryRun : Bool}
  {h : Transcript} {t t' u u' v : Tables} {r : DetailRecord} {row : Row} {id : String}

/-! ## The records of a table -/

namespace DetailTable

/-- The records of a table of details. -/
def records (table : DetailTable) (t : Tables) : List DetailRecord :=
  (t.rows table.table).filterMap (Row.detail? table)

/-- No id text comes up in two rows. -/
def DistinctIds (table : DetailTable) (t : Tables) : Prop :=
  ((t.rows table.table).filterMap (·.text? table.idColumn)).Nodup

/-- A row with the id of a stale record. -/
def Outdated (table : DetailTable) (t : Tables) (row : Row) : Prop :=
  ∃ r ∈ table.records t, r.Stale (table.records t) ∧ row.text? table.idColumn = some r.id

/-- Tables that may have lost some of the rows that were stale at the start. -/
def Shed (table : DetailTable) (start : Tables) : Tables → Tables → Prop :=
  Tables.Thinned table.table (table.Outdated start)

end DetailTable

theorem detail?_id (hr : row.detail? table = some r) : row.text? table.idColumn = some r.id := by
  simp only [Row.detail?, Option.bind_eq_bind, Option.bind_eq_some_iff] at hr
  obtain ⟨id, hid, owner, -, hr⟩ := hr
  cases hr
  exact hid

theorem fetchDetails_of_isSome (hu : (u.find? table.table).isSome) :
    u.fetchDetails table = .ok (table.records u) := by
  obtain ⟨v, hv⟩ := Option.isSome_iff_exists.mp hu
  rw [Tables.fetchDetails, Tables.reading, hv, DetailTable.records, Tables.rows_of_find? hv]

namespace DetailTable.DistinctIds

theorem sublist (hids : table.DistinctIds t)
    (hrows : (t'.rows table.table).Sublist (t.rows table.table)) : table.DistinctIds t' :=
  List.Nodup.sublist (hrows.filterMap _) hids

theorem records (hids : table.DistinctIds t) : ((table.records t).map (·.id)).Nodup := by
  have hsame : (table.records t).map (·.id) =
      ((t.rows table.table).filter fun row => (row.detail? table).isSome).filterMap
        (·.text? table.idColumn) := by
    rw [DetailTable.records]
    induction t.rows table.table with
    | nil => rfl
    | cons row rows ih =>
      cases hr : row.detail? table with
      | none => simp [hr, ih]
      | some r => simp [hr, ih, detail?_id hr]
  rw [hsame]
  exact List.Nodup.sublist (List.filter_sublist.filterMap _) hids

/-- A row is told by its id. -/
theorem eq_of_text (hids : table.DistinctIds t) {row' : Row} (hrow : row ∈ t.rows table.table)
    (hrow' : row' ∈ t.rows table.table) (hid : row.text? table.idColumn = some id)
    (hid' : row'.text? table.idColumn = some id) : row = row' := by
  by_contra hne
  have hpair := List.pairwise_filterMap.mp hids
  have hsymm : Std.Symm fun a b : Row => ∀ x, a.text? table.idColumn = some x →
      ∀ y, b.text? table.idColumn = some y → x ≠ y :=
    ⟨fun a b hab y hy x hx heq => hab x hx y hy heq.symm⟩
  exact hpair.forall hrow hrow' hne id hid id hid' rfl

end DetailTable.DistinctIds

/-! ## Tables after some runs -/

section Shed

variable (hids : table.DistinctIds t)
include hids

/-- Stale records are the same records at the end, if they are still there. -/
theorem stale_of_shed (hshed : table.Shed t t u) :
    (table.records u).Sublist (table.records t) ∧
    (∀ r ∈ table.records t, ¬ r.Stale (table.records t) → r ∈ table.records u) ∧
    ∀ r : DetailRecord, r.Stale (table.records u) ↔ r.Stale (table.records t) := by
  have hsub : (table.records u).Sublist (table.records t) := hshed.sublist.filterMap _
  have hkept : ∀ r ∈ table.records t, ¬ r.Stale (table.records t) → r ∈ table.records u := by
    intro r hr hfresh
    obtain ⟨row, hrow, hdetail⟩ := List.mem_filterMap.mp hr
    refine List.mem_filterMap.mpr ⟨row, hshed.kept hrow ?_, hdetail⟩
    rintro ⟨stale, hmem, hstale, hid⟩
    rw [detail?_id hdetail, Option.some.injEq] at hid
    have heq : r = stale := List.inj_on_of_nodup_map hids.records hr hmem hid
    exact hfresh (heq ▸ hstale)
  exact ⟨hsub, hkept, fun r => DetailRecord.stale_iff_of_kept hsub.subset hkept⟩

/-- Where no stale record is left, all else is as it was. -/
theorem find?_of_shed (hshed : table.Shed t t u)
    (hclean : ∀ r ∈ table.records u, ¬ r.Stale (table.records u)) (n : String) :
    u.find? n = if n = table.table then
      (t.find? n).map (·.filterRows fun row =>
        !(staleIds (duplicateDetails (table.records t))).any (row.has table.idColumn))
      else t.find? n := by
  obtain ⟨p, hp, hfind⟩ := hshed.find
  obtain ⟨-, -, hsame⟩ := stale_of_shed hids hshed
  by_cases hn : n = table.table
  · subst hn
    rw [hfind, if_pos rfl, if_pos rfl]
    cases hw : t.find? table.table with
    | none => rfl
    | some w =>
      have hrows := Tables.rows_of_find? hw
      have hrows' : u.rows table.table = w.rows.filter p := by
        rw [Tables.rows, hfind, if_pos rfl, hw]
        rfl
      simp only [Option.map_some, Table.filterRows, Option.some.injEq, Table.mk.injEq, true_and]
      refine List.filter_congr fun row hrow => ?_
      rw [Bool.eq_iff_iff, Bool.not_eq_true', ← Bool.not_eq_true, Row.any_has]
      constructor
      · rintro hkept ⟨id, hid, htext⟩
        obtain ⟨r, hr, hstale, rfl⟩ := (mem_staleIds hids.records).mp hid
        obtain ⟨other, hother, hdetail⟩ := List.mem_filterMap.mp hr
        have heq := hids.eq_of_text hother (hrows ▸ hrow) (detail?_id hdetail) htext
        have hmem : r ∈ table.records u := by
          refine List.mem_filterMap.mpr ⟨other, ?_, hdetail⟩
          rw [hrows', heq]
          exact List.mem_filter.mpr ⟨hrow, hkept⟩
        exact hclean r hmem ((hsame r).mpr hstale)
      · intro hnot
        by_contra hgone
        obtain ⟨r, hr, hstale, htext⟩ := hp row (Bool.not_eq_true _ ▸ hgone)
        exact hnot ⟨r.id, (mem_staleIds hids.records).mpr ⟨r, hr, hstale, rfl⟩, htext⟩
  · rw [hfind, if_neg hn, if_neg hn]

/-- Where no stale record is left, each owner has its newest one. -/
theorem recordsOf_of_shed (hshed : table.Shed t t u)
    (hclean : ∀ r ∈ table.records u, ¬ r.Stale (table.records u)) (hr : r ∈ table.records t) :
    ∃ newest ∈ table.records t, newest.owner = r.owner ∧ ¬ newest.Stale (table.records t) ∧
      recordsOf r.owner (table.records u) = [newest] := by
  obtain ⟨hsub, hkept, hsame⟩ := stale_of_shed hids hshed
  obtain ⟨newest, hmem, howner, hfresh⟩ := DetailRecord.exists_fresh hr
  refine ⟨newest, hmem, howner, hfresh, ?_⟩
  have hnodup := (hids.sublist hshed.sublist).records
  have hin : newest ∈ recordsOf r.owner (table.records u) :=
    mem_recordsOf.mpr ⟨hkept newest hmem hfresh, howner⟩
  -- Another record of the owner would have another id, and then one of the two would be stale.
  have hall : ∀ other ∈ recordsOf r.owner (table.records u), other = newest := by
    intro other hother
    rw [mem_recordsOf] at hother hin
    by_contra hne
    have hid : other.id ≠ newest.id :=
      fun heq => hne (List.inj_on_of_nodup_map hnodup hother.1 hin.1 heq)
    rcases DetailRecord.stale_or_stale hother.1 hin.1 (hother.2.trans hin.2.symm) hid with hs | hs
    · exact hclean other hother.1 hs
    · exact hclean newest hin.1 hs
  have hone := hnodup.of_map.sublist (List.filter_sublist (p := (·.owner == r.owner)))
  refine List.perm_singleton.mp ((List.perm_ext_iff_of_nodup hone (List.nodup_singleton _)).mpr ?_)
  intro other
  rw [List.mem_singleton]
  exact ⟨hall other, fun heq => heq ▸ hin⟩

end Shed

/-! ## One run among others -/

/-- All that is asked to delete stale records. -/
theorem only_deleteStale (ids : List String) (report : DetailReport) :
    (deleteStale policy table ids report).Only fun a =>
      ∃ id ∈ ids, a = Action.call (.deleteIds table.table table.idColumn [id]) := by
  induction ids generalizing report with
  | nil => trivial
  | cons id ids ih =>
    rw [deleteStale, Program.bind_eq]
    refine Program.Only.bind (Run.only_calling.mono ?_) fun reply => (ih _).mono ?_
    · rintro a rfl
      exact ⟨id, List.mem_cons_self, rfl⟩
    · rintro a ⟨other, hother, ha⟩
      exact ⟨other, List.mem_cons_of_mem _ hother, ha⟩

/-- A run reads the table first, and then it deletes only what it found to be stale in it. -/
theorem asks_dedupeDetails_read (ha : (dedupeDetails policy table dryRun).Asks h) :
    (∀ e ∈ h, e.1 = Action.call (.fetchDetails table)) ∨
      ∃ opening rest records, h = opening ++ rest ∧
        (Run.fetchDetails policy table).Yields opening (.ok records) ∧
        ∀ e ∈ h, e.1 = Action.call (.fetchDetails table) ∨
          ∃ id ∈ staleIds (duplicateDetails records),
            e.1 = Action.call (.deleteIds table.table table.idColumn [id]) := by
  have hreads : (Run.fetchDetails policy table).Only (· = Action.call (.fetchDetails table)) :=
    Run.only_calling
  rw [dedupeDetails, Program.bind_eq, Program.asks_bind] at ha
  rcases ha with ha | ⟨reply, opening, rest, rfl, hfetch, ha⟩
  · exact .inl (hreads.asks ha)
  cases reply with
  | error f =>
    obtain rfl : rest = [] := ha
    rw [List.append_nil]
    exact .inl (hreads.yields hfetch)
  | ok records =>
    refine .inr ⟨opening, rest, records, rfl, hfetch, List.forall_mem_append.mpr ⟨?_, ?_⟩⟩
    · exact fun e he => .inl (hreads.yields hfetch e he)
    · refine Program.Only.asks (P := fun a => a = Action.call (.fetchDetails table) ∨
        ∃ id ∈ staleIds (duplicateDetails records),
          a = Action.call (.deleteIds table.table table.idColumn [id])) ?_ ha
      dsimp only
      split
      · trivial
      · split
        · trivial
        · refine ((only_deleteStale _ _).mono fun a ha => .inr ha).bind fun report => ?_
          refine (hreads.mono fun a ha => .inl ha).bind fun reply => ?_
          cases reply <;> trivial

/-- A run reads the table, or it deletes what was stale when it read it. -/
theorem asks_dedupeDetails (ha : (dedupeDetails policy table dryRun).Asks h) :
    ∀ e ∈ h, e.1 = Action.call (.fetchDetails table) ∨
      ∃ records, ⟨Action.call (.fetchDetails table), Attempt.answered (.ok records)⟩ ∈ h ∧
        ∃ id ∈ staleIds (duplicateDetails records),
          e.1 = Action.call (.deleteIds table.table table.idColumn [id]) := by
  rcases asks_dedupeDetails_read ha with hreads | ⟨opening, rest, records, rfl, hfetch, hall⟩
  · exact fun e he => .inl (hreads e he)
  have hanswer : ⟨Action.call (.fetchDetails table), Attempt.answered (.ok records)⟩ ∈ opening := by
    obtain ⟨fails, x, rfl, hx, -⟩ := Run.yields_calling hfetch
    rw [Attempt.eq_answered hx]
    exact List.mem_append_right _ List.mem_cons_self
  intro e he
  exact (hall e he).imp_right fun hdelete => ⟨records, List.mem_append_left _ hanswer, hdelete⟩

section Runs

/-- Among runs that delete stale rows only, a call that works on the tables of the start needs one
attempt. -/
theorem shed_calling {operation : String} {r : Request} {reply : Reply r.Answer}
    (hcall : ∀ w, table.Shed t t w → ∃ a, (Tables.call r w).1 = .ok a)
    (hstart : table.Shed t t u)
    (hy : (Run.calling policy operation r).Yields h reply)
    (hf : (Tables.truthful.among (table.Shed t)).Follows u h v) :
    ∃ w, table.Shed t t w ∧ reply = (Tables.call r w).1 ∧ v = (Tables.call r w).2 := by
  have hshed : ∀ w, ReflTransGen (table.Shed t) u w → table.Shed t t w :=
    fun w hw => hstart.trans (.of_steps hw)
  obtain ⟨w, hw, hreply, hv⟩ := calling_amid (fun w hw => hcall w (hshed w hw)) hy hf.of_among
  exact ⟨w, hshed w hw, hreply, hv⟩

variable (hdeletes : t.failingDeletes = [])
include hdeletes

/-- Among runs that delete stale rows only, another run deletes stale rows only. -/
theorem shed_party (hids : table.DistinctIds t) {asked : Transcript}
    {e : Action.interface.Exchange}
    (ha : (dedupeDetails policy table dryRun).Asks (asked ++ [e]))
    (hf : (Tables.truthful.among (table.Shed t)).Follows t asked u)
    (hothers : ReflTransGen (table.Shed t) u v) (he : Tables.truthful e.1 v e.2 v') :
    table.Shed t v v' := by
  have hv : table.Shed t t v := .of_steps (hf.steps.trans hothers)
  rcases asks_dedupeDetails ha e (by simp) with hread | ⟨records, hmem, id, hid, hdelete⟩
  · obtain ⟨a, x⟩ := e
    obtain rfl : a = _ := hread
    obtain rfl : v' = v := he.2
    exact .refl _ _ _
  · obtain ⟨a, x⟩ := e
    obtain rfl : a = _ := hdelete
    obtain rfl : v' = _ := he.2
    -- What is deleted was stale when the run read the table, and so it was at the start.
    have hsnapshot :
        ⟨Action.call (.fetchDetails table), Attempt.answered (.ok records)⟩ ∈ asked := by
      rcases List.mem_append.mp hmem with hmem | hmem
      · exact hmem
      · cases List.mem_singleton.mp hmem
    obtain ⟨w, w', hw, ⟨hanswer, -⟩, -⟩ := hf.exists_answer hsnapshot
    obtain ⟨hsub, -, hsame⟩ := stale_of_shed hids (.of_steps hw)
    have hrecords : records = table.records w := by
      have hread : w.fetchDetails table = .ok records := (Attempt.answered.inj hanswer).symm
      rw [Tables.fetchDetails, Tables.reading] at hread
      cases hx : w.find? table.table with
      | none => rw [hx] at hread; cases hread
      | some x =>
        rw [hx] at hread
        rw [DetailTable.records, Tables.rows_of_find? hx]
        exact (Except.ok.inj hread).symm
    subst hrecords
    have hids' := (hids.sublist (Tables.Thinned.of_steps hw).sublist).records
    obtain ⟨r, hr, hstale, rfl⟩ := (mem_staleIds hids').mp hid
    refine Tables.thinned_deleteIds (hv.failingDeletes.trans hdeletes) fun row hrow => ?_
    exact ⟨r, hsub.subset hr, (hsame r).mp hstale, Row.has_iff.mp hrow⟩

variable (htable : (t.find? table.table).isSome)
include htable

/-- Ids that are deleted among such runs are in no row afterwards. -/
theorem shed_deleteStale {ids : List String} {report report' : DetailReport}
    (hstart : table.Shed t t u) (hy : (deleteStale policy table ids report).Yields h report')
    (hf : (Tables.truthful.among (table.Shed t)).Follows u h v) :
    ∀ id ∈ ids, ∀ row ∈ v.rows table.table, row.text? table.idColumn ≠ some id := by
  induction ids generalizing h u report with
  | nil => simp
  | cons id ids ih =>
    rw [deleteStale, Program.bind_eq, Program.yields_bind] at hy
    obtain ⟨reply, h₁, h₂, rfl, hcall, hy⟩ := hy
    obtain ⟨u', hf, hf'⟩ := follows_append.mp hf
    have hallowed : ∀ w, table.Shed t t w → (table.table, id) ∉ w.failingDeletes := by
      intro w hw
      rw [hw.failingDeletes, hdeletes]
      exact List.not_mem_nil
    have hdelete : ∀ w, table.Shed t t w →
        ∃ n, (w.deleteIds table.table table.idColumn [id]).1 = .ok n := by
      intro w hw
      obtain ⟨x, hx⟩ := Option.isSome_iff_exists.mp (hw.isSome.trans htable)
      have hfind : ([id].find? fun id => w.failingDeletes.contains (table.table, id)) = none := by
        simpa using hallowed w hw
      rw [Tables.deleteIds, hfind]
      dsimp only
      rw [Tables.changing, hx]
      exact ⟨_, rfl⟩
    have hstart' : table.Shed t t u' := hstart.trans (.of_steps hf.steps)
    obtain ⟨w, hw, -, hu'⟩ :=
      shed_calling (r := .deleteIds table.table table.idColumn [id]) hdelete hstart hcall hf
    rw [List.forall_mem_cons]
    refine ⟨fun row hrow => ?_, ih hstart' hy hf'⟩
    -- The row was there right after the delete, which left no row with the id.
    have hrow' : row ∈ u'.rows table.table :=
      (Tables.Thinned.of_steps hf'.steps).sublist.subset hrow
    change u' = (w.deleteIds table.table table.idColumn [id]).2 at hu'
    rw [hu', Tables.rows_deleteIds (hallowed w hw), if_pos rfl, List.mem_filter] at hrow'
    intro htext
    rw [Row.has_iff.mpr htext] at hrow'
    exact Bool.false_ne_true hrow'.2

omit hdeletes in
theorem shed_fetchDetails {reply : Reply (List DetailRecord)} (hstart : table.Shed t t u)
    (hy : (Run.fetchDetails policy table).Yields h reply)
    (hf : (Tables.truthful.among (table.Shed t)).Follows u h v) :
    reply = .ok (table.records v) ∧ table.Shed t t v := by
  have hread : ∀ w, table.Shed t t w → w.fetchDetails table = .ok (table.records w) :=
    fun w hw => fetchDetails_of_isSome (hw.isSome.trans htable)
  obtain ⟨w, hw, hreply, hv⟩ := shed_calling (r := .fetchDetails table)
    (fun w hw => ⟨_, hread w hw⟩) hstart hy hf
  obtain rfl : v = w := hv
  exact ⟨hreply.trans (hread v hw), hw⟩

/-- A run that has come to its end has left no stale record, and says so. -/
theorem shed_ended (hids : table.DistinctIds t) {result : Reply DetailReport}
    (hy : (dedupeDetails policy table false).Yields h result)
    (hf : (Tables.truthful.among (table.Shed t)).Follows t h v) :
    (∃ report, result = .ok report ∧ report.residualOwners = []) ∧
      ∀ r ∈ table.records v, ¬ r.Stale (table.records v) := by
  have hnil : ∀ w, table.Shed t t w → (duplicateDetails (table.records w) = [] ↔
      ∀ r ∈ table.records w, ¬ r.Stale (table.records w)) :=
    fun w hw => duplicateDetails_eq_nil (hids.sublist hw.sublist).records
  rw [dedupeDetails, Program.bind_eq, Program.yields_bind] at hy
  obtain ⟨reply, h₁, h₂, rfl, hfetch, hy⟩ := hy
  obtain ⟨w, hf, hf'⟩ := follows_append.mp hf
  obtain ⟨rfl, hw⟩ := shed_fetchDetails htable (.refl _ _ _) hfetch hf
  dsimp only at hy
  split at hy
  · next hempty =>
    obtain ⟨rfl, rfl⟩ := hy
    obtain rfl : v = w := hf'
    exact ⟨⟨_, rfl, rfl⟩, (hnil v hw).mp (List.isEmpty_iff.mp hempty)⟩
  · rw [if_neg Bool.false_ne_true, Program.bind_eq, Program.yields_bind] at hy
    obtain ⟨report, h₃, h₄, rfl, hdelete, hy⟩ := hy
    rw [Program.bind_eq, Program.yields_bind] at hy
    obtain ⟨reply, h₅, h₆, rfl, hagain, hy⟩ := hy
    obtain ⟨x, hfirst, hrest⟩ := follows_append.mp hf'
    obtain ⟨y, hlast, hend⟩ := follows_append.mp hrest
    have hx : table.Shed t t x := hw.trans (.of_steps hfirst.steps)
    have hgone := shed_deleteStale hdeletes htable hw hdelete hfirst
    obtain ⟨rfl, hy'⟩ := shed_fetchDetails htable hx hagain hlast
    obtain ⟨rfl, rfl⟩ := hy
    obtain rfl : v = y := hend
    -- What is stale at the end was there when the run read the table, and was deleted since.
    have hclean : ∀ r ∈ table.records v, ¬ r.Stale (table.records v) := by
      intro r hr hstale
      have hsub : (v.rows table.table).Sublist (x.rows table.table) :=
        (Tables.Thinned.of_steps hlast.steps).sublist
      have hsub' : (v.rows table.table).Sublist (w.rows table.table) :=
        hsub.trans (Tables.Thinned.of_steps hfirst.steps).sublist
      have hstale' : r.Stale (table.records w) :=
        ((stale_of_shed hids hw).2.2 r).mpr (((stale_of_shed hids hy').2.2 r).mp hstale)
      have hid : r.id ∈ staleIds (duplicateDetails (table.records w)) :=
        (mem_staleIds (hids.sublist hw.sublist).records).mpr
          ⟨r, (hsub'.filterMap _).subset hr, hstale', rfl⟩
      obtain ⟨row, hrow, hdetail⟩ := List.mem_filterMap.mp hr
      exact hgone r.id hid row (hsub.subset hrow) (detail?_id hdetail)
    refine ⟨⟨_, rfl, ?_⟩, hclean⟩
    rw [(hnil v hy').mpr hclean]
    rfl

end Runs

/-! ## Runs together -/

/-- At every point the table has lost stale rows only, and none is left where a run has ended. -/
theorem shed_interleaved {policies : ι → RetryPolicy} {joint : Action.interface.Joint ι}
    (htable : (t.find? table.table).isSome) (hids : table.DistinctIds t)
    (hdeletes : t.failingDeletes = [])
    (hp : Program.Interleaved (fun i => dedupeDetails (policies i) table false) joint)
    (hf : Tables.truthful.Follows t (joint.map (·.2)) t') :
    table.Shed t t t' ∧
    ∀ i result, (dedupeDetails (policies i) table false).Yields (partOf i joint) result →
      (∃ report, result = .ok report ∧ report.residualOwners = []) ∧
        ∀ r ∈ table.records t', ¬ r.Stale (table.records t') := by
  have hparty : ∀ i asked (e : Action.interface.Exchange) s u u',
      (dedupeDetails (policies i) table false).Asks (asked ++ [e]) →
      (Tables.truthful.among (table.Shed t)).Follows t asked s → ReflTransGen (table.Shed t) s u →
      Tables.truthful e.1 u e.2 u' → ReflTransGen (table.Shed t) u u' :=
    fun i asked e s u u' ha hs hothers he => .single (shed_party hdeletes hids ha hs hothers he)
  obtain ⟨hall, heach⟩ := hp.among hparty hf
  refine ⟨.of_steps hall, fun i result hy => ?_⟩
  obtain ⟨s, hs, hothers⟩ := heach i
  obtain ⟨hok, hclean⟩ := shed_ended hdeletes htable hids hy hs
  -- The others have not brought back what was gone by then.
  have hlater : table.Shed t s t' := .of_steps hothers
  have hboth := stale_of_shed hids (.of_steps hs.steps)
  have hboth' := stale_of_shed hids (.of_steps hall)
  refine ⟨hok, fun r hr hstale => ?_⟩
  have hr' : r ∈ table.records s := (hlater.sublist.filterMap _).subset hr
  exact hclean r hr' ((hboth.2.2 r).mpr ((hboth'.2.2 r).mp hstale))

/-- Any number of runs on one table whose ids differ and whose deletes are not refused, at any point
and in whatever order their calls are made. No row is gone that is not stale, and with that no row
of an owner that has no other. Where a run has come to its end, it has reported that no owner has
several records left; each owner has its newest record and no other; and all tables are as a single
run would have left them. -/
theorem dedupeDetails_interleaved {policies : ι → RetryPolicy} {joint : Action.interface.Joint ι}
    (htable : (t.find? table.table).isSome) (hids : table.DistinctIds t)
    (hdeletes : t.failingDeletes = [])
    (hp : Program.Interleaved (fun i => dedupeDetails (policies i) table false) joint)
    (hf : Tables.truthful.Follows t (joint.map (·.2)) t') :
    (∀ row ∈ t.rows table.table,
      (∀ r, row.detail? table = some r → ¬ r.Stale (table.records t)) →
        row ∈ t'.rows table.table) ∧
    (∀ row ∈ t.rows table.table, ∀ r, row.detail? table = some r →
      recordsOf r.owner (table.records t) = [r] → row ∈ t'.rows table.table) ∧
    ∀ i result, (dedupeDetails (policies i) table false).Yields (partOf i joint) result →
      (∃ report, result = .ok report ∧ report.residualOwners = []) ∧
      (∀ r ∈ table.records t, ∃ newest ∈ table.records t, newest.owner = r.owner ∧
        ¬ newest.Stale (table.records t) ∧ recordsOf r.owner (table.records t') = [newest]) ∧
      ∀ policy single result' last, (dedupeDetails policy table false).Yields single result' →
        Tables.truthful.Follows t single last → ∀ n, t'.find? n = last.find? n := by
  obtain ⟨hshed, hended⟩ := shed_interleaved htable hids hdeletes hp hf
  have hfresh : ∀ row ∈ t.rows table.table,
      (∀ r, row.detail? table = some r → ¬ r.Stale (table.records t)) →
        row ∈ t'.rows table.table := by
    intro row hrow hfresh
    refine hshed.kept hrow ?_
    rintro ⟨r, hr, hstale, htext⟩
    obtain ⟨row', hrow', hdetail⟩ := List.mem_filterMap.mp hr
    obtain rfl := hids.eq_of_text hrow hrow' htext (detail?_id hdetail)
    exact hfresh r hdetail hstale
  refine ⟨hfresh, fun row hrow r hdetail hsingle => ?_, fun i result hy => ?_⟩
  · refine hfresh row hrow fun r' hdetail' => ?_
    obtain rfl := Option.some.inj (hdetail.symm.trans hdetail')
    rintro ⟨other, hother, howner, holder⟩
    have hmem : other ∈ recordsOf r.owner (table.records t) := mem_recordsOf.mpr ⟨hother, howner⟩
    rw [hsingle, List.mem_singleton] at hmem
    rw [hmem, DetailRecord.isOlder_iff] at holder
    exact lt_irrefl _ holder
  · obtain ⟨hok, hclean⟩ := hended i result hy
    refine ⟨hok, fun r hr => recordsOf_of_shed hids hshed hclean hr, ?_⟩
    intro policy single result' last hy' hf' n
    -- A single run is one of a number of runs.
    have hpart := partOf_map () single
    have hone : Program.Interleaved (fun _ => dedupeDetails policy table false)
        (single.map fun e => ((), e)) := by
      intro _
      rw [hpart]
      exact hy'.asks
    have hf'' : Tables.truthful.Follows t ((single.map fun e => ((), e)).map (·.2)) last := by
      rwa [List.map_map, Function.comp_def, List.map_id']
    obtain ⟨hshed', hended'⟩ := shed_interleaved htable hids hdeletes hone hf''
    obtain ⟨-, hclean'⟩ := hended' () result' (hpart.symm ▸ hy')
    rw [find?_of_shed hids hshed hclean, find?_of_shed hids hshed' hclean']

namespace DetailSample

/-- A holding with three institutions, two of them of the same time, and one with a single one. -/
def tables : Tables where
  clock := ⟨⟨2024, 2, 1, by decide⟩, 30600, 5, by decide, by decide⟩
  tables := [
    ("institutions", {
      columns := ["id", "holding_id", "created_at"]
      rows := [
        [("created_at", .str "2024-01-01"), ("holding_id", .str "h1"), ("id", .str "i1")],
        [("holding_id", .str "h1"), ("id", .str "i2")],
        [("created_at", .str "2024-01-01"), ("holding_id", .str "h1"), ("id", .str "i3")],
        [("holding_id", .str "h2"), ("id", .str "i4")]] })]

/-- The institutions of the holdings. -/
def institutions : DetailTable := ⟨"institutions", "id", "holding_id", "created_at"⟩

/-- The tables, and no file. -/
def world : World Tables :=
  ⟨tables, ⟨"/", []⟩, tables.clock, 1⟩

/-- Two runs, of which the second reads the table when the first has deleted one institution. -/
def woven : Program.Woven Bool Action.interface (Reply DetailReport) (World Tables) :=
  Program.weave (World.answer Tables.store) [false, false, true, true, false, false, true]
    (fun _ => dedupeDetails {} institutions false) world

end DetailSample

/-- Both runs delete the second institution, and the third one is left. -/
theorem dedupeDetails_interleaved_sample :
    DetailSample.woven.joint.map (fun (i, e) => (i, match e.1 with
      | .call r => r.describe
      | _ => "")) =
      [(false, "fetch_details institutions"), (false, "delete_ids institutions id i1"),
        (true, "fetch_details institutions"), (true, "delete_ids institutions id i2"),
        (false, "delete_ids institutions id i2"), (false, "fetch_details institutions"),
        (true, "fetch_details institutions")] ∧
    (DetailSample.woven.state.state.rows "institutions").map (·.text? "id") =
      [some "i3", some "i4"] ∧
    ∀ i, ∃ result, (dedupeDetails {} DetailSample.institutions false).Yields
        (partOf i DetailSample.woven.joint) result ∧
      (∃ report, result = .ok report ∧ report.residualOwners = []) ∧
      ∀ r ∈ DetailSample.institutions.records DetailSample.tables,
        ∃ newest ∈ DetailSample.institutions.records DetailSample.tables, newest.owner = r.owner ∧
          ¬ newest.Stale (DetailSample.institutions.records DetailSample.tables) ∧
          recordsOf r.owner (DetailSample.institutions.records DetailSample.woven.state.state) =
            [newest] := by
  have hids : DetailSample.institutions.DistinctIds DetailSample.tables := by
    unfold DetailTable.DistinctIds
    decide +kernel
  have htable : (DetailSample.tables.find? DetailSample.institutions.table).isSome := by
    decide +kernel
  have hfollows : Tables.truthful.Follows DetailSample.tables
      (DetailSample.woven.joint.map (·.2)) DetailSample.woven.state.state :=
    Program.follows_weave World.state truthful_answer _ _ DetailSample.world
  have hinterleaved : Program.Interleaved
      (fun _ => dedupeDetails {} DetailSample.institutions false) DetailSample.woven.joint :=
    Program.interleaved_weave _ _ _ _
  obtain ⟨-, -, hended⟩ := dedupeDetails_interleaved htable hids rfl hinterleaved hfollows
  refine ⟨by decide +kernel, by decide +kernel, fun i => ?_⟩
  have hend : ∀ i, (DetailSample.woven.rest i).result?.isSome := by decide +kernel
  obtain ⟨result, hresult⟩ := Option.isSome_iff_exists.mp (hend i)
  have hyields : (dedupeDetails {} DetailSample.institutions false).Yields
      (partOf i DetailSample.woven.joint) result := Program.yields_weave _ hresult
  obtain ⟨hok, hnewest, -⟩ := hended i result hyields
  exact ⟨result, hyields, hok, hnewest⟩

end RegistryDedup
