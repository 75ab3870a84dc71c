import RegistryDedup.Proofs.Detail.Refusals

/-!
# Details that come up more than once

The record that is kept is taken out of the records of its owner by its place, but deletes go by id.
A table that is read page by page may answer with one row twice, and then the record that is kept
may be deleted with the stale ones.

- `Surplus`: an id that comes up more often among the records of owners with several than it is
  kept. These are the ids of the stale records (`mem_staleIds_iff_surplus`).
- `keep_mem_stale_iff`: for a single owner this means that the id that is kept comes up more than
  once among its records.
- `records_purged`: an owner loses its last record where all its ids are deleted.
- `dedupeDetails_removes_keep_iff`: in a run the ids that are deleted are just those.
-/

namespace RegistryDedup

open Interface.Environment

variable {policy : RetryPolicy} {table : DetailTable} {dryRun : Bool} {h : Transcript}
  {t t' : Tables} {records : List DetailRecord} {d : DetailDuplicate} {owner id : String}

/-! ## Ids that are kept and stale -/

/-- The records of owners that have several. -/
def contested (records : List DetailRecord) : List DetailRecord :=
  records.filter fun r => 1 < (recordsOf r.owner records).length

/-- An id that comes up more often among the records of owners with several than it is kept. -/
def Surplus (records : List DetailRecord) (id : String) : Prop :=
  ((duplicateDetails records).map (·.keep.id)).count id <
    ((contested records).map (·.id)).count id

instance (records : List DetailRecord) (id : String) : Decidable (Surplus records id) :=
  inferInstanceAs (Decidable (_ < _))

/-- The records of some owners, owner by owner. -/
theorem flatMap_recordsOf_perm {owners : List String} (howners : owners.Nodup)
    (records : List DetailRecord) :
    (owners.flatMap fun owner => recordsOf owner records).Perm
      (records.filter fun r => r.owner ∈ owners) := by
  induction owners with
  | nil => simp
  | cons owner owners ih =>
    rw [List.nodup_cons] at howners
    -- The records of all owners are those of the first one and those of the others. No record is in
    -- both, as the first owner is not among the others.
    have hfirst : recordsOf owner records =
        (records.filter fun r => r.owner ∈ owner :: owners).filter (·.owner == owner) := by
      rw [recordsOf, List.filter_filter]
      refine List.filter_congr fun r _ => ?_
      by_cases hr : r.owner = owner <;> simp [hr]
    have hothers : (records.filter fun r => r.owner ∈ owners) =
        (records.filter fun r => r.owner ∈ owner :: owners).filter
          fun r => !(r.owner == owner) := by
      rw [List.filter_filter]
      refine List.filter_congr fun r _ => ?_
      by_cases hr : r.owner = owner
      · simp [hr, howners.1]
      · simp [hr]
    rw [List.flatMap_cons, hfirst]
    exact ((ih howners.2).append_left _).trans (hothers ▸ List.filter_append_perm _ _)

/-- What is kept and what is stale are the records of the owners that have several. -/
theorem kept_append_stale_perm (records : List DetailRecord) :
    ((duplicateDetails records).map (·.keep) ++ (duplicateDetails records).flatMap (·.stale)).Perm
      (contested records) := by
  have hsplit : ((duplicateDetails records).flatMap fun d => d.keep :: d.stale).Perm
      ((duplicateDetails records).flatMap fun d => recordsOf d.owner records) :=
    List.Perm.flatMap_left _ fun d hd => keep_cons_stale_perm hd
  have howners : ((duplicateDetails records).flatMap fun d => recordsOf d.owner records) =
      ((duplicateDetails records).map (·.owner)).flatMap fun owner => recordsOf owner records :=
    (List.flatMap_map DetailDuplicate.owner (fun owner => recordsOf owner records) _).symm
  have hcontested : contested records =
      records.filter fun r => r.owner ∈ (duplicateDetails records).map (·.owner) :=
    List.filter_congr fun r _ => by rw [decide_eq_decide, mem_duplicateOwners]
  rw [hcontested]
  refine (List.map_append_flatMap_perm _ _ _).trans (hsplit.trans ?_)
  rw [howners]
  exact flatMap_recordsOf_perm (nodup_duplicateOwners records) records

/-- An id is found to be deleted just where it comes up more often than it is kept. -/
theorem mem_staleIds_iff_surplus :
    id ∈ staleIds (duplicateDetails records) ↔ Surplus records id := by
  have hperm := (kept_append_stale_perm records).map (·.id)
  have hkept : ((duplicateDetails records).map (·.keep)).map (·.id) =
      (duplicateDetails records).map (·.keep.id) := List.map_map
  have hstale : ((duplicateDetails records).flatMap (·.stale)).map (·.id) =
      staleIds (duplicateDetails records) := List.map_flatMap
  rw [List.map_append, hkept, hstale] at hperm
  rw [Surplus, ← hperm.count_eq, List.count_append, Nat.lt_add_right_iff_pos, List.count_pos_iff]

/-- The id that is kept of an owner is also that of a stale record of this owner just where it comes
up more than once among its records. -/
theorem keep_mem_stale_iff (hd : d ∈ duplicateDetails records) :
    d.keep.id ∈ d.stale.map (·.id) ↔
      1 < ((recordsOf d.owner records).map (·.id)).count d.keep.id := by
  rw [← ((keep_cons_stale_perm hd).map (·.id)).count_eq, List.map_cons, List.count_cons_self,
    Nat.lt_add_left_iff_pos, List.count_pos_iff]

/-! ## In a run -/

/-- The records that are left where some ids are deleted. -/
theorem records_purged {gone : List String} (hpurged : Purged table.asEntities gone t t') :
    table.records t' = (table.records t).filter fun r => r.id ∉ gone := by
  have hrows : t'.rows table.table =
      (t.rows table.table).filter fun row => !gone.any (row.has table.idColumn) := hpurged.rows
  rw [DetailTable.records, DetailTable.records, hrows]
  -- A row that holds no record may be gone or not; one that does goes with its record.
  induction t.rows table.table with
  | nil => rfl
  | cons row rows ih =>
    cases hrow : row.detail? table with
    | none =>
      rw [List.filterMap_cons_none hrow, ← ih, List.filter_cons]
      split
      · rw [List.filterMap_cons_none hrow]
      · rfl
    | some r =>
      rw [List.filterMap_cons_some hrow, List.filter_cons, List.filter_cons,
        Row.any_has_of_text (detail?_id hrow), ← ih]
      by_cases hgone : r.id ∈ gone
      · simp [hgone]
      · simp [hgone, hrow]

/-- Every id that is given is deleted. -/
theorem deletes_of_deleteStale {ids : List String} {report report' : DetailReport}
    (hy : (deleteStale policy table ids report).Yields h report') :
    ∀ id ∈ ids, ∃ e ∈ h, e.1 = Action.call (.deleteIds table.table table.idColumn [id]) := by
  induction ids generalizing h report with
  | nil => exact List.forall_mem_nil _
  | cons id ids ih =>
    rw [deleteStale, Program.bind_eq, Program.yields_bind] at hy
    obtain ⟨reply, h₁, h₂, rfl, hcall, hy⟩ := hy
    obtain ⟨fails, x, rfl, -⟩ := Run.yields_calling hcall
    rw [List.forall_mem_cons]
    constructor
    · refine ⟨⟨Action.call (.deleteIds table.table table.idColumn [id]), x⟩, ?_, rfl⟩
      exact List.mem_append_left _ (List.mem_append_right _ List.mem_cons_self)
    · intro other hother
      obtain ⟨e, he, hdelete⟩ := ih hy other hother
      exact ⟨e, List.mem_append_right _ he, hdelete⟩

/-- A run that came to its end has deleted all that it found to be stale when it read the table. -/
theorem deletes_of_dedupeDetails {opening rest : Transcript} {report : DetailReport}
    (hread : (Run.fetchDetails policy table).Yields opening (.ok records))
    (hy : (dedupeDetails policy table false).Yields (opening ++ rest) (.ok report)) :
    ∀ id ∈ staleIds (duplicateDetails records),
      ∃ e ∈ opening ++ rest, e.1 = Action.call (.deleteIds table.table table.idColumn [id]) := by
  rw [dedupeDetails, Program.bind_eq, Program.yields_bind] at hy
  obtain ⟨reply, h₁, h₂, heq, hfetch, hy⟩ := hy
  -- The run has read the table once so far, with these records.
  obtain ⟨rfl, rfl⟩ := hread.unique hfetch heq
  obtain rfl := List.append_cancel_left heq
  dsimp only at hy
  split at hy
  · next hempty =>
    rw [List.isEmpty_iff.mp hempty]
    exact List.forall_mem_nil _
  · rw [if_neg Bool.false_ne_true, Program.bind_eq, Program.yields_bind] at hy
    obtain ⟨report', h₃, h₄, rfl, hdelete, -⟩ := hy
    intro id hid
    obtain ⟨e, he, hcall⟩ := deletes_of_deleteStale hdelete id hid
    exact ⟨e, List.mem_append_right _ (List.mem_append_left _ he), hcall⟩

/-- What the deletes of a run do to the records that it has read. -/
structure RemovesSurplus (policy : RetryPolicy) (table : DetailTable) (records : List DetailRecord)
    (h : Transcript) : Prop where
  /-- The record that is kept of an owner shares its id with a stale one just where this id comes up
  more than once. -/
  repeated : ∀ d ∈ duplicateDetails records, (d.keep.id ∈ d.stale.map (·.id) ↔
    1 < ((recordsOf d.owner records).map (·.id)).count d.keep.id)
  /-- No other id is deleted. -/
  deletes : ∀ e ∈ h, e.1 = .call (.fetchDetails table) ∨
    ∃ id, Surplus records id ∧ e.1 = .call (.deleteIds table.table table.idColumn [id])
  /-- A run that came to its end has deleted each of them, one that is kept too. -/
  deleted : ∀ report, (dedupeDetails policy table false).Yields h (.ok report) →
    ∀ id, Surplus records id →
      ∃ e ∈ h, e.1 = .call (.deleteIds table.table table.idColumn [id])
  /-- An owner loses its last record to a run by itself just where the ids of all its records are
  among them, and none of the deletes is refused. -/
  last : ∀ t t' result, (t.find? table.table).isSome →
    (dedupeDetails policy table false).Yields h result → Tables.truthful.Follows t h t' →
    records = table.records t ∧ ∀ owner, recordsOf owner (table.records t') = [] ↔
      ∀ r ∈ recordsOf owner records, Surplus records r.id ∧ (table.table, r.id) ∉ t.failingDeletes

/-- A run only reads the table, or it deletes what comes up too often in what it has read. -/
def DeletesById (policy : RetryPolicy) (table : DetailTable) (h : Transcript) : Prop :=
  (∀ e ∈ h, e.1 = .call (.fetchDetails table)) ∨
  ∃ opening rest records, h = opening ++ rest ∧
    (Run.fetchDetails policy table).Yields opening (.ok records) ∧
    RemovesSurplus policy table records h

/-- At every point of a run, whatever the store answers, the records that are kept are in danger
just where an id comes up more often than it is kept. -/
theorem dedupeDetails_removes_keep_iff (ha : (dedupeDetails policy table dryRun).Asks h) :
    DeletesById policy table h := by
  rcases asks_dedupeDetails_read ha with hreads | ⟨opening, rest, records, rfl, hfetch, hall⟩
  · exact .inl hreads
  refine .inr ⟨opening, rest, records, rfl, hfetch, ?_⟩
  refine {
    repeated := fun d hd => keep_mem_stale_iff hd
    deletes := fun e he => ?deletes
    deleted := fun report hy id hid => ?deleted
    last := fun t t' result htable hy hf => ?last }
  case deletes =>
    refine (hall e he).imp_right ?_
    rintro ⟨id, hid, hdelete⟩
    exact ⟨id, mem_staleIds_iff_surplus.mp hid, hdelete⟩
  case deleted => exact deletes_of_dedupeDetails hfetch hy id (mem_staleIds_iff_surplus.mpr hid)
  case last =>
    obtain ⟨u, hopening, -⟩ := follows_append.mp hf
    obtain ⟨hrecords, -⟩ := truthful_fetchDetails htable hfetch hopening
    obtain rfl := Except.ok.inj hrecords
    refine ⟨rfl, fun owner => ?_⟩
    obtain ⟨hpurged, -⟩ := truthful_dedupeDetails htable hy hf
    have hgone : ∀ id, id ∈ table.removed t ↔
        Surplus (table.records t) id ∧ (table.table, id) ∉ t.failingDeletes := by
      intro id
      rw [DetailTable.removed, List.mem_filter, DetailTable.stale, mem_staleIds_iff_surplus,
        decide_eq_true_iff]
    have hleft : recordsOf owner (table.records t') =
        (recordsOf owner (table.records t)).filter fun r => r.id ∉ table.removed t := by
      rw [records_purged hpurged, recordsOf, recordsOf, List.filter_comm]
    rw [hleft, List.filter_eq_nil_iff]
    simp only [decide_eq_true_eq, not_not, hgone]

namespace DetailSample

/-- The one institution of a holding, which comes up twice. -/
def repeated : Tables :=
  { tables with tables := [
    ("institutions", {
      columns := ["id", "holding_id", "created_at"]
      rows := [[("holding_id", .str "h1"), ("id", .str "i1")],
        [("holding_id", .str "h1"), ("id", .str "i1")]] })] }

/-- The tables, and no file. -/
def repeatedWorld : World Tables :=
  { world with state := repeated }

/-- What a run by itself asks. -/
def repeatedRun : Transcript :=
  single.transcript (World.answer Tables.store) repeatedWorld

end DetailSample

/-- The one institution is kept and deleted, and the holding has none. -/
theorem dedupeDetails_removes_keep_iff_sample :
    DetailSample.repeatedRun.map (fun e => match e.1 with
      | .call r => r.describe
      | _ => "") =
      ["fetch_details institutions", "delete_ids institutions id i1",
        "fetch_details institutions"] ∧
    (duplicateDetails (DetailSample.institutions.records DetailSample.repeated)).map
      (fun d => (d.owner, d.keep.id)) = [("h1", "i1")] ∧
    Surplus (DetailSample.institutions.records DetailSample.repeated) "i1" ∧
    (DetailSample.single.run (World.answer Tables.store)
      DetailSample.repeatedWorld).2.state.rows "institutions" = [] ∧
    DeletesById {} DetailSample.institutions DetailSample.repeatedRun := by
  have hasks : (dedupeDetails {} DetailSample.institutions false).Asks DetailSample.repeatedRun :=
    (Program.yields_transcript _ DetailSample.single DetailSample.repeatedWorld).asks
  exact ⟨by decide +kernel, by decide +kernel, by decide +kernel, by decide +kernel,
    dedupeDetails_removes_keep_iff hasks⟩

end RegistryDedup
