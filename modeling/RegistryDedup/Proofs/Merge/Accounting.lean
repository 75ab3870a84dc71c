import RegistryDedup.Proofs.Merge.Streak
import RegistryDedup.Proofs.Merge.Survivor

/-!
# What the reports of a run account for

Where a store merges nothing in one transaction, all that a report says of the losers of its group
can be read off the calls that were made for it. Every loser has its own delete, whatever became of
the others, and turns up once in the report, among the deleted or among the failed.

- `Delete`: a loser with all that was asked to delete it. Each delete is of one of three kinds
  (`Delete.kinds`): a row was deleted, no row was there, or the delete was refused.
- `yields_purgeFrom_deletes`: the losers of a group are deleted one by one, each with its own reply.
- `foldl_record`: the outcome for some losers lists those of each kind, in their order.
- `Settled`: what a report says of its losers, by the deletes that were made.
- `Accounted`: a report with what was asked for its group.
- `mergeAll_accounted`: all reports of a run are accounted for.
-/

namespace RegistryDedup

variable {s : Settings} {run : String} {g : DuplicateGroup} {h : Transcript}

/-! ## Deletes -/

/-- A loser with all that was asked to delete it, and the reply after the last attempt. -/
structure Delete where
  id : String
  asked : Transcript
  reply : Reply Nat

namespace Delete

/-- The delete was made so in a table. -/
def Valid (policy : RetryPolicy) (table : EntityTable) (d : Delete) : Prop :=
  (Run.deleteId policy table.table table.idColumn d.id).Yields d.asked d.reply

/-- The delete ended in an error, other than that there is no such row. -/
def Refused (d : Delete) (f : Failure) : Prop :=
  d.reply = .error f ∧ f.isNotFound = false

/-- A row was deleted. -/
def removed (d : Delete) : Bool :=
  match d.reply with
  | .ok n => n != 0
  | .error _ => false

/-- There was no row to delete. -/
def missing (d : Delete) : Bool :=
  match d.reply with
  | .ok n => n == 0
  | .error f => f.isNotFound

/-- What is told of a loser whose delete was refused. -/
def complaint? (d : Delete) : Option (String × String) :=
  match d.reply with
  | .ok _ => none
  | .error f => if f.isNotFound then none else some (d.id, f.message)

/-- A delete is of one of three kinds, which say what an outcome records of it. -/
theorem kinds (d : Delete) :
    (d.removed = true ∧ d.missing = false ∧ d.complaint? = none ∧
      ∀ o : PurgeOutcome, o.record d.id d.reply = { o with deleted := o.deleted ++ [d.id] }) ∨
    (d.removed = false ∧ d.missing = true ∧ d.complaint? = none ∧
      ∀ o : PurgeOutcome, o.record d.id d.reply = { o with absent := o.absent ++ [d.id] }) ∨
    (d.removed = false ∧ d.missing = false ∧ ∃ f, d.Refused f ∧
      d.complaint? = some (d.id, f.message) ∧ ∀ o : PurgeOutcome,
        o.record d.id d.reply = { o with failed := o.failed ++ [(d.id, f.message)] }) := by
  obtain ⟨id, asked, reply⟩ := d
  rcases reply with f | n
  · by_cases hf : f.isNotFound = true
    · exact .inr (.inl ⟨rfl, hf, if_pos hf, fun o => if_pos hf⟩)
    · have hf' := Bool.eq_false_iff.mpr hf
      exact .inr (.inr ⟨rfl, hf', f, ⟨rfl, hf'⟩, if_neg hf, fun o => if_neg hf⟩)
  · cases n with
    | zero => exact .inr (.inl ⟨rfl, rfl, rfl, fun o => rfl⟩)
    | succ n => exact .inl ⟨rfl, rfl, rfl, fun o => rfl⟩

/-- What is told of a loser is that its delete was refused, and why. -/
theorem complaint?_eq_some_iff {d : Delete} {c : String × String} :
    d.complaint? = some c ↔ ∃ f, d.Refused f ∧ c = (d.id, f.message) := by
  constructor
  · intro hc
    rcases d.kinds with ⟨-, -, hnone, -⟩ | ⟨-, -, hnone, -⟩ | ⟨-, -, f, hf, hsome, -⟩
    · cases hnone.symm.trans hc
    · cases hnone.symm.trans hc
    · exact ⟨f, hf, Option.some.inj (hc.symm.trans hsome)⟩
  · rintro ⟨f, ⟨hreply, hf⟩, rfl⟩
    rw [complaint?, hreply]
    exact if_neg (Bool.eq_false_iff.mp hf)

end Delete

/-- The losers whose delete was of a kind, in their order. -/
def idsWhere (kind : Delete → Bool) (deletes : List Delete) : List String :=
  (deletes.filter kind).map (·.id)

theorem idsWhere_cons (kind : Delete → Bool) (d : Delete) (deletes : List Delete) :
    idsWhere kind (d :: deletes) =
      if kind d then d.id :: idsWhere kind deletes else idsWhere kind deletes := by
  rw [idsWhere, List.filter_cons]
  split <;> rfl

/-- What is told of the losers whose delete was refused, in their order. -/
def complaints (deletes : List Delete) : List (String × String) :=
  deletes.filterMap Delete.complaint?

theorem complaints_cons (d : Delete) (deletes : List Delete) :
    complaints (d :: deletes) = d.complaint?.toList ++ complaints deletes := by
  rw [complaints, List.filterMap_cons]
  cases d.complaint? <;> rfl

theorem mem_complaints_iff {deletes : List Delete} {l : String} :
    l ∈ (complaints deletes).map (·.1) ↔ ∃ d ∈ deletes, d.id = l ∧ ∃ f, d.Refused f := by
  simp only [complaints, List.mem_map, List.mem_filterMap, Delete.complaint?_eq_some_iff]
  constructor
  · rintro ⟨_, ⟨d, hd, f, hf, rfl⟩, rfl⟩
    exact ⟨d, hd, rfl, f, hf⟩
  · rintro ⟨d, hd, rfl, f, hf⟩
    exact ⟨_, ⟨d, hd, f, hf, rfl⟩, rfl⟩

/-- The outcome for some more losers adds those of each kind, in their order. -/
theorem foldl_record (deletes : List Delete) (first : PurgeOutcome) :
    deletes.foldl (fun o d => o.record d.id d.reply) first =
      { deleted := first.deleted ++ idsWhere Delete.removed deletes
        absent := first.absent ++ idsWhere Delete.missing deletes
        failed := first.failed ++ complaints deletes } := by
  induction deletes generalizing first with
  | nil => simp [idsWhere, complaints]
  | cons d deletes ih =>
    rw [List.foldl_cons, ih, idsWhere_cons, idsWhere_cons, complaints_cons]
    rcases d.kinds with ⟨hr, hm, hc, hrecord⟩ | ⟨hr, hm, hc, hrecord⟩ |
      ⟨hr, hm, f, -, hc, hrecord⟩ <;>
    simp [hrecord, hr, hm, hc]

/-- Each loser is listed for its delete just once: no loser is lost and none is listed twice. -/
theorem listed_perm (deletes : List Delete) :
    (idsWhere Delete.removed deletes ++ idsWhere Delete.missing deletes ++
      (complaints deletes).map (·.1)).Perm (deletes.map (·.id)) := by
  induction deletes with
  | nil => exact .nil
  | cons d deletes ih =>
    rw [List.map_cons, idsWhere_cons, idsWhere_cons, complaints_cons, List.append_assoc]
    rw [List.append_assoc] at ih
    rcases d.kinds with ⟨hr, hm, hc, -⟩ | ⟨hr, hm, hc, -⟩ | ⟨hr, hm, f, -, hc, -⟩
    · simpa [hr, hm, hc] using ih
    · simpa [hr, hm, hc] using List.perm_middle.trans (ih.cons d.id)
    · rw [← List.append_assoc] at ih ⊢
      simpa [hr, hm, hc] using List.perm_middle.trans (ih.cons d.id)

/-- The losers of a group are deleted one by one, each with a reply of its own. -/
theorem yields_purgeFrom_deletes {policy : RetryPolicy} {table : EntityTable}
    {losers : List String} {first outcome : PurgeOutcome}
    (hy : (purgeFrom policy table losers first).Yields h outcome) :
    ∃ deletes : List Delete, h = (deletes.map (·.asked)).flatten ∧
      deletes.map (·.id) = losers ∧ (∀ d ∈ deletes, d.Valid policy table) ∧
      outcome = deletes.foldl (fun o d => o.record d.id d.reply) first := by
  induction losers generalizing h first with
  | nil =>
    obtain ⟨rfl, rfl⟩ := hy
    exact ⟨[], rfl, rfl, List.forall_mem_nil _, rfl⟩
  | cons l losers ih =>
    rw [purgeFrom, Program.bind_eq, Program.yields_bind] at hy
    obtain ⟨reply, asked, rest, rfl, hcall, hy⟩ := hy
    obtain ⟨deletes, rfl, rfl, hvalid, rfl⟩ := ih hy
    let d : Delete := ⟨l, asked, reply⟩
    have hd : d.Valid policy table := hcall
    exact ⟨d :: deletes, rfl, rfl, List.forall_mem_cons.mpr ⟨hd, hvalid⟩, rfl⟩

/-! ## Reports -/

/-- What a report says of its losers, by the deletes that were made after all else was asked. -/
structure Settled (s : Settings) (asked : Transcript) (report : GroupReport)
    (deletes : List Delete) : Prop where
  made : ∃ front, asked = front ++ (deletes.map (·.asked)).flatten ∧
    ∀ e ∈ front, ¬ e.1.Deletion
  valid : ∀ d ∈ deletes, d.Valid s.retry s.entity
  /-- Each loser has a delete of its own. -/
  each : deletes.map (·.id) = report.losers
  /-- First the losers with a row that was deleted, then those that were gone already. -/
  deleted : report.deleted = idsWhere Delete.removed deletes ++ idsWhere Delete.missing deletes
  failed : report.failed = complaints deletes
  /-- No loser is lost, and none is listed twice. -/
  listed : (report.deleted ++ report.failed.map (·.1)).Perm report.losers
  refused : ∀ l, l ∈ report.failed.map (·.1) ↔ ∃ d ∈ deletes, d.id = l ∧ ∃ f, d.Refused f
  clean : report.status = .reconciled ↔ report.failed = []

/-- What a report says of its losers, with all that was asked for its group. -/
structure LosersTold (s : Settings) (asked : Transcript) (report : GroupReport) : Prop where
  /-- Where all references were moved, every loser was taken up. -/
  settled : report.status = .reconciled ∨ report.status = .notFullyCleaned →
    ∃ deletes, Settled s asked report deletes
  /-- Where they were not, none was. -/
  untouched : ∀ reason, report.status = .notReconciled reason →
    report.deleted = [] ∧ report.failed = []

/-- Nothing was merged in one transaction. -/
def NoneMerged (h : Transcript) : Prop :=
  ∀ plan outcome, ⟨Action.call (.merge plan), Attempt.answered (.ok (some outcome))⟩ ∉ h

/-- A group was merged in one transaction. -/
def mergedOne : Action.interface.Exchange → Bool
  | ⟨.call (.merge _), .answered (.ok (some _))⟩ => true
  | _ => false

theorem noneMerged_iff : NoneMerged h ↔ ∀ e ∈ h, mergedOne e = false := by
  constructor
  · intro hnone e he
    unfold mergedOne
    split
    · exact absurd he (hnone _ _)
    · rfl
  · intro hno plan outcome he
    cases hno _ he

instance : Decidable (NoneMerged h) :=
  decidable_of_iff _ noneMerged_iff.symm

theorem NoneMerged.mono {h' : Transcript} (hnone : NoneMerged h') (hsub : h ⊆ h') :
    NoneMerged h :=
  fun plan outcome he => hnone plan outcome (hsub he)

theorem finished_status (report : GroupReport) :
    report.finished.1.status = if report.failed = [] then .reconciled else .notFullyCleaned := by
  rw [GroupReport.finished]
  simp only [List.isEmpty_iff]

/-- A report that comes after the deletes of a group says what became of its losers. -/
theorem losersTold_finished {report : GroupReport} {moved : Tally} {outcome : PurgeOutcome}
    {front deletes : Transcript}
    (hy : (purgeLosers s.retry s.entity report.losers).Yields deletes outcome)
    (hfront : ∀ e ∈ front, ¬ e.1.Deletion) :
    LosersTold s (front ++ deletes) { report with
      repointed := moved
      deleted := outcome.deleted ++ outcome.absent
      failed := outcome.failed }.finished.1 where
  settled _ := by
    obtain ⟨made, rfl, hids, hvalid, houtcome⟩ := yields_purgeFrom_deletes hy
    rw [foldl_record] at houtcome
    subst houtcome
    refine ⟨made, ?_⟩
    exact { made := ⟨front, rfl, hfront⟩
            valid := hvalid
            each := hids
            deleted := rfl
            failed := rfl
            listed := hids ▸ listed_perm made
            refused := fun l => mem_complaints_iff
            clean := by
              rw [finished_status]
              change (if complaints made = [] then _ else _) = _ ↔ complaints made = []
              split <;> simp [*] }
  untouched reason hstatus := by
    rw [finished_status] at hstatus
    split at hstatus <;> cases hstatus

/-- A group that is not reconciled has a report with no loser that was taken up. -/
theorem losersTold_unreconciled {report : GroupReport} (reason : String) (transient : Bool)
    (hdeleted : report.deleted = []) (hfailed : report.failed = []) :
    LosersTold s h (report.unreconciled reason transient).1 where
  settled := by rintro (hstatus | hstatus) <;> cases hstatus
  untouched _ _ := ⟨hdeleted, hfailed⟩

section

variable {selection : Selection} {counts : List RefCount} {outcome : GroupReport × Bool}

theorem StepwiseCourse.losersTold {front : Transcript}
    (hc : StepwiseCourse s (s.plan g.key selection) (g.selected selection counts) h outcome)
    (hfront : ∀ e ∈ front, ¬ e.1.Deletion) : LosersTold s (front ++ h) outcome.1 := by
  cases hc with
  | stuck _ => exact losersTold_unreconciled _ _ rfl rfl
  | purged hmoves hdeletes =>
    rw [← List.append_assoc]
    refine losersTold_finished hdeletes (List.forall_mem_append.mpr ⟨hfront, fun e he => ?_⟩)
    exact ((only_repointGroup _ _ _ _).yields hmoves e he).not_deletion

theorem PlannedCourse.losersTold {front : Transcript}
    (hc : PlannedCourse s (s.plan g.key selection) (g.selected selection counts) h outcome)
    (hfront : ∀ e ∈ front, ¬ e.1.Deletion) (hnone : NoneMerged h) :
    LosersTold s (front ++ h) outcome.1 := by
  cases hc with
  | failed _ => exact losersTold_unreconciled _ _ rfl rfl
  | merged hmerging =>
    obtain ⟨fails, x, rfl, hx, -⟩ := Run.yields_calling hmerging
    obtain rfl := Attempt.eq_answered hx
    exact absurd (List.mem_append_right _ List.mem_cons_self) (hnone _ _)
  | stepwise hmerging hsteps =>
    rw [← List.append_assoc]
    refine hsteps.losersTold (List.forall_mem_append.mpr ⟨hfront, fun e he => ?_⟩)
    rintro ⟨table, column, ids, hdelete⟩
    cases hdelete.symm.trans (Run.only_calling.yields hmerging e he)

/-- Whatever was answered for a group, its report says what became of its losers. -/
theorem GroupCourse.losersTold (hc : GroupCourse s run g h (.ok outcome))
    (hnone : NoneMerged h) : LosersTold s h outcome.1 := by
  cases hc with
  | uncounted _ => exact losersTold_unreconciled _ _ rfl rfl
  | empty _ _ => exact losersTold_unreconciled _ _ rfl rfl
  | previewed _ _ _ =>
    exact { settled := by rintro (hstatus | hstatus) <;> cases hstatus
            untouched := fun _ hstatus => GroupStatus.noConfusion hstatus }
  | planned hcounting _ _ hwriting hrest =>
    rw [← List.append_assoc] at hnone ⊢
    refine hrest.losersTold (List.forall_mem_append.mpr ⟨fun e he hdelete => ?_,
      fun e he hdelete => ?_⟩) (hnone.mono (List.subset_append_right _ _))
    · exact ((only_countsFor _ _).yields hcounting e he).quiet.not_stepwise (.inr hdelete)
    · exact ((only_writeJournal _ _ _ _).yields hwriting e he).not_stepwise (.inr hdelete)

/-- The survivor of a group is one of its members; the others are its losers, in their order. -/
theorem select_eraseIdx {policy : Policy} {members : List Entity}
    (hs : select policy members counts = some selection) :
    ∃ i, (members.map (·.id))[i]? = some selection.keep.id ∧
      selection.loserIds = (members.map (·.id)).eraseIdx i := by
  obtain ⟨front, back, rfl, hlosers⟩ := select_split hs
  refine ⟨front.length, by simp, ?_⟩
  rw [Selection.loserIds, hlosers, List.map_append, List.map_append, List.map_cons,
    List.eraseIdx_append_of_length_le (by simp)]
  simp

/-- What a report says of its group before the merge. -/
theorem GroupCourse.preview_eq (hc : GroupCourse s run g h (.ok outcome)) :
    outcome.1.preview = g.started.preview ∨
      ∃ counts selection, select s.policy g.members counts = some selection ∧
        outcome.1.preview = (g.selected selection counts).preview := by
  cases hc with
  | uncounted _ => exact .inl rfl
  | empty _ _ => exact .inl rfl
  | previewed _ hselect _ => exact .inr ⟨_, _, hselect, rfl⟩
  | planned _ hselect _ _ hrest => exact .inr ⟨_, _, hselect, hrest.preview⟩

/-- A report has the members of its group. Where one of them is kept, the others are the losers. -/
theorem GroupCourse.split_eq (hc : GroupCourse s run g h (.ok outcome)) :
    outcome.1.key = g.key ∧ outcome.1.members = g.ids ∧
      ∀ keep, outcome.1.keep = some keep →
        ∃ i, g.ids[i]? = some keep ∧ outcome.1.losers = g.ids.eraseIdx i := by
  obtain hpreview | ⟨counts, selection, hselect, hpreview⟩ := hc.preview_eq <;>
    obtain ⟨hkey, hmembers, hkeep, hlosers, -⟩ := GroupPreview.mk.inj hpreview
  · exact ⟨hkey, hmembers, fun keep hsome => nomatch hkeep.symm.trans hsome⟩
  · refine ⟨hkey, hmembers, fun keep hsome => ?_⟩
    obtain rfl := Option.some.inj (hkeep.symm.trans hsome)
    rw [hlosers]
    exact select_eraseIdx hselect

end

/-- A report of a group of some entities, with all that was asked for the group. -/
structure Accounted (s : Settings) (entities : List Entity) (asked : Transcript)
    (report : GroupReport) : Prop extends LosersTold s asked report where
  keyed : report.key ≠ ""
  members : report.members =
    (entities.filter fun e => s.normalizer.key e.name == report.key).map (·.id)
  /-- The losers are the members without one place of the id that is kept. -/
  losers : ∀ keep, report.keep = some keep →
    ∃ i, report.members[i]? = some keep ∧ report.losers = report.members.eraseIdx i

theorem Handling.Valid.accounted {x : Handling} {entities : List Entity} (hx : x.Valid s run)
    (hg : x.group ∈ (Grouping.build s.normalizer entities).candidates)
    (hnone : NoneMerged x.asked) : Accounted s entities x.asked x.report := by
  have hc := yields_mergeGroup hx
  obtain ⟨hkeyed, hmembers, -⟩ := Grouping.mem_candidates.mp hg
  obtain ⟨hkey, hids, hlosers⟩ := hc.split_eq
  dsimp only at hkey hids hlosers
  exact { toLosersTold := hc.losersTold hnone
          keyed := hkey ▸ hkeyed
          members := by rw [hids, hkey, DuplicateGroup.ids, hmembers]
          losers := by rwa [hids] }

/-! ## A whole run -/

/-- Groups with their reports were handled one after the other. -/
theorem GroupsReported.handlings {groups : List DuplicateGroup} {reports : List GroupReport}
    (hc : GroupsReported s run groups h reports) :
    ∃ handled : List Handling, h = (handled.map (·.asked)).flatten ∧
      handled.map (·.group) = groups ∧ handled.map (·.report) = reports ∧
      ∀ x ∈ handled, x.Valid s run := by
  induction hc with
  | nil => exact ⟨[], rfl, rfl, rfl, List.forall_mem_nil _⟩
  | @cons g _ asked _ report transient _ hfirst _ ih =>
    obtain ⟨handled, rfl, rfl, rfl, hvalid⟩ := ih
    let x : Handling := ⟨g, asked, report, transient⟩
    have hx : x.Valid s run := hfirst
    exact ⟨x :: handled, rfl, rfl, rfl, List.forall_mem_cons.mpr ⟨hx, hvalid⟩⟩

/-- All reports of a run, in their order, with what was asked for their groups after the entities
were fetched. -/
structure AllAccounted (s : Settings) (run : String) (entities : List Entity)
    (handled : List Handling) (before : Transcript) (reports : List GroupReport) : Prop where
  fetched : ⟨Action.call (.fetchEntities s.entity), Attempt.answered (.ok entities)⟩ ∈ before
  reported : handled.map (·.report) = reports
  valid : ∀ x ∈ handled, x.Valid s run
  accounted : ∀ x ∈ handled, Accounted s entities x.asked x.report

/-- Whatever a store without transactions answers, all reports of a run are accounted for. -/
theorem mergeAll_accounted {backend : String} {result : Except Stop Summary}
    (hy : (mergeAll s backend run).Yields h result) (hnone : NoneMerged h) :
    reportsOf result = [] ∨ ∃ entities handled before after,
      h = before ++ ((handled.map (·.asked)).flatten ++ after) ∧
      AllAccounted s run entities handled before (reportsOf result) := by
  cases yields_mergeAll hy with
  | troubled => exact .inl rfl
  | @reported checking opening fetching merging closing entities handled _ _ _ hfetch hbegun
      hgroups _ _ =>
    obtain ⟨handled, rfl, rfl, hreports, hvalid⟩ := hgroups.handlings
    refine .inr ⟨entities, handled, checking ++ (opening ++ fetching), closing, by simp, ?_⟩
    refine { fetched := ?_, reported := hreports, valid := hvalid, accounted := fun x hx => ?_ }
    · obtain ⟨fails, y, rfl, hy, -⟩ := Run.yields_calling hfetch
      rw [Attempt.eq_answered hy]
      simp
    · refine (hvalid x hx).accounted (hbegun.subset (List.mem_map_of_mem hx)) (hnone.mono ?_)
      intro e he
      have hmem : e ∈ (handled.map (·.asked)).flatten :=
        List.mem_flatten_of_mem (List.mem_map_of_mem hx) he
      simp [hmem]

namespace Sample

/-- Four regions of one name. -/
def fourOfAKind : Tables where
  clock := instant
  tables := [
    ("regions", {
      columns := ["id", "name"]
      rows := [("r1", "Foo"), ("r2", "foo"), ("r3", "FOO"), ("r4", "foo ")].map fun (id, name) =>
        [("id", .str id), ("name", .str name)] }),
    ("projects", { columns := ["region_id"], rows := [] })]

/-- The row of one loser is gone before it is deleted, and that of another cannot be deleted. -/
def scattered : List Fault :=
  [{ start := "delete_ids regions id r2", failure := .reported .notFound "gone" },
    { start := "delete_ids regions id r3", failure := .reported .constraint "in use" }]

/-- What the run tells of the losers. -/
def scatteredReports : List (List String × List String × List (String × String) × GroupStatus) :=
  (reportsOf (faultyEnd fourOfAKind scattered).1).map fun r =>
    (r.losers, r.deleted, r.failed, r.status)

end Sample

/-- Of three losers one was gone, one could not be deleted, and one was deleted after that. -/
theorem mergeAll_accounted_sample :
    Sample.scatteredReports = [(["r2", "r3", "r4"], ["r4", "r2"],
      [("r3", "constraint violation: in use")], .notFullyCleaned)] ∧
    ∃ entities handled before after,
      Sample.faultyTranscript Sample.fourOfAKind Sample.scattered =
        before ++ ((handled.map (·.asked)).flatten ++ after) ∧
      AllAccounted Sample.settings "run" entities handled before
        (reportsOf (Sample.faultyEnd Sample.fourOfAKind Sample.scattered).1) := by
  have hnone : NoneMerged (Sample.faultyTranscript Sample.fourOfAKind Sample.scattered) := by
    decide +kernel
  have hreports : Sample.scatteredReports = [(["r2", "r3", "r4"], ["r4", "r2"],
      [("r3", "constraint violation: in use")], .notFullyCleaned)] := by
    decide +kernel
  have hsome : reportsOf (Sample.faultyEnd Sample.fourOfAKind Sample.scattered).1 ≠ [] := by
    intro hnil
    rw [Sample.scatteredReports, hnil] at hreports
    cases hreports
  exact ⟨hreports,
    (mergeAll_accounted (Program.yields_transcript _ _ _) hnone).resolve_left hsome⟩

end RegistryDedup
