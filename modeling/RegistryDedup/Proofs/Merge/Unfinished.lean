import RegistryDedup.Proofs.Merge.Ending
import RegistryDedup.Proofs.Merge.Safety
import RegistryDedup.Proofs.Store.Struck

/-!
# Groups that are not reconciled

A group that is reported as not reconciled may have been given up at four places: a count failed,
there was no survivor, the merge in one transaction failed, or a move of references failed. Up to
the third nothing is changed. Moves are made one after the other, and those that were made before
the one that failed are not taken back.

- `MovesCourse`: moves one after the other, with those that were made.
- `Tables.moveAll`: what some moves leave. `rows_moveAll_ne_iff` says when they change a row.
- `mergeAll_unreconciled_changes`: what such a group leaves is what the moves before the failed one
  leave, so that rows are changed just where one of them found a reference.
-/

namespace RegistryDedup

open Interface.Environment

variable {s : Settings} {run : String} {g : DuplicateGroup} {plan : MergePlan}
  {policy : RetryPolicy} {keep : String} {h : Transcript} {t t' : Tables}

/-- Behind a schedule of faults, what changes no table leaves the tables as they are, and so does a
merge in one transaction. -/
theorem struck_unchanged {a : Action} (ha : a.Quiet ∨ a.Notes ∨ ∃ plan, a = .call (.merge plan))
    {x : Action.interface.Answer a} (he : Tables.struck a t x t') : t' = t := by
  cases a with
  | call r =>
    rcases he with ⟨-, rfl⟩ | ⟨-, rfl⟩
    · rcases ha with hquiet | hnotes | ⟨plan, hmerge⟩
      · exact Tables.call_of_not_changes hquiet
      · simp [Action.Notes] at hnotes
      · obtain rfl := Action.call.inj hmerge
        rfl
    · rfl
  | _ => exact he

/-! ## Moves one after the other -/

/-- Moves of references one after the other, up to the first that failed: all of them, what was
asked, and those that were made. References that are not found need no move. -/
inductive MovesCourse (policy : RetryPolicy) (keep : String) :
    List (Dependent × String) → Transcript → List (Dependent × String) →
    Except RepointFailure Unit → Prop where
  | finished : MovesCourse policy keep [] [] [] (.ok ())
  | made {d : Dependent} {l : String} {n : Nat} {moves made : List (Dependent × String)}
      {h h' : Transcript} {result : Except RepointFailure Unit}
      (hcall : (Run.repoint policy d l keep).Yields h (.ok n))
      (hrest : MovesCourse policy keep moves h' made result) :
      MovesCourse policy keep ((d, l) :: moves) (h ++ h') ((d, l) :: made) result
  | absent {d : Dependent} {l : String} {f : Failure} {moves made : List (Dependent × String)}
      {h h' : Transcript} {result : Except RepointFailure Unit}
      (hcall : (Run.repoint policy d l keep).Yields h (.error f)) (hf : f.isNotFound)
      (hrest : MovesCourse policy keep moves h' made result) :
      MovesCourse policy keep ((d, l) :: moves) (h ++ h') made result
  | stuck {d : Dependent} {l : String} {f : Failure} {moves : List (Dependent × String)}
      {h : Transcript} (hcall : (Run.repoint policy d l keep).Yields h (.error f))
      (hf : ¬ f.isNotFound) :
      MovesCourse policy keep ((d, l) :: moves) h [] (.error ⟨d.table, l, f⟩)

namespace MovesCourse

variable {moves moves' made made' : List (Dependent × String)} {h' : Transcript}
  {result : Except RepointFailure Unit}

theorem append (hc : MovesCourse policy keep moves h made (.ok ()))
    (hc' : MovesCourse policy keep moves' h' made' result) :
    MovesCourse policy keep (moves ++ moves') (h ++ h') (made ++ made') result := by
  generalize hfirst : (Except.ok () : Except RepointFailure Unit) = first at hc
  induction hc with
  | finished => exact hc'
  | made hcall _ ih =>
    rw [List.append_assoc]
    exact .made hcall (ih hfirst)
  | absent hcall hf _ ih =>
    rw [List.append_assoc]
    exact .absent hcall hf (ih hfirst)
  | stuck _ _ => cases hfirst

/-- Moves that follow on one that failed are not made. -/
theorem extend {failure : RepointFailure}
    (hc : MovesCourse policy keep moves h made (.error failure))
    (moves' : List (Dependent × String)) :
    MovesCourse policy keep (moves ++ moves') h made (.error failure) := by
  generalize hfirst : (Except.error failure : Except RepointFailure Unit) = first at hc ⊢
  induction hc with
  | finished => cases hfirst
  | made hcall _ ih => exact .made hcall (ih hfirst)
  | absent hcall hf _ ih => exact .absent hcall hf (ih hfirst)
  | stuck hcall hf => exact .stuck hcall hf

end MovesCourse

theorem yields_repointDependent_course {d : Dependent} {losers : List String} {moved : Nat}
    {result : Except RepointFailure Nat}
    (hy : (repointDependent policy keep d losers moved).Yields h result) :
    ∃ made, MovesCourse policy keep (losers.map fun l => (d, l)) h made
      (result.map fun _ => ()) := by
  induction losers generalizing h moved with
  | nil =>
    obtain ⟨rfl, rfl⟩ := hy
    exact ⟨[], .finished⟩
  | cons l losers ih =>
    rw [repointDependent, Program.bind_eq, Program.yields_bind] at hy
    obtain ⟨reply, h₁, h₂, rfl, hcall, hy⟩ := hy
    cases reply with
    | ok n =>
      obtain ⟨made, hrest⟩ := ih hy
      exact ⟨_, .made hcall hrest⟩
    | error f =>
      dsimp only at hy
      split at hy
      · next hf =>
        obtain ⟨made, hrest⟩ := ih hy
        exact ⟨_, .absent hcall hf hrest⟩
      · next hf =>
        obtain ⟨rfl, rfl⟩ := hy
        rw [List.append_nil]
        exact ⟨_, .stuck hcall hf⟩

theorem yields_repointFrom_course {losers : List String} {dependents : List Dependent}
    {moved : Tally} {result : Except RepointFailure Tally}
    (hy : (repointFrom policy keep losers dependents moved).Yields h result) :
    ∃ made, MovesCourse policy keep (dependents.flatMap fun d => losers.map fun l => (d, l)) h made
      (result.map fun _ => ()) := by
  induction dependents generalizing h moved with
  | nil =>
    obtain ⟨rfl, rfl⟩ := hy
    exact ⟨[], .finished⟩
  | cons d dependents ih =>
    rw [repointFrom, Program.bind_eq, Program.yields_bind] at hy
    obtain ⟨reply, h₁, h₂, rfl, hfirst, hy⟩ := hy
    obtain ⟨made, hc⟩ := yields_repointDependent_course hfirst
    rw [List.flatMap_cons]
    cases reply with
    | ok n =>
      obtain ⟨made', hc'⟩ := ih hy
      exact ⟨_, hc.append hc'⟩
    | error failure =>
      obtain ⟨rfl, rfl⟩ := hy
      rw [List.append_nil]
      exact ⟨_, hc.extend _⟩

/-- A move was answered with a row that is not there. -/
def NotThere (h : Transcript) (keep : String) (move : Dependent × String) : Prop :=
  ∃ f : Failure, f.isNotFound ∧
    ⟨Action.call (.repoint move.1.table move.1.column move.2 keep),
      Attempt.answered (.error f)⟩ ∈ h

/-- Where a move failed, those before it were made, or there was nothing to move. -/
theorem MovesCourse.stuck_at {moves made : List (Dependent × String)} {failure : RepointFailure}
    (hc : MovesCourse policy keep moves h made (.error failure)) :
    ∃ front d l back f, moves = front ++ (d, l) :: back ∧ failure = ⟨d.table, l, f⟩ ∧
      ¬ f.isNotFound ∧ made.Sublist front ∧ ∀ m ∈ front, m ∈ made ∨ NotThere h keep m := by
  generalize hresult : (Except.error failure : Except RepointFailure Unit) = result at hc
  induction hc with
  | finished => cases hresult
  | @made d l n moves made h₁ h₂ _ hcall _ ih =>
    obtain ⟨front, d', l', back, f, rfl, hfailure, hf, hsub, hfront⟩ := ih hresult
    refine ⟨(d, l) :: front, d', l', back, f, rfl, hfailure, hf, hsub.cons_cons _, ?_⟩
    refine List.forall_mem_cons.mpr ⟨.inl List.mem_cons_self, fun m hm => ?_⟩
    refine (hfront m hm).imp (List.mem_cons_of_mem _) ?_
    rintro ⟨f', hf', hmem⟩
    exact ⟨f', hf', List.mem_append_right _ hmem⟩
  | @absent d l f' moves made h₁ h₂ _ hcall hf' _ ih =>
    obtain ⟨front, d', l', back, f, rfl, hfailure, hf, hsub, hfront⟩ := ih hresult
    refine ⟨(d, l) :: front, d', l', back, f, rfl, hfailure, hf, hsub.cons _, ?_⟩
    refine List.forall_mem_cons.mpr ⟨.inr ?_, fun m hm => ?_⟩
    · obtain ⟨fails, x, rfl, hx, -⟩ := Run.yields_calling hcall
      refine ⟨f', hf', List.mem_append_left _ (List.mem_append_right _ ?_)⟩
      cases x with
      | late =>
        cases hx
        exact absurd hf' Bool.false_ne_true
      | answered reply =>
        obtain rfl : reply = _ := hx
        exact List.mem_cons_self
    · refine (hfront m hm).imp id ?_
      rintro ⟨f'', hf'', hmem⟩
      exact ⟨f'', hf'', List.mem_append_right _ hmem⟩
  | @stuck d l f moves _ hcall hf =>
    cases hresult
    exact ⟨[], d, l, moves, f, rfl, rfl, hf, .slnil, by simp⟩

/-! ## What moves leave -/

/-- The tables after some moves. -/
def Tables.moveAll (keep : String) (moves : List (Dependent × String)) (t : Tables) : Tables :=
  moves.foldl (fun t m => (t.repoint m.1.table m.1.column m.2 keep).2) t

/-- A move that failed leaves the tables as they are. -/
theorem struck_repoint_error {d : Dependent} {l : String} {f : Failure}
    (hy : (Run.repoint policy d l keep).Yields h (.error f)) (hf : Tables.struck.Follows t h t') :
    t' = t := by
  rcases struck_calling (by simp) hy hf with ⟨hreply, rfl⟩ | ⟨-, rfl⟩
  · exact (Tables.repoint_eq_error hreply.symm).2
  · rfl

/-- The moves that were made are all that has changed the tables. -/
theorem MovesCourse.tables {moves made : List (Dependent × String)}
    {result : Except RepointFailure Unit} (hc : MovesCourse policy keep moves h made result)
    (hf : Tables.struck.Follows t h t') : t' = t.moveAll keep made := by
  induction hc generalizing t with
  | finished => exact hf
  | made hcall _ ih =>
    obtain ⟨u, hf, hf'⟩ := follows_append.mp hf
    rcases struck_calling (by simp) hcall hf with ⟨-, rfl⟩ | ⟨⟨f, hok⟩, -⟩
    · exact ih hf'
    · cases hok
  | absent hcall _ _ ih =>
    obtain ⟨u, hf, hf'⟩ := follows_append.mp hf
    obtain rfl := struck_repoint_error hcall hf
    exact ih hf'
  | stuck hcall _ => exact struck_repoint_error hcall hf

/-- A text other than that of the entity that is kept was in its cell before, and no move was made
from it. -/
theorem Tables.text_of_moveAll {moves : List (Dependent × String)} {table column value : String}
    (hvalue : value ≠ keep) {row' : Row} (hrow' : row' ∈ (t.moveAll keep moves).rows table)
    (htext : row'.text? column = some value) :
    (∃ row ∈ t.rows table, row.text? column = some value) ∧
      ∀ m ∈ moves, m.1.table = table → m.1.column = column → m.2 ≠ value := by
  induction moves generalizing t with
  | nil => exact ⟨⟨row', hrow', htext⟩, by simp⟩
  | cons m moves ih =>
    obtain ⟨⟨row, hrow, hrowText⟩, hrest⟩ := ih hrow'
    rw [Tables.rows_repoint] at hrow
    by_cases htable : table = m.1.table
    · rw [if_pos htable] at hrow
      obtain ⟨old, hold, rfl⟩ := List.mem_map.mp hrow
      obtain ⟨holdText, hother⟩ := Row.text?_of_moved hvalue hrowText
      refine ⟨⟨old, htable ▸ hold, holdText⟩, List.forall_mem_cons.mpr ⟨?_, hrest⟩⟩
      intro _ hcolumn heq
      exact hother hcolumn.symm heq.symm
    · rw [if_neg htable] at hrow
      refine ⟨⟨row, hrow, hrowText⟩, List.forall_mem_cons.mpr ⟨?_, hrest⟩⟩
      intro heq
      exact absurd heq.symm htable

/-- Where no move finds a reference, the next one starts from the same rows. -/
theorem Tables.rows_moveAll_of_absent {moves : List (Dependent × String)}
    (hnone : ∀ m ∈ moves, ∀ row ∈ t.rows m.1.table, row.text? m.1.column ≠ some m.2)
    (table : String) : (t.moveAll keep moves).rows table = t.rows table := by
  induction moves generalizing t with
  | nil => rfl
  | cons m moves ih =>
    rw [List.forall_mem_cons] at hnone
    have hfirst := (Tables.noted_repoint hnone.1 keep).rows
    refine (ih fun m' hm' row hrow => ?_).trans (hfirst table)
    rw [hfirst] at hrow
    exact hnone.2 m' hm' row hrow

/-- Moves from other entities than the one that is kept change a row just where one of them finds a
reference in the tables at the start. -/
theorem Tables.rows_moveAll_ne_iff {moves : List (Dependent × String)}
    (hkeep : ∀ m ∈ moves, m.2 ≠ keep) :
    (∃ table, (t.moveAll keep moves).rows table ≠ t.rows table) ↔
      ∃ m ∈ moves, ∃ row ∈ t.rows m.1.table, row.text? m.1.column = some m.2 := by
  constructor
  · rintro ⟨table, hchanged⟩
    by_contra hnone
    refine hchanged (rows_moveAll_of_absent (fun m hm row hrow htext => ?_) table)
    exact hnone ⟨m, hm, row, hrow, htext⟩
  · rintro ⟨m, hm, row, hrow, htext⟩
    refine ⟨m.1.table, fun heq => ?_⟩
    rw [← heq] at hrow
    exact (Tables.text_of_moveAll (hkeep m hm) hrow htext).2 m hm rfl rfl rfl

/-! ## Groups that are not reconciled -/

/-- What a group leaves that is reported as not reconciled, and was begun at some tables. -/
structure Unfinished (s : Settings) (g : DuplicateGroup) (report : GroupReport) (reason : String)
    (asked : Transcript) (keep : String) (made : List (Dependent × String)) (t t' : Tables) :
    Prop where
  /-- Nothing but the moves that were made has changed the tables. -/
  tables : t' = t.moveAll keep made
  /-- The group came to no move, or it got stuck at one, and those before it were made. -/
  reached : (made = [] ∧ ∀ e ∈ asked, ¬ e.1.Stepwise) ∨
    ∃ front d l back f, report.keep = some keep ∧
      (s.dependents.flatMap fun d => report.losers.map fun l => (d, l)) =
        front ++ (d, l) :: back ∧
      reason = RepointFailure.message ⟨d.table, l, f⟩ ∧ ¬ f.isNotFound ∧
      made.Sublist front ∧ ∀ m ∈ front, m ∈ made ∨ NotThere asked keep m
  /-- A row is changed just where one of the moves found a reference. -/
  changed : g.ids.Nodup → ((∃ table, t'.rows table ≠ t.rows table) ↔
    ∃ m ∈ made, ∃ row ∈ t.rows m.1.table, row.text? m.1.column = some m.2)

namespace Unfinished

variable {report : GroupReport} {reason : String} {asked : Transcript}

/-- A group that came to no move. -/
theorem of_unchanged (hsteps : ∀ e ∈ asked, ¬ e.1.Stepwise) :
    Unfinished s g report reason asked keep [] t t where
  tables := rfl
  reached := .inl ⟨rfl, hsteps⟩
  changed _ := by simp

/-- A group that got stuck at a move, after others that were made. -/
theorem of_moves {before moves : Transcript} {selection : Selection} {counts : List RefCount}
    {failure : RepointFailure}
    (hselect : select s.policy g.members counts = some selection)
    (hmoves : (repointGroup s.retry selection.keep.id selection.loserIds s.dependents).Yields moves
      (.error failure))
    (hf : Tables.struck.Follows t moves t') :
    ∃ made, Unfinished s g
      { g.selected selection counts with status := .notReconciled failure.message }
      failure.message (before ++ moves) selection.keep.id made t t' := by
  obtain ⟨made, hc⟩ := yields_repointFrom_course hmoves
  obtain ⟨front, d, l, back, f, hall, rfl, hf', hsub, hfront⟩ := hc.stuck_at
  refine ⟨made, hc.tables hf, .inr ?_, fun hids => ?_⟩
  · refine ⟨front, d, l, back, f, rfl, hall, rfl, hf', hsub, fun m hm => ?_⟩
    refine (hfront m hm).imp id ?_
    rintro ⟨f', hthere, hmem⟩
    exact ⟨f', hthere, List.mem_append_right _ hmem⟩
  · rw [hc.tables hf]
    refine Tables.rows_moveAll_ne_iff fun m hm heq => ?_
    -- Each move is from a loser, and the entity that is kept is none.
    have hmem := List.mem_append_left ((d, l) :: back) (hsub.subset hm)
    rw [← hall, List.mem_flatMap] at hmem
    obtain ⟨d', -, hmem⟩ := hmem
    obtain ⟨l', hl', rfl⟩ := List.mem_map.mp hmem
    exact keep_not_mem_loserIds hselect hids (heq ▸ hl')

end Unfinished

/-- A group that was merged is not reported as one that was not. -/
theorem GroupReport.finished_status_ne (report : GroupReport) (reason : String) :
    report.finished.1.status ≠ .notReconciled reason := by
  rw [finished]
  dsimp only
  split <;> simp

/-- A group whose survivor is chosen, from its merge in one transaction on. -/
theorem PlannedCourse.unfinished {before : Transcript} {selection : Selection}
    {counts : List RefCount} {outcome : GroupReport × Bool} {reason : String}
    (hc : PlannedCourse s (s.plan g.key selection) (g.selected selection counts) h outcome)
    (hselect : select s.policy g.members counts = some selection)
    (hbefore : ∀ e ∈ before, ¬ e.1.Stepwise)
    (hstatus : outcome.1.status = .notReconciled reason) (hf : Tables.struck.Follows t h t') :
    ∃ keep made, Unfinished s g outcome.1 reason (before ++ h) keep made t t' := by
  have hmerges : ∀ {merging : Transcript} {reply : Reply (Option MergeOutcome)},
      (Run.merge s.retry (s.plan g.key selection)).Yields merging reply →
      ∀ e ∈ merging, e.1 = .call (.merge (s.plan g.key selection)) :=
    fun hy => Run.only_calling.yields hy
  cases hc with
  | failed hmerging =>
    obtain rfl := hf.unchanged fun e he _ _ =>
      struck_unchanged (.inr (.inr ⟨_, hmerges hmerging e he⟩))
    refine ⟨"", [], .of_unchanged fun e he => ?_⟩
    rcases List.mem_append.mp he with he | he
    · exact hbefore e he
    · rw [hmerges hmerging e he]
      simp [Action.Stepwise, Action.Deletion]
  | merged _ => exact absurd hstatus (GroupReport.finished_status_ne _ _)
  | @stepwise merging steps _ hmerging hsteps =>
    obtain ⟨u, hf, hf'⟩ := follows_append.mp hf
    obtain rfl := hf.unchanged fun e he _ _ =>
      struck_unchanged (.inr (.inr ⟨_, hmerges hmerging e he⟩))
    cases hsteps with
    | stuck hmoves =>
      obtain rfl := GroupStatus.notReconciled.inj hstatus
      rw [← List.append_assoc]
      exact ⟨_, Unfinished.of_moves hselect hmoves hf'⟩
    | purged _ _ => exact absurd hstatus (GroupReport.finished_status_ne _ _)

/-- What a group leaves that is reported as not reconciled. -/
theorem GroupCourse.unfinished {outcome : GroupReport × Bool} {reason : String}
    (hc : GroupCourse s run g h (.ok outcome))
    (hstatus : outcome.1.status = .notReconciled reason) (hf : Tables.struck.Follows t h t') :
    ∃ keep made, Unfinished s g outcome.1 reason h keep made t t' := by
  have hcounting : ∀ {counting : Transcript} {result : Except CountFailure (List RefCount)},
      (countsFor s g).Yields counting result → ∀ e ∈ counting, e.1.Quiet := by
    intro counting result hy e he
    exact ((only_countsFor s g).yields hy e he).quiet
  have hquiet : (∀ e ∈ h, e.1.Quiet) →
      ∃ keep made, Unfinished s g outcome.1 reason h keep made t t' := by
    intro hh
    obtain rfl := hf.unchanged fun e he _ _ => struck_unchanged (.inl (hh e he))
    exact ⟨"", [], .of_unchanged fun e he => (hh e he).not_stepwise⟩
  cases hc with
  | uncounted hcounts => exact hquiet (hcounting hcounts)
  | empty hcounts _ => exact hquiet (hcounting hcounts)
  | previewed hcounts _ _ => exact hquiet (hcounting hcounts)
  | @planned counting writing rest counts selection _ hcounts hselect _ hwriting hrest =>
    have hnotes := (only_writeJournal _ _ _ _).yields hwriting
    obtain ⟨u, hf, hf'⟩ := follows_append.mp hf
    obtain ⟨v, hf', hf''⟩ := follows_append.mp hf'
    obtain rfl := hf.unchanged fun e he _ _ => struck_unchanged (.inl (hcounting hcounts e he))
    obtain rfl := hf'.unchanged fun e he _ _ => struck_unchanged (.inr (.inl (hnotes e he)))
    rw [← List.append_assoc]
    refine hrest.unfinished hselect (List.forall_mem_append.mpr ⟨?_, ?_⟩) hstatus hf''
    · exact fun e he => (hcounting hcounts e he).not_stepwise
    · exact fun e he => (hnotes e he).not_stepwise

/-- A report of a result whose group was not reconciled, with what the group left. -/
def LeftUnfinished (s : Settings) (run : String) (h : Transcript) (t t' : Tables)
    (report : GroupReport) (reason : String) : Prop :=
  ∃ g before asked after transient u u', h = before ++ (asked ++ after) ∧
    (mergeGroup s run g).Yields asked (.ok (report, transient)) ∧
    Tables.struck.Follows t before u ∧ Tables.struck.Follows u asked u' ∧
    Tables.struck.Follows u' after t' ∧
    ∃ keep made, Unfinished s g report reason asked keep made u u'

/-- In a run on tables in memory behind any schedule of faults, a group that is reported as not
reconciled leaves what the moves before the failed one leave. Rows are changed just where one of
those moves found a reference, although the status says that nothing was written. -/
theorem mergeAll_unreconciled_changes {backend : String} {result : Except Stop Summary}
    (hy : (mergeAll s backend run).Yields h result) (hf : Tables.struck.Follows t h t')
    {report : GroupReport} (hreport : report ∈ reportsOf result) {reason : String}
    (hstatus : report.status = .notReconciled reason) :
    LeftUnfinished s run h t t' report reason := by
  obtain ⟨g, before, asked, after, transient, rfl, hasked⟩ :=
    (yields_mergeAll hy).exists_group hreport
  obtain ⟨u, hbefore, hf⟩ := follows_append.mp hf
  obtain ⟨u', hasks, hafter⟩ := follows_append.mp hf
  exact ⟨g, before, asked, after, transient, u, u', rfl, hasked, hbefore, hasks, hafter,
    (yields_mergeGroup hasked).unfinished hstatus hasks⟩

namespace Sample

/-- Two tables with references to the regions. -/
def twice : Settings :=
  { settings with dependents := [⟨"projects", "region_id"⟩, ⟨"holdings", "region_id"⟩] }

/-- The regions and projects of before, and a holding; moves in the holdings fail. -/
def struckWorld : World (Faulty Tables) where
  state := {
    inner := tables.put "holdings"
      { columns := ["region_id"], rows := [[("region_id", .str "r2")]] }
    faults := [{ start := "repoint holdings", failure := .reported .other "boom" }] }
  directory := ⟨"/", []⟩
  clock := instant
  process := 1

/-- A run in that world. -/
def struckTranscript : Transcript :=
  (mergeAll twice "memory" "run").transcript (World.answer (Faulty.store Tables.store)) struckWorld

/-- Its result and the world afterwards. -/
def struckEnd : Except Stop Summary × World (Faulty Tables) :=
  World.perform (Faulty.store Tables.store) (mergeAll twice "memory" "run") struckWorld

/-- What it reports. -/
def struckReport : GroupReport where
  key := "FOO"
  members := ["r1", "r2"]
  keep := some "r1"
  losers := ["r2"]
  status := .notReconciled "repoint of holdings from r2 failed: other: boom"

end Sample

/-- The project was moved from a group that is reported as not reconciled. -/
theorem mergeAll_unreconciled_changes_sample :
    reportsOf Sample.struckEnd.1 = [Sample.struckReport] ∧
    (Sample.struckWorld.state.inner.rows "projects").map (·.text? "region_id") = [some "r2"] ∧
    (Sample.struckEnd.2.state.inner.rows "projects").map (·.text? "region_id") = [some "r1"] ∧
    LeftUnfinished Sample.twice "run" Sample.struckTranscript Sample.struckWorld.state.inner
      Sample.struckEnd.2.state.inner Sample.struckReport
      "repoint of holdings from r2 failed: other: boom" := by
  have hreports : reportsOf Sample.struckEnd.1 = [Sample.struckReport] := by decide +kernel
  refine ⟨hreports, by decide +kernel, by decide +kernel, ?_⟩
  exact mergeAll_unreconciled_changes (Program.yields_transcript _ _ _)
    (Program.follows_transcript (·.state.inner) struck_answer _ _)
    (hreports ▸ List.mem_singleton.mpr rfl) rfl

end RegistryDedup
