import RegistryDedup.Proofs.Merge.Counting
import RegistryDedup.Proofs.Merge.Order
import RegistryDedup.Proofs.Sql.Course

/-!
# The numbers of both ways to merge

A group that is merged in a transaction and one that is merged by single calls do the same work. If
every statement and every call changes as many rows as its change is said to, both delete the same
losers and both have a number for the same tables, in the same order. The numbers themselves come
from two different rules: a transaction replaces the number of a table with each dependent in it,
where the single calls add to it. Of a table with several dependents a transaction therefore tells
the rows of the last one only.

- `Sql.Affects`, `Run.Affects`: results that tell the numbers of rows that changes are said to have.
- `SameWork`: what both ways tell of the same work, with the condition for them to agree.
-/

namespace RegistryDedup

namespace MergePlan

/-- How many rows the moves of a dependent change. -/
def rowsMoved (plan : MergePlan) (count : Sql.Change → Nat) (d : Dependent) : Nat :=
  (plan.losers.map fun l => count (.move d.table d.column l plan.keep)).sum

/-- The dependents in a table. -/
def dependentsIn (plan : MergePlan) (table : String) : List Dependent :=
  plan.dependents.filter (·.table = table)

end MergePlan

/-! ## Statements -/

namespace Sql

variable {plan : MergePlan} {count : Change → Nat} {h : Dialogue}

/-- Statements that succeeded, each with the number of rows that its change has. -/
def Affects (count : Change → Nat) (h : Dialogue) : Prop :=
  ∀ c result, sent c.query result ∈ h → result = .ok (.affected (count c))

theorem Affects.sublist {h' : Dialogue} (hh : Affects count h) (hsub : h' ⊆ h) :
    Affects count h' :=
  fun c result hmem => hh c result (hsub hmem)

theorem yields_execute_of_affects {c : Change} {reply : Reply Nat}
    (hy : (execute c.query).Yields h reply) (hh : Affects count h) : reply = .ok (count c) := by
  obtain ⟨result, rfl, rfl⟩ := yields_execute hy
  rw [hh c result List.mem_cons_self]
  rfl

theorem yields_moveReferences_of_affects {keep : String} {d : Dependent} {losers : List String}
    {n : Nat} {reply : Reply Nat} (hy : (moveReferences keep d losers n).Yields h reply)
    (hh : Affects count h) :
    reply = .ok (n + (losers.map fun l => count (.move d.table d.column l keep)).sum) := by
  induction losers generalizing n h with
  | nil => exact hy.2
  | cons l losers ih =>
    obtain ⟨_, h₁, h₂, rfl, hexecute, hrest⟩ := Program.yields_bind.mp hy
    obtain rfl := yields_execute_of_affects (c := .move d.table d.column l keep) hexecute
      (hh.sublist (List.subset_append_left _ _))
    rw [ih hrest (hh.sublist (List.subset_append_right _ _)), List.map_cons, List.sum_cons,
      Nat.add_assoc]

theorem yields_moveAll_of_affects {dependents : List Dependent} {moved : Tally}
    {reply : Reply Tally} (hy : (moveAll plan.keep plan.losers dependents moved).Yields h reply)
    (hh : Affects count h) :
    reply = .ok (dependents.foldl
      (fun tally d => Tally.set d.table (plan.rowsMoved count d) tally) moved) := by
  induction dependents generalizing moved h with
  | nil => exact hy.2
  | cons d dependents ih =>
    obtain ⟨_, h₁, h₂, rfl, hmove, hrest⟩ := Program.yields_bind.mp hy
    obtain rfl := yields_moveReferences_of_affects hmove
      (hh.sublist (List.subset_append_left _ _))
    rw [Nat.zero_add] at hrest
    exact ih hrest (hh.sublist (List.subset_append_right _ _))

/-- Where every delete succeeds, no loser is left. -/
theorem Deletes.of_affects {losers gone : List String} {refused : List (String × SqlError)}
    {fault : Option SqlError} (hdeletes : Deletes plan losers h gone refused fault)
    (hh : Affects count h) : gone = losers ∧ refused = [] ∧ fault = none := by
  induction hdeletes with
  | done => exact ⟨rfl, rfl, rfl⟩
  | deleted _ ih =>
    obtain ⟨rfl, hrest⟩ := ih (hh.sublist fun e he => by simp [he])
    exact ⟨rfl, hrest⟩
  | refused _ _ _ => cases hh _ _ (.tail _ (.head _))
  | abandoned _ => cases hh _ _ (.tail _ (.head _))

theorem yields_merge_of_affects {reply : Reply (Option MergeOutcome)}
    (hy : (merge plan).Yields h reply) (hh : Affects count h) :
    reply = .ok (some ⟨plan.dependents.foldl
      (fun tally d => Tally.set d.table (plan.rowsMoved count d) tally) [], plan.losers, []⟩) := by
  obtain ⟨_, h₁, h₂, rfl, htransaction, hreply⟩ := Program.yields_bind.mp hy
  obtain ⟨_, rfl, hbegun⟩ := yields_control htransaction
  obtain ⟨_, h₃, h₄, rfl, hstatements, hcontrol⟩ := Program.yields_bind.mp hbegun
  obtain ⟨_, h₅, h₆, rfl, hmoves, hlosers⟩ := Program.yields_bind.mp hstatements
  obtain rfl := yields_moveAll_of_affects hmoves (hh.sublist fun e he => by simp [he])
  obtain ⟨gone, refused, fault, hdeletes, rfl⟩ := deletes_of_yields hlosers
  obtain ⟨rfl, rfl, rfl⟩ := hdeletes.of_affects (hh.sublist fun e he => by simp [he])
  obtain ⟨_, rfl, rfl, rfl⟩ := yields_control hcontrol
  exact hreply.2

end Sql

/-! ## Calls -/

namespace Run

variable {plan : MergePlan} {count : Sql.Change → Nat} {policy : RetryPolicy} {h : Transcript}

/-- Calls that succeeded at once, each with the number of rows that its change has. -/
structure Affects (count : Sql.Change → Nat) (h : Transcript) : Prop where
  repoint : ∀ table column source target (x : Attempt Nat),
    ⟨Action.call (.repoint table column source target), x⟩ ∈ h →
      x = .answered (.ok (count (.move table column source target)))
  delete : ∀ table column id (x : Attempt Nat),
    ⟨Action.call (.deleteIds table column [id]), x⟩ ∈ h →
      x = .answered (.ok (count (.remove table column id)))

theorem Affects.sublist {h' : Transcript} (hh : Affects count h) (hsub : h' ⊆ h) :
    Affects count h' :=
  ⟨fun _ _ _ _ x hmem => hh.repoint _ _ _ _ x (hsub hmem),
    fun _ _ _ x hmem => hh.delete _ _ _ x (hsub hmem)⟩

theorem yields_repoint_of_affects {d : Dependent} {source target : String} {reply : Reply Nat}
    (hy : (Run.repoint policy d source target).Yields h reply) (hh : Affects count h) :
    reply = .ok (count (.move d.table d.column source target)) := by
  obtain ⟨fails, x, rfl, rfl, -⟩ := yields_calling hy
  rw [hh.repoint _ _ _ _ x (List.mem_append_right _ List.mem_cons_self)]
  rfl

theorem yields_deleteId_of_affects {table column id : String} {reply : Reply Nat}
    (hy : (Run.deleteId policy table column id).Yields h reply) (hh : Affects count h) :
    reply = .ok (count (.remove table column id)) := by
  obtain ⟨fails, x, rfl, rfl, -⟩ := yields_calling hy
  rw [hh.delete _ _ _ x (List.mem_append_right _ List.mem_cons_self)]
  rfl

theorem yields_repointDependent_of_affects {keep : String} {d : Dependent} {losers : List String}
    {n : Nat} {reply : Except RepointFailure Nat}
    (hy : (repointDependent policy keep d losers n).Yields h reply) (hh : Affects count h) :
    reply = .ok (n + (losers.map fun l => count (.move d.table d.column l keep)).sum) := by
  induction losers generalizing n h with
  | nil => exact hy.2
  | cons l losers ih =>
    obtain ⟨_, h₁, h₂, rfl, hcall, hrest⟩ := Program.yields_bind.mp hy
    obtain rfl := yields_repoint_of_affects hcall (hh.sublist (List.subset_append_left _ _))
    rw [ih hrest (hh.sublist (List.subset_append_right _ _)), List.map_cons, List.sum_cons,
      Nat.add_assoc]

theorem yields_repointFrom_of_affects {dependents : List Dependent} {moved : Tally}
    {reply : Except RepointFailure Tally}
    (hy : (repointFrom policy plan.keep plan.losers dependents moved).Yields h reply)
    (hh : Affects count h) :
    reply = .ok (dependents.foldl
      (fun tally d => Tally.add d.table (plan.rowsMoved count d) tally) moved) := by
  induction dependents generalizing moved h with
  | nil => exact hy.2
  | cons d dependents ih =>
    obtain ⟨_, h₁, h₂, rfl, hmove, hrest⟩ := Program.yields_bind.mp hy
    obtain rfl := yields_repointDependent_of_affects hmove
      (hh.sublist (List.subset_append_left _ _))
    rw [Nat.zero_add] at hrest
    exact ih hrest (hh.sublist (List.subset_append_right _ _))

/-- Where every delete succeeds, each loser is deleted or was gone already. -/
theorem yields_purgeFrom_of_affects {table : EntityTable} {losers : List String}
    {outcome purged : PurgeOutcome} (hy : (purgeFrom policy table losers outcome).Yields h purged)
    (hh : Affects count h) :
    (purged.deleted ++ purged.absent).Perm (outcome.deleted ++ outcome.absent ++ losers) ∧
      purged.failed = outcome.failed := by
  induction losers generalizing outcome h with
  | nil =>
    obtain ⟨-, rfl⟩ := hy
    rw [List.append_nil]
    exact ⟨.refl _, rfl⟩
  | cons l losers ih =>
    obtain ⟨_, h₁, h₂, rfl, hcall, hrest⟩ := Program.yields_bind.mp hy
    obtain rfl := yields_deleteId_of_affects hcall (hh.sublist (List.subset_append_left _ _))
    obtain ⟨hperm, hfailed⟩ := ih hrest (hh.sublist (List.subset_append_right _ _))
    cases hcount : count (.remove table.table table.idColumn l) with
    | zero =>
      rw [hcount] at hperm hfailed
      refine ⟨hperm.trans (.of_eq ?_), hfailed⟩
      simp [PurgeOutcome.record]
    | succ n =>
      rw [hcount] at hperm hfailed
      refine ⟨hperm.trans ?_, hfailed⟩
      simp only [PurgeOutcome.record, List.append_assoc, List.singleton_append]
      exact .append_left _ List.perm_middle.symm

end Run

/-! ## Both ways -/

/-- What a merge in a transaction and one by single calls tell of the same work. -/
structure SameWork (plan : MergePlan) (count : Sql.Change → Nat) (outcome : MergeOutcome)
    (moved : Tally) (purged : PurgeOutcome) : Prop where
  tables : outcome.repointed.map (·.1) = (plan.dependents.map (·.table)).eraseDups
  moved_tables : moved.map (·.1) = (plan.dependents.map (·.table)).eraseDups
  /-- A transaction tells the rows of the last dependent in a table. -/
  repointed_get : ∀ table, outcome.repointed.get table =
    ((plan.dependentsIn table).map (plan.rowsMoved count)).getLast?.getD 0
  /-- The calls tell those of all dependents in it. -/
  moved_get : ∀ table, moved.get table =
    ((plan.dependentsIn table).map (plan.rowsMoved count)).sum
  repointed_eq_iff : outcome.repointed = moved ↔
    ∀ table, ∀ d ∈ (plan.dependentsIn table).dropLast, plan.rowsMoved count d = 0
  deleted : outcome.deleted = plan.losers ∧ outcome.failed = []
  purged : (purged.deleted ++ purged.absent).Perm plan.losers ∧ purged.failed = []

/-- **Both ways to merge agree just where no table has rows moved in two columns.** If no statement
and no call fails, and each changes as many rows as is set for its change, both end, both are rid of
every loser, and both tell of the same tables in the same order. The numbers that they tell are the
same just if, of the dependents in each table, only the last one has rows to move. -/
theorem merge_agrees_iff {plan : MergePlan} {count : Sql.Change → Nat} {policy : RetryPolicy}
    {h : Sql.Dialogue} {reply : Reply (Option MergeOutcome)}
    (hmerge : (Sql.merge plan).Yields h reply) (hh : Sql.Affects count h)
    {hmoves : Transcript} {moved : Except RepointFailure Tally}
    (hrepoint : (repointGroup policy plan.keep plan.losers plan.dependents).Yields hmoves moved)
    (hhmoves : Run.Affects count hmoves) {hdeletes : Transcript} {purged : PurgeOutcome}
    (hpurge : (purgeLosers policy plan.entity plan.losers).Yields hdeletes purged)
    (hhdeletes : Run.Affects count hdeletes) :
    ∃ outcome tally, reply = .ok (some outcome) ∧ moved = .ok tally ∧
      SameWork plan count outcome tally purged := by
  refine ⟨_, _, Sql.yields_merge_of_affects hmerge hh,
    Run.yields_repointFrom_of_affects hrepoint hhmoves, ?_⟩
  constructor
  · exact Tally.keys_foldl_set _
  · exact Tally.keys_foldl_add _
  · exact Tally.get_foldl_set []
  · intro table
    rw [Tally.get_foldl_add]
    exact Nat.zero_add _
  · exact Tally.foldl_set_eq_foldl_add_iff _
  · exact ⟨rfl, rfl⟩
  · exact Run.yields_purgeFrom_of_affects hpurge hhdeletes

/-- The answers of a handler without a state are those that it gives to the questions. -/
theorem Program.answer_of_mem_transcript {I : Interface} {α : Type}
    {answer : (q : I.Ask) → I.Answer q} (p : Program I α) {q : I.Ask} {x : I.Answer q}
    (hmem : ⟨q, x⟩ ∈ p.transcript (fun q s => (answer q, s)) ()) : x = answer q := by
  induction p with
  | done a => cases hmem
  | ask q' next ih =>
    rcases List.mem_cons.mp hmem with heq | hmem
    · cases heq
      rfl
    · exact ih _ hmem

namespace Sample

/-- Holdings refer to a region by two columns. -/
def twoColumns : MergePlan where
  key := "FOO"
  keep := "r1"
  losers := ["r2"]
  entity := ⟨"regions", "id", "name", none⟩
  dependents := [⟨"holdings", "region_id"⟩, ⟨"holdings", "home_region_id"⟩]

/-- Two rows refer to the loser by the first column and three by the second. -/
def rowsOf : Sql.Change → Nat
  | .move _ column _ _ => if column = "region_id" then 2 else 3
  | .remove _ _ _ => 1

/-- Statements that change the rows of their changes. -/
def statements : (q : Sql.Session.Ask) → Sql.Session.Answer q
  | .control _ => ()
  | .query q => .ok (.affected ((q.change?.map rowsOf).getD 0))

/-- Calls that change the rows of their changes. -/
def answers : (a : Action) → Action.interface.Answer a
  | .call (.repoint table column source target) =>
    (.answered (.ok (rowsOf (.move table column source target))) : Attempt Nat)
  | .call (.deleteIds table column [id]) =>
    (.answered (.ok (rowsOf (.remove table column id))) : Attempt Nat)
  | .call _ => Attempt.late
  | .pick others => (⟨0, Nat.succ_pos others⟩ : Fin (others + 1))
  | .now => instant
  | .acquireLock _ => (.ok () : Except Failure Unit)
  | .releaseLock _ => ()
  | .openJournal _ => (.ok () : Except FileError Unit)
  | .appendJournal _ _ => (.ok () : Except FileError Unit)

theorem affects_statements {α : Type} (p : Program Sql.Session α) :
    Sql.Affects rowsOf (p.transcript (fun q s => (statements q, s)) ()) := by
  intro c result hmem
  have hresult : result = .ok (.affected ((c.query.change?.map rowsOf).getD 0)) :=
    p.answer_of_mem_transcript hmem
  rw [hresult, c.change?_query]
  rfl

theorem affects_answers {α : Type} (p : Run α) :
    Run.Affects rowsOf (p.transcript (fun q s => (answers q, s)) ()) :=
  ⟨fun _ _ _ _ _ hmem => p.answer_of_mem_transcript hmem,
    fun _ _ _ _ hmem => p.answer_of_mem_transcript hmem⟩

end Sample

theorem merge_agrees_iff_twoColumns :
    ((Sql.merge Sample.twoColumns).run (fun q s => (Sample.statements q, s)) ()).1 =
      .ok (some ⟨[("holdings", 3)], ["r2"], []⟩) ∧
    ((repointGroup {} "r1" ["r2"] Sample.twoColumns.dependents).run
      (fun q s => (Sample.answers q, s)) ()).1 = .ok [("holdings", 5)] ∧
    ∃ purged, SameWork Sample.twoColumns Sample.rowsOf ⟨[("holdings", 3)], ["r2"], []⟩
      [("holdings", 5)] purged := by
  have hmerge := Program.yields_transcript (fun q s => (Sample.statements q, s))
    (Sql.merge Sample.twoColumns) ()
  have hrepoint := Program.yields_transcript (fun q s => (Sample.answers q, s))
    (repointGroup {} "r1" ["r2"] Sample.twoColumns.dependents) ()
  have hpurge := Program.yields_transcript (fun q s => (Sample.answers q, s))
    (purgeLosers {} Sample.twoColumns.entity ["r2"]) ()
  have houtcome : ((Sql.merge Sample.twoColumns).run (fun q s => (Sample.statements q, s)) ()).1 =
      .ok (some ⟨[("holdings", 3)], ["r2"], []⟩) :=
    Sql.yields_merge_of_affects hmerge (Sample.affects_statements _)
  have htally : ((repointGroup {} "r1" ["r2"] Sample.twoColumns.dependents).run
      (fun q s => (Sample.answers q, s)) ()).1 = .ok [("holdings", 5)] := by
    rfl
  obtain ⟨outcome, tally, hreply, hmoved, hsame⟩ := merge_agrees_iff hmerge
    (Sample.affects_statements _) hrepoint (Sample.affects_answers _) hpurge
    (Sample.affects_answers _)
  obtain rfl := Option.some.inj (Except.ok.inj (houtcome.symm.trans hreply))
  obtain rfl := Except.ok.inj (htally.symm.trans hmoved)
  exact ⟨houtcome, htally, _, hsame⟩

end RegistryDedup
