import RegistryDedup.Proofs.Sql.Course

/-!
# A merge in a transaction leaves all or nothing

Along each course of a merge the reference database is played with the results of the statements.
Changes are seen within the transaction only, so that a rollback takes back all of them; a delete
that was refused is taken back alone.

- `Carried.play`, `Deletes.play`: what a transaction sees after moves and after deletes.
- `Committed`: what a merge leaves and tells that is committed.
- `Atomic`: what a merge leaves and replies, whatever the results of its statements are.
-/

namespace RegistryDedup

namespace Sql

section

variable {plan : MergePlan} {h h' : Dialogue} {changes : List Change} {fault : Option SqlError}

/-! ## The database -/

theorem Database.after_sent_ok (kept now : Rows) (savepoints : List (Nat × Rows)) (c : Change)
    (outcome : Outcome) :
    Database.after ⟨kept, some ⟨now, savepoints⟩⟩ (sent c.query (.ok outcome)) =
      ⟨kept, some ⟨c.apply now, savepoints⟩⟩ := by
  show Database.mk kept (some ⟨c.query.effect now, savepoints⟩) = _
  rw [c.effect_query]

/-- Changes within a transaction are seen there, and nothing is kept yet. -/
theorem Carried.play (hh : Carried changes h fault) (kept now : Rows)
    (savepoints : List (Nat × Rows)) :
    ∃ now', Database.play ⟨kept, some ⟨now, savepoints⟩⟩ h = ⟨kept, some ⟨now', savepoints⟩⟩ ∧
      (fault = none → now' = now.changed changes) := by
  induction hh generalizing now with
  | done => exact ⟨now, rfl, fun _ => rfl⟩
  | failed => exact ⟨now, rfl, nofun⟩
  | @next c _ _ _ _ _ ih =>
    rw [Database.play_cons, Database.after_sent_ok]
    exact ih (c.apply now)

/-- A delete that was refused is undone, and the others are seen. -/
theorem Deletes.play {losers gone : List String} {refused : List (String × SqlError)}
    (hh : Deletes plan losers h gone refused fault) (kept now : Rows)
    (savepoints : List (Nat × Rows)) :
    ∃ now' savepoints', Database.play ⟨kept, some ⟨now, savepoints⟩⟩ h =
        ⟨kept, some ⟨now', savepoints'⟩⟩ ∧
      (fault = none → now' = now.changed (gone.map plan.removal)) := by
  induction hh generalizing now savepoints with
  | done => exact ⟨now, savepoints, rfl, fun _ => rfl⟩
  | @deleted l _ _ _ _ _ _ _ ih =>
    obtain ⟨now', savepoints', hplay, hnow⟩ := ih ((plan.removal l).apply now) savepoints
    refine ⟨now', savepoints', ?_, hnow⟩
    rw [Database.play_cons]
    show Database.play ⟨kept, some ⟨now, (1, now) :: savepoints⟩⟩ _ = _
    rw [Database.play_cons, Database.after_sent_ok]
    exact hplay
  | refused _ _ ih =>
    obtain ⟨now', savepoints', hplay, hnow⟩ := ih now ((1, now) :: savepoints)
    exact ⟨now', savepoints', hplay, hnow⟩
  | abandoned => exact ⟨now, (1, now) :: savepoints, rfl, nofun⟩

/-- The delete of one id takes no row of another id. -/
theorem filter_has_remove {column value other : String} (hne : value ≠ other) (rows : List Row) :
    (rows.filter fun row => !row.has column other).filter (·.has column value) =
      rows.filter (·.has column value) := by
  rw [List.filter_filter]
  refine List.filter_congr fun row _ => ?_
  cases hrow : row.has column value with
  | false => rfl
  | true =>
    have hother : row.has column other = false := by
      rw [Bool.eq_false_iff, ne_eq, Row.has_iff]
      exact fun heq => hne (Option.some.inj ((Row.has_iff.mp hrow).symm.trans heq))
    rw [hother]
    rfl

theorem filter_has_changed_removal {losers : List String} {l : String} (hl : l ∉ losers)
    (rows : Rows) :
    (rows.changed (losers.map plan.removal) (splitTable plan.entity.table)).filter
        (·.has plan.entity.idColumn l) =
      (rows (splitTable plan.entity.table)).filter (·.has plan.entity.idColumn l) := by
  induction losers generalizing rows with
  | nil => rfl
  | cons l' losers ih =>
    rw [List.mem_cons, not_or] at hl
    obtain ⟨hne, hl⟩ := hl
    rw [List.map_cons, Rows.changed_cons, ih hl]
    have happly : (plan.removal l').apply rows (splitTable plan.entity.table) =
        (rows (splitTable plan.entity.table)).filter fun row =>
          !row.has plan.entity.idColumn l' := if_pos rfl
    rw [happly, filter_has_remove hne]

/-- Moves in other columns leave the values of a column. -/
theorem countP_has_changed {relation : Relation} {column : String}
    (hchanges : ∀ c ∈ changes, ∃ table other source target, c = .move table other source target ∧
      (splitTable table = relation → other ≠ column)) (value : String) (rows : Rows) :
    (rows.changed changes relation).countP (·.has column value) =
      (rows relation).countP (·.has column value) := by
  induction changes generalizing rows with
  | nil => rfl
  | cons c changes ih =>
    obtain ⟨⟨table, other, source, target, rfl, hother⟩, hrest⟩ :=
      List.forall_mem_cons.mp hchanges
    rw [Rows.changed_cons, ih hrest]
    by_cases hrelation : relation = splitTable table
    · have happly : (Change.move table other source target).apply rows relation =
          (rows relation).map (·.moved other source target) := if_pos hrelation
      rw [happly, List.countP_map]
      refine List.countP_congr fun row _ => ?_
      rw [Function.comp_apply, Row.has_iff, Row.has_iff,
        Row.text?_moved_of_ne (hother hrelation.symm).symm]
    · have happly : (Change.move table other source target).apply rows relation = rows relation :=
        if_neg hrelation
      rw [happly]

/-! ## All or nothing -/

/-- What a merge leaves and tells that is committed. -/
structure Committed (plan : MergePlan) (rows : Rows) (h : Dialogue) (outcome : MergeOutcome) :
    Prop where
  complete : queriesOf h = plan.changes.map Change.query
  /-- All moves are in effect, and so are the deletes of the losers that are called deleted. -/
  kept : Database.play ⟨rows, none⟩ h =
    ⟨rows.changed (plan.moves ++ outcome.deleted.map plan.removal), none⟩
  deleted_sublist : outcome.deleted.Sublist plan.losers
  failed_sublist : (outcome.failed.map Prod.fst).Sublist plan.losers
  once : (outcome.deleted ++ outcome.failed.map Prod.fst).Perm plan.losers
  /-- The losers that are called failed are those whose delete was refused. -/
  failed_iff : ∀ l why, (l, why) ∈ outcome.failed ↔
    ∃ e, sent (plan.removal l).query (.error e) ∈ h ∧ why = (failureOf e).message
  /-- No delete took a row of a loser that is called failed. -/
  present : ∀ r ∈ outcome.failed,
    ((Database.play ⟨rows, none⟩ h).kept (splitTable plan.entity.table)).filter
        (·.has plan.entity.idColumn r.1) =
      (rows.changed plan.moves (splitTable plan.entity.table)).filter
        (·.has plan.entity.idColumn r.1)
  /-- Nor did a move change its id, if no dependent is the column of the ids. -/
  unmoved : (∀ d ∈ plan.dependents, splitTable d.table = splitTable plan.entity.table →
      d.column ≠ plan.entity.idColumn) → ∀ r ∈ outcome.failed,
    ((Database.play ⟨rows, none⟩ h).kept (splitTable plan.entity.table)).countP
        (·.has plan.entity.idColumn r.1) =
      (rows (splitTable plan.entity.table)).countP (·.has plan.entity.idColumn r.1)

/-- What a merge leaves and replies. -/
structure Atomic (plan : MergePlan) (rows : Rows) (h : Dialogue)
    (reply : Reply (Option MergeOutcome)) : Prop where
  /-- The statements are those of the plan in its order, all moves before the first delete. -/
  ordered : queriesOf h <+: plan.changes.map Change.query
  commits_iff : controlled .commit ∈ h ↔
    (∀ c ∈ plan.moves, ∀ e, sent c.query (.error e) ∉ h) ∧
      ∀ l ∈ plan.losers, ∀ e, sent (plan.removal l).query (.error e) ∈ h →
        ¬ (failureOf e).isRetryable
  undone : controlled .commit ∉ h →
    (∃ q e, sent q (.error e) ∈ h ∧ reply = .error (failureOf e)) ∧
      Database.play ⟨rows, none⟩ h = ⟨rows, none⟩
  committed : controlled .commit ∈ h →
    ∃ outcome, reply = .ok (some outcome) ∧ Committed plan rows h outcome

theorem exists_of_mem_moves {c : Change} (hc : c ∈ plan.moves) :
    ∃ d ∈ plan.dependents, ∃ l, c = .move d.table d.column l plan.keep := by
  obtain ⟨d, hd, hc⟩ := List.mem_flatMap.mp hc
  obtain ⟨l, -, rfl⟩ := List.mem_map.mp hc
  exact ⟨d, hd, l, rfl⟩

theorem query_ne_of_mem_moves {c : Change} (hc : c ∈ plan.moves) (l : String) :
    c.query ≠ (plan.removal l).query := by
  obtain ⟨d, -, l', rfl⟩ := exists_of_mem_moves hc
  exact fun heq => nomatch Change.query_injective heq

theorem prefix_changes_of_carried (hmoves : Carried plan.moves h fault) :
    queriesOf h <+: plan.changes.map Change.query := by
  rw [MergePlan.changes, List.map_append]
  exact hmoves.queries_prefix.trans (List.prefix_append _ _)

theorem prefix_changes {gone : List String} {refused : List (String × SqlError)}
    (hmoves : Carried plan.moves h none) (hdeletes : Deletes plan plan.losers h' gone refused fault) :
    queriesOf (h ++ h') <+: plan.changes.map Change.query := by
  rw [MergePlan.changes, List.map_append, queriesOf_append, hmoves.queries]
  exact (List.prefix_append_right_inj _).mpr hdeletes.queries_prefix

theorem Database.play_rolled_back (rows now : Rows) (savepoints : List (Nat × Rows)) (h : Dialogue)
    (hplay : Database.play ⟨rows, some ⟨rows, []⟩⟩ h = ⟨rows, some ⟨now, savepoints⟩⟩) :
    Database.play ⟨rows, none⟩ (controlled .begin :: (h ++ [controlled .rollback])) =
      ⟨rows, none⟩ := by
  show Database.play ⟨rows, some ⟨rows, []⟩⟩ (h ++ [controlled .rollback]) = _
  rw [Database.play_append, hplay]
  rfl

theorem Database.play_committed (rows now : Rows) (savepoints : List (Nat × Rows)) (h : Dialogue)
    (hplay : Database.play ⟨rows, some ⟨rows, []⟩⟩ h = ⟨rows, some ⟨now, savepoints⟩⟩) :
    Database.play ⟨rows, none⟩ (controlled .begin :: (h ++ [controlled .commit])) =
      ⟨now, none⟩ := by
  show Database.play ⟨rows, some ⟨rows, []⟩⟩ (h ++ [controlled .commit]) = _
  rw [Database.play_append, hplay]
  rfl

theorem atomic_of_stuck {e : SqlError} (rows : Rows) (hmoves : Carried plan.moves h (some e)) :
    Atomic plan rows (controlled .begin :: (h ++ [controlled .rollback]))
      (.error (failureOf e)) := by
  obtain ⟨c, hc, hmem⟩ := hmoves.exists_error
  have hcommit : controlled .commit ∉ controlled .begin :: (h ++ [controlled .rollback]) := by
    simpa using hmoves.not_mem_controlled .commit
  refine ⟨?_, ?_, fun _ => ⟨⟨c.query, e, ?_, rfl⟩, ?_⟩, fun hin => absurd hin hcommit⟩
  · simpa using prefix_changes_of_carried hmoves
  · refine iff_of_false hcommit fun hall => hall.1 c hc e ?_
    simp [hmem]
  · simp [hmem]
  · obtain ⟨now, hplay, -⟩ := hmoves.play rows rows []
    exact Database.play_rolled_back rows now [] h hplay

theorem atomic_of_abandoned {gone : List String} {refused : List (String × SqlError)}
    {e : SqlError} (rows : Rows) (hmoves : Carried plan.moves h none)
    (hdeletes : Deletes plan plan.losers h' gone refused (some e)) :
    Atomic plan rows (controlled .begin :: (h ++ h' ++ [controlled .rollback]))
      (.error (failureOf e)) := by
  obtain ⟨he, l, hl, hmem⟩ := hdeletes.exists_error
  have hcommit :
      controlled .commit ∉ controlled .begin :: (h ++ h' ++ [controlled .rollback]) := by
    simpa using ⟨hmoves.not_mem_controlled .commit, hdeletes.not_mem_commit⟩
  refine ⟨?_, ?_, fun _ => ⟨⟨(plan.removal l).query, e, ?_, rfl⟩, ?_⟩,
    fun hin => absurd hin hcommit⟩
  · simpa using prefix_changes hmoves hdeletes
  · refine iff_of_false hcommit fun hall => hall.2 l hl e ?_ he
    simp [hmem]
  · simp [hmem]
  · obtain ⟨now, hplay, -⟩ := hmoves.play rows rows []
    obtain ⟨now', savepoints, hplay', -⟩ := hdeletes.play rows now []
    exact Database.play_rolled_back rows now' savepoints _
      (by rw [Database.play_append, hplay, hplay'])

/-- Where no move failed, the failures are those of the deletes. -/
theorem mem_error_iff_of_carried (hmoves : Carried plan.moves h none) {q : Query} {e : SqlError} :
    sent q (.error e) ∈ controlled .begin :: (h ++ h' ++ [controlled .commit]) ↔
      sent q (.error e) ∈ h' := by
  simp [hmoves.not_mem_error]

theorem committed_of_deletes {moved : Tally} {gone : List String}
    {refused : List (String × SqlError)} (hlosers : plan.losers.Nodup) (rows : Rows)
    (hmoves : Carried plan.moves h none) (hdeletes : Deletes plan plan.losers h' gone refused none) :
    Committed plan rows (controlled .begin :: (h ++ h' ++ [controlled .commit]))
      ⟨moved, gone, refused.map fun (l, e) => (l, (failureOf e).message)⟩ := by
  have hids : (refused.map fun (l, e) => (l, (failureOf e).message)).map Prod.fst =
      refused.map Prod.fst := List.map_map
  have hkept : Database.play ⟨rows, none⟩ (controlled .begin :: (h ++ h' ++ [controlled .commit])) =
      ⟨rows.changed (plan.moves ++ gone.map plan.removal), none⟩ := by
    obtain ⟨now, hplay, hnow⟩ := hmoves.play rows rows []
    obtain ⟨now', savepoints, hplay', hnow'⟩ := hdeletes.play rows now []
    rw [Rows.changed_append, ← hnow rfl, ← hnow' rfl]
    exact Database.play_committed rows now' savepoints _
      (by rw [Database.play_append, hplay, hplay'])
  have hpresent : ∀ r ∈ refused.map fun (l, e) => (l, (failureOf e).message),
      ((rows.changed (plan.moves ++ gone.map plan.removal)) (splitTable plan.entity.table)).filter
          (·.has plan.entity.idColumn r.1) =
        (rows.changed plan.moves (splitTable plan.entity.table)).filter
          (·.has plan.entity.idColumn r.1) := by
    intro r hr
    rw [Rows.changed_append]
    -- No loser is both deleted and refused, since the plan has none twice.
    refine filter_has_changed_removal (fun hgone => ?_) _
    have hnodup := (hdeletes.perm.nodup_iff).mpr hlosers
    exact (List.nodup_append.mp hnodup).2.2 r.1 hgone r.1
      (hids ▸ List.mem_map_of_mem hr) rfl
  constructor
  · rw [MergePlan.changes, List.map_append]
    simp [hmoves.queries, hdeletes.queries]
  · exact hkept
  · exact hdeletes.gone_sublist
  · exact hids ▸ hdeletes.refused_sublist
  · exact hids ▸ hdeletes.perm
  · intro l why
    simp only [mem_error_iff_of_carried hmoves, hdeletes.mem_messages_iff]
  · rw [hkept]
    exact hpresent
  · intro hcolumn r hr
    rw [hkept, List.countP_eq_length_filter, hpresent r hr, ← List.countP_eq_length_filter]
    refine countP_has_changed (fun c hc => ?_) _ _
    obtain ⟨d, hd, l, rfl⟩ := exists_of_mem_moves hc
    exact ⟨_, _, _, _, rfl, hcolumn d hd⟩

/-- **A merge in a transaction leaves all or nothing.** Whatever the results of its statements are,
the merge is committed just if every move succeeded and no delete failed in a way that is worth
another attempt. If it is not, the reply is a failure and no row is changed. If it is, then every
loser is deleted or its delete was refused, and all moves and all other deletes are in effect. -/
theorem merge_atomic (hlosers : plan.losers.Nodup) {reply : Reply (Option MergeOutcome)}
    (hy : (merge plan).Yields h reply) (rows : Rows) : Atomic plan rows h reply := by
  cases mergeCourse_of_yields hy with
  | stuck hmoves => exact atomic_of_stuck rows hmoves
  | abandoned hmoves hdeletes => exact atomic_of_abandoned rows hmoves hdeletes
  | @committed h h' moved gone refused hmoves hdeletes =>
    have hcommit :
        controlled .commit ∈ controlled .begin :: (h ++ h' ++ [controlled .commit]) := by simp
    refine ⟨?_, iff_of_true hcommit ⟨?_, ?_⟩, fun hnot => absurd hcommit hnot,
      fun _ => ⟨_, rfl, committed_of_deletes hlosers rows hmoves hdeletes⟩⟩
    · simpa using prefix_changes hmoves hdeletes
    · intro c hc e hmem
      obtain ⟨l, -, hquery⟩ :=
        hdeletes.mem_error_iff.mp ((mem_error_iff_of_carried hmoves).mp hmem)
      exact query_ne_of_mem_moves hc l hquery
    · intro l _ e hmem
      obtain ⟨l', hrefused, -⟩ :=
        hdeletes.mem_error_iff.mp ((mem_error_iff_of_carried hmoves).mp hmem)
      exact hdeletes.not_retryable _ hrefused

end

namespace Sample

/-- Two regions merged into a third. -/
def plan : MergePlan where
  key := "FOO"
  keep := "r1"
  losers := ["r2", "r3"]
  entity := ⟨"regions", "id", "name", none⟩
  dependents := [⟨"holdings", "region_id"⟩]

/-- A table that the plan does not name still refers to an entity. -/
def violation : SqlError := ⟨"23503", "still referenced"⟩

/-- A database that refuses to delete one of the entities. -/
def refusing : (q : Session.Ask) → Unit → Session.Answer q × Unit
  | .control _, s => ((), s)
  | .query q, s =>
    match q.params with
    | [.text "r3"] => (.error violation, s)
    | _ => (.ok (.affected 1), s)

def refusal : Dialogue := (merge plan).transcript refusing ()

def outcome : MergeOutcome := ⟨[("holdings", 2)], ["r2"], [("r3", (failureOf violation).message)]⟩

/-- Three regions, the last of which a table refers to that the plan does not name. -/
def rows : Rows
  | ("public", "regions") => [[("id", .str "r1")], [("id", .str "r2")], [("id", .str "r3")]]
  | ("public", "holdings") => [[("region_id", .str "r2")], [("region_id", .str "r3")]]
  | _ => []

end Sample

theorem merge_atomic_refusal :
    ((merge Sample.plan).run Sample.refusing ()).1 = .ok (some Sample.outcome) ∧
    controlled .commit ∈ Sample.refusal ∧
    Atomic Sample.plan Sample.rows Sample.refusal (.ok (some Sample.outcome)) := by
  have hrun : ((merge Sample.plan).run Sample.refusing ()).1 = .ok (some Sample.outcome) := rfl
  have hatomic := merge_atomic (by decide)
    (Program.yields_transcript Sample.refusing (merge Sample.plan) ()) Sample.rows
  refine ⟨hrun, Classical.byContradiction fun hnot => ?_, hrun ▸ hatomic⟩
  obtain ⟨⟨_, _, -, hreply⟩, -⟩ := hatomic.undone hnot
  cases hrun.symm.trans hreply

end Sql

end RegistryDedup
