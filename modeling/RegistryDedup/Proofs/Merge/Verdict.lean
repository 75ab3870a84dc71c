import RegistryDedup.Proofs.Merge.Outcome

/-!
# The verdict of a run

A run says twice what is left to do: by the status of each of its reports, and by the keys that it
finds with more than one entity when it looks at the table once more. On tables in memory the two
agree, whatever counts fail and whatever deletes are refused, and also where the run writes nothing.

- `Settings.idsOf`: the ids of the entities of a key. Moves leave them as they are
  (`LedElsewhere.census`), and deletes take those of the deleted entities away (`Purged.census`).
- `LeftOver`: what the report of a group says of its members.
- `VerdictAgrees`, `mergeAll_verdict_agrees`: the residuals of a run are what the groups leave that
  are not reconciled, and the exit code says whether there is one.
-/

namespace RegistryDedup

open Interface.Environment

variable {s : Settings} {run : String} {g : DuplicateGroup} {r : GroupReport}
  {reports : List GroupReport} {h : Transcript} {t t' t'' : Tables}

/-! ## The entities of a key -/

/-- The ids of the entities of a key, in their order. -/
def Settings.idsOf (s : Settings) (t : Tables) (key : String) : List String :=
  ((s.census t).filter (·.2 == key)).map (·.1)

theorem census_eq_entities (s : Settings) (t : Tables) :
    s.census t = (s.entities t).map fun e => (e.id, s.normalizer.key e.name) := by
  rw [Settings.census, Settings.entities, List.map_filterMap]
  congr 1
  funext row
  rw [Row.entity?]
  cases row.text? s.entity.idColumn <;> rfl

theorem idsOf_eq (s : Settings) (t : Tables) (key : String) :
    s.idsOf t key =
      ((s.entities t).filter fun e => s.normalizer.key e.name == key).map (·.id) := by
  rw [Settings.idsOf, census_eq_entities, List.filter_map, List.map_map]
  rfl

/-- The members of a candidate are the entities of its key. -/
theorem ids_of_mem_candidates
    (hg : g ∈ (Grouping.build s.normalizer (s.entities t)).candidates) :
    g.ids = s.idsOf t g.key := by
  rw [idsOf_eq, ← (Grouping.mem_candidates.mp hg).2.1, DuplicateGroup.ids]

/-- The residuals of a table are the keys that more than one of its entities has. -/
theorem mem_residuals {x : Residual} :
    x ∈ (Grouping.build s.normalizer (s.entities t)).residuals ↔
      x.key ≠ "" ∧ x.ids = s.idsOf t x.key ∧ 1 < x.ids.length := by
  rw [Grouping.residuals, List.mem_map]
  constructor
  · rintro ⟨g, hg, rfl⟩
    obtain ⟨hkey, -, hlen⟩ := Grouping.mem_candidates.mp hg
    refine ⟨hkey, ids_of_mem_candidates hg, ?_⟩
    rwa [DuplicateGroup.ids, List.length_map]
  · rintro ⟨hkey, hids, hlen⟩
    let members := (s.entities t).filter fun e => s.normalizer.key e.name == x.key
    have hmembers : x.ids = members.map (·.id) := hids.trans (idsOf_eq s t x.key)
    refine ⟨⟨x.key, members⟩, Grouping.mem_candidates.mpr ⟨hkey, rfl, ?_⟩, ?_⟩
    · rwa [hmembers, List.length_map] at hlen
    · rw [DuplicateGroup.ids, ← hmembers]

/-- Leading references elsewhere leaves the ids and the names of the entities. -/
theorem LedElsewhere.census (hs : s.Foreign) {target : Target}
    (h : LedElsewhere target s.dependents t t') : s.census t' = s.census t := by
  have hcolumn : ∀ column, column = s.entity.idColumn ∨ column = s.entity.nameColumn →
      column ∉ columnsIn s.dependents s.entity.table := by
    rintro column hcolumn hmem
    obtain ⟨d, hd, htable, rfl⟩ := mem_columnsIn.mp hmem
    obtain ⟨hid, hname⟩ := hs d hd htable
    exact hcolumn.elim hid hname
  rw [Settings.census, h.rows, List.filterMap_map, Settings.census]
  congr 1
  funext row
  rw [Function.comp_apply, Row.text?_redirectedAll_of_not_mem (hcolumn _ (.inl rfl)),
    Settings.keyOf, Row.string?, Row.get?_redirectedAll_of_not_mem (hcolumn _ (.inr rfl)),
    Settings.keyOf, Row.string?]

/-- Deletes take the deleted entities away, and no other. -/
theorem Purged.census {gone : List String} (h : Purged s.entity gone t t') :
    s.census t' = (s.census t).filter fun entry => entry.1 ∉ gone := by
  have hrows : t'.rows s.entity.table =
      (t.rows s.entity.table).filter fun row => !gone.any (row.has s.entity.idColumn) := by
    rw [Tables.rows, h.find?, if_pos rfl, Tables.rows]
    cases t.find? s.entity.table <;> rfl
  rw [Settings.census, hrows, Settings.census, List.filterMap_filter, List.filter_filterMap]
  congr 1
  funext row
  cases hid : row.text? s.entity.idColumn with
  | none => simp
  | some id =>
    rw [Row.any_has_of_text hid]
    by_cases hgone : id ∈ gone <;> simp [hgone, Option.filter]

/-! ## Groups -/

/-- What the report of a group leaves of it: its members but those that were deleted. -/
def GroupReport.left (r : GroupReport) : Residual :=
  ⟨r.key, r.members.filter (· ∉ r.deleted)⟩

/-- What the report of a group says of its members. It is reconciled just where it leaves no more
than one of them. -/
structure LeftOver (g : DuplicateGroup) (r : GroupReport) : Prop where
  key : r.key = g.key
  members : r.members = g.ids
  deleted : ∀ id ∈ r.deleted, id ∈ r.members
  reconciled : r.status = .reconciled ↔ r.left.ids.length ≤ 1

/-- A group of which nothing was deleted is left as it is. -/
theorem LeftOver.of_undeleted (hkey : r.key = g.key) (hmembers : r.members = g.ids)
    (hlen : 1 < g.ids.length) (hdeleted : r.deleted = []) (hstatus : r.status ≠ .reconciled) :
    LeftOver g r where
  key := hkey
  members := hmembers
  deleted id hid := by
    rw [hdeleted] at hid
    cases hid
  reconciled := by
    have hleft : r.left.ids = g.ids := by simp [GroupReport.left, hdeleted, hmembers]
    rw [hleft]
    exact iff_of_false hstatus (Nat.not_le_of_lt hlen)

/-- A merged group leaves the entity that is kept, and the losers whose delete was refused. -/
theorem PlanDone.leftOver {selection : Selection} {transient : Bool}
    (hd : PlanDone s selection t t' (r, transient)) (hkey : r.key = g.key)
    (hmembers : r.members = g.ids) (hids : g.ids.Nodup)
    (hperm : g.ids.Perm (selection.keep.id :: selection.loserIds)) : LeftOver g r where
  key := hkey
  members := hmembers
  deleted id hid := by
    rw [hmembers, hperm.mem_iff]
    exact List.mem_cons_of_mem _ ((hd.deleted id).mp hid).1
  reconciled := by
    have hkeep := (List.nodup_cons.mp (hperm.nodup_iff.mp hids)).1
    -- Of the losers those are left whose delete failed.
    have hrest : selection.loserIds.filter (· ∉ r.deleted) = r.failed.map (·.1) := by
      refine Eq.trans (List.filter_congr fun l hl => ?_) hd.failed.symm
      rw [decide_eq_decide, hd.deleted]
      simp [hl]
    have hleft : r.left.ids.Perm (selection.keep.id :: r.failed.map (·.1)) := by
      have hfilter := hperm.filter fun id => decide (id ∉ r.deleted)
      rwa [List.filter_cons_of_pos, hrest, ← hmembers] at hfilter
      rw [decide_eq_true_iff, hd.deleted]
      exact fun hgone => hkeep hgone.1
    have hstatus := hd.status
    dsimp only at hstatus
    rw [hleft.length_eq, hstatus]
    cases r.failed <;> simp

/-- What becomes of the entities of a group on tables in memory, in a run that writes and in one
that does not. -/
theorem MemoryGroup.leftOver (hs : s.Foreign) (hids : g.ids.Nodup) (hlen : 1 < g.members.length)
    {transient : Bool} (hm : MemoryGroup s g t h (.ok (r, transient)) t') :
    LeftOver g r ∧ Tables.Alike t t' ∧
      s.census t' = (s.census t).filter fun entry => entry.1 ∉ r.deleted := by
  have hlong : 1 < g.ids.length := by rwa [DuplicateGroup.ids, List.length_map]
  cases hm with
  | uncounted =>
    exact ⟨.of_undeleted rfl rfl hlong rfl (by simp), .refl t, by simp [DuplicateGroup.started]⟩
  | previewed =>
    exact ⟨.of_undeleted rfl rfl hlong rfl (by simp), .refl t,
      by simp [DuplicateGroup.selected, DuplicateGroup.started]⟩
  | planned _ hselect _ hpreview hdone =>
    obtain ⟨u, hled, hpurged⟩ := hdone.steps
    refine ⟨hdone.leftOver (congrArg GroupPreview.key hpreview)
      (congrArg GroupPreview.members hpreview) hids (select_ids_perm hselect),
      hled.alike.trans hpurged.alike, ?_⟩
    rw [hpurged.census, hled.census hs]
    refine List.filter_congr fun entry _ => ?_
    rw [decide_eq_decide, hdone.deleted, List.mem_filter, decide_eq_true_iff]

/-- What becomes of the entities of all groups. -/
theorem truthful_leftOvers (hs : s.Foreign) (hp : Present s t) {groups : List DuplicateGroup}
    (hc : GroupsReported s run groups h reports)
    (hgroups : ∀ g ∈ groups, g.ids.Nodup ∧ 1 < g.members.length)
    (hf : Tables.truthful.Follows t h t') :
    List.Forall₂ LeftOver groups reports ∧
      s.census t' =
        (s.census t).filter fun entry => ∀ r ∈ reports, entry.1 ∉ r.deleted := by
  induction hc generalizing t with
  | nil =>
    obtain rfl := hf
    exact ⟨.nil, by simp⟩
  | @cons g groups h₁ h₂ r transient reports hfirst _ ih =>
    obtain ⟨u, hf, hf'⟩ := follows_append.mp hf
    rw [List.forall_mem_cons] at hgroups
    obtain ⟨⟨hids, hlen⟩, hgroups⟩ := hgroups
    have hmembers := List.ne_nil_of_length_pos (Nat.lt_trans Nat.zero_lt_one hlen)
    obtain ⟨hleft, halike, hcensus⟩ :=
      (truthful_memoryGroup hp hids hmembers hfirst hf).leftOver hs hids hlen
    obtain ⟨hrest, hcensus'⟩ := ih (hp.alike halike) hgroups hf'
    refine ⟨.cons hleft hrest, ?_⟩
    rw [hcensus', hcensus, List.filter_filter]
    refine List.filter_congr fun entry _ => ?_
    rw [← Bool.decide_and, decide_eq_decide, List.forall_mem_cons, and_comm]

/-! ## What is left -/

section Reports

variable (hdistinct : DistinctIds s t)
  (hleft : List.Forall₂ LeftOver (Grouping.build s.normalizer (s.entities t)).candidates reports)
  (hcensus : s.census t' = (s.census t).filter fun entry => ∀ r ∈ reports, entry.1 ∉ r.deleted)

include hleft in
theorem keys_nodup_of_leftOver : (reports.map (·.key)).Nodup := by
  have hkeys : List.Forall₂ Eq (reports.map (·.key))
      ((Grouping.build s.normalizer (s.entities t)).candidates.map (·.key)) :=
    List.forall₂_map_left_iff.mpr (List.forall₂_map_right_iff.mpr
      (hleft.flip.imp fun _ _ hr => hr.key))
  rw [List.forall₂_eq_eq_eq] at hkeys
  rw [hkeys]
  exact Grouping.candidates_keys_nodup _ _

include hcensus in
/-- The entities of a key afterwards are those before that no report gives as deleted. -/
theorem idsOf_after (key : String) : s.idsOf t' key =
    (s.idsOf t key).filter fun id => ∀ r ∈ reports, id ∉ r.deleted := by
  rw [Settings.idsOf, hcensus, Settings.idsOf, List.filter_map, List.filter_filter,
    List.filter_filter]
  simp only [Bool.and_comm, Function.comp_apply]

include hdistinct hleft hcensus

/-- What the report of a group leaves is what the table has of its key. -/
theorem left_ids_eq (hr : r ∈ reports) : r.left.ids = s.idsOf t' r.key := by
  have hmembers : (reports.flatMap (·.members)).Nodup := by
    rw [flatMap_members (hleft.imp fun _ _ hr => hr.members)]
    exact candidates_ids_nodup hdistinct
  obtain ⟨g, hg, hover⟩ := exists_of_forall₂ hleft hr
  rw [idsOf_after hcensus, hover.key, ← ids_of_mem_candidates hg, ← hover.members,
    GroupReport.left]
  refine List.filter_congr fun id hid => ?_
  -- No other report gives a member of this group as deleted.
  rw [decide_eq_decide]
  constructor
  · intro hkept r' hr' hgone
    obtain ⟨g', -, hover'⟩ := exists_of_forall₂ hleft hr'
    obtain rfl := eq_of_mem_of_nodup_flatMap hmembers hr hr' hid (hover'.deleted id hgone)
    exact hkept hgone
  · exact fun hall => hall r hr

/-- The residuals afterwards are what the groups leave that are not reconciled. -/
theorem mem_residuals_after {x : Residual} :
    x ∈ (Grouping.build s.normalizer (s.entities t')).residuals ↔
      ∃ r ∈ reports, r.status ≠ .reconciled ∧ r.left = x := by
  rw [mem_residuals]
  constructor
  · rintro ⟨hkey, hids, hlen⟩
    -- A key that is left with more than one entity had more than one before.
    have hbefore : 1 < (s.idsOf t x.key).length := by
      refine Nat.lt_of_lt_of_le hlen ?_
      rw [hids, idsOf_after hcensus]
      exact List.length_filter_le _ _
    have hresidual : (⟨x.key, s.idsOf t x.key⟩ : Residual) ∈
        (Grouping.build s.normalizer (s.entities t)).residuals :=
      mem_residuals.mpr ⟨hkey, rfl, hbefore⟩
    obtain ⟨g, hg, hx⟩ := List.mem_map.mp hresidual
    obtain ⟨r, hr, hover⟩ := exists_of_forall₂ hleft.flip hg
    have hrkey : r.key = x.key := hover.key.trans (congrArg Residual.key hx)
    have hrids := left_ids_eq hdistinct hleft hcensus hr
    rw [hrkey, ← hids] at hrids
    refine ⟨r, hr, fun hreconciled => ?_, ?_⟩
    · have hle := hover.reconciled.mp hreconciled
      rw [hrids] at hle
      exact Nat.not_le_of_lt hlen hle
    · show (⟨r.key, r.left.ids⟩ : Residual) = x
      rw [hrkey, hrids]
  · rintro ⟨r, hr, hstatus, rfl⟩
    obtain ⟨g, hg, hover⟩ := exists_of_forall₂ hleft hr
    have hkey : r.key ≠ "" := hover.key ▸ (Grouping.mem_candidates.mp hg).1
    exact ⟨hkey, left_ids_eq hdistinct hleft hcensus hr,
      Nat.lt_of_not_le fun hle => hstatus (hover.reconciled.mpr hle)⟩

theorem residuals_perm_left : (Grouping.build s.normalizer (s.entities t')).residuals.Perm
    ((reports.filter (·.status ≠ .reconciled)).map (·.left)) := by
  have hresiduals : (Grouping.build s.normalizer (s.entities t')).residuals.Nodup := by
    refine List.Nodup.of_map (·.key) ?_
    rw [Grouping.residuals, List.map_map]
    exact Grouping.candidates_keys_nodup _ _
  have hlefts : ((reports.filter (·.status ≠ .reconciled)).map (·.left)).Nodup := by
    refine List.Nodup.of_map (·.key) ?_
    rw [List.map_map]
    exact (keys_nodup_of_leftOver hleft).sublist (List.filter_sublist.map _)
  refine (List.perm_ext_iff_of_nodup hresiduals hlefts).mpr fun x => ?_
  rw [mem_residuals_after hdistinct hleft hcensus, List.mem_map]
  simp only [List.mem_filter, decide_eq_true_iff, and_assoc]

end Reports

/-! ## A whole run -/

/-- What a run says is left to do, by its reports and by its look at the tables afterwards. -/
structure VerdictAgrees (s : Settings) (t t' : Tables) (summary : Summary) : Prop where
  /-- There is a report for each key that more than one entity had, with these entities in the order
  in which they were fetched. -/
  groups : List.Forall₂ (fun g r => r.key = g.key ∧ r.members = g.ids)
    (Grouping.build s.normalizer (s.entities t)).candidates summary.groups
  keys : (summary.groups.map (·.key)).Nodup
  /-- The residuals are the keys that more than one entity has afterwards. -/
  reread : summary.residuals = (Grouping.build s.normalizer (s.entities t')).residuals
  /-- They are what the groups leave that are not reconciled. -/
  residuals : summary.residuals.Perm
    ((summary.groups.filter (·.status ≠ .reconciled)).map (·.left))
  exitCode : summary.exitCode = 0 ↔ ∀ r ∈ summary.groups, r.status = .reconciled

/-- A run with a result says the same of what is left to do by its reports and by its look at the
tables afterwards, whether it writes or not. -/
theorem mergeAll_verdict_agrees {backend : String} {summary : Summary} (hs : s.Foreign)
    (hdistinct : DistinctIds s t) (hy : (mergeAll s backend run).Yields h (.ok summary))
    (hf : Tables.truthful.Follows t h t') : VerdictAgrees s t t' summary := by
  generalize hend : (Except.ok summary : Except Stop Summary) = result at hy
  cases truthful_memoryExit hs hy hf with
  | unready => cases hend
  | refused => cases hend
  | @merged opening merging closing groups _ hready hgroups hmerging =>
    cases groups with
    | error stop => cases hend
    | ok reports =>
      cases hend
      obtain ⟨later, rfl, hreported⟩ := hgroups.all
      obtain ⟨hleft, hcensus⟩ := truthful_leftOvers hs (.of_readiness hready) hreported
        (fun g hg => ⟨(candidates_resolve hdistinct hg).2.1, (Grouping.mem_candidates.mp hg).2.2⟩)
        hmerging
      have hperm := residuals_perm_left hdistinct hleft hcensus
      refine { groups := hleft.imp fun _ _ hr => ⟨hr.key, hr.members⟩,
               keys := keys_nodup_of_leftOver hleft, reread := rfl, residuals := hperm,
               exitCode := ?_ }
      show Summary.exitCode (summarize s backend run (s.entities t).length reports
        (Grouping.build s.normalizer (s.entities t')).residuals) = 0 ↔
          ∀ r ∈ reports, r.status = .reconciled
      have hexit : ∀ residuals, Summary.exitCode (summarize s backend run (s.entities t).length
          reports residuals) = 0 ↔ residuals = [] := by
        simp [Summary.exitCode, summarize]
      rw [hexit, ← List.length_eq_zero_iff, hperm.length_eq, List.length_eq_zero_iff,
        List.map_eq_nil_iff, List.filter_eq_nil_iff]
      simp only [decide_eq_true_iff, not_not]

/-- The first region is gone, and the third one could not be deleted. What is left of the key is
found with the other two, and the exit code says so. -/
theorem mergeAll_verdict_agrees_sample :
    Sample.refusedSummary.residuals = [⟨"FOO", ["r2", "r3"]⟩] ∧
    Sample.refusedSummary.groups.map (·.left) = [⟨"FOO", ["r2", "r3"]⟩] ∧
    Sample.refusedSummary.exitCode = 1 ∧
    VerdictAgrees Sample.referenced Sample.refusing
      (Sample.referencedEnd Sample.refusing).2.state Sample.refusedSummary := by
  refine ⟨by decide, by decide, by decide, ?_⟩
  exact mergeAll_verdict_agrees (foreign_of_elsewhere Sample.referenced_elsewhere)
    Sample.refusing_distinctIds Sample.yields_referenced (Sample.follows_referenced _)

end RegistryDedup
