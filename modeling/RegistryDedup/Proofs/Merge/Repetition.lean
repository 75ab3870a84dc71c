import RegistryDedup.Proofs.Merge.Order
import RegistryDedup.Proofs.Merge.Survivor
import RegistryDedup.Proofs.Name.Grouping

/-!
# Entities that come up more than once

A survivor is taken out of its group by its place, but deletes go by id. A table that is read page
by page may answer with one row twice, and then the entity that is kept may be deleted with the
losers.

- `exists_select_keep`: any member can be made the one that is kept, by its references.
- `keep_spared_iff_nodup`: the survivors of all groups are safe, whatever the policy and the counts,
  just where no group has an id twice.
- `KeepRemoved`: what the calls of a group do to the entity that it has chosen to keep.
- `mergeAll_removes_keep_iff`: in a run the merges and deletes of a group name the entity that is
  kept just where its id comes up more than once among the members.
-/

namespace RegistryDedup

variable {s : Settings} {run : String} {g : DuplicateGroup} {h : Transcript}

/-! ## Choosing any member -/

/-- An item with a property that is better than all items without it has a part in the best one. -/
theorem extractBest_favours {α : Type} {better : α → α → Bool} {P : α → Prop} {xs rest : List α}
    {y : α} (hbetter : ∀ a b, P a → ¬ P b → better a b = true ∧ better b a = false)
    (hP : ∃ x ∈ xs, P x) (hy : extractBest better xs = some (y, rest)) : P y := by
  induction xs generalizing y rest with
  | nil => cases hy
  | cons x xs ih =>
    obtain ⟨z, hz, hPz⟩ := hP
    rw [extractBest] at hy
    cases hxs : extractBest better xs with
    | none =>
      rw [hxs] at hy
      cases hy
      rw [extractBest_eq_none.mp hxs, List.mem_singleton] at hz
      exact hz ▸ hPz
    | some best =>
      rw [hxs] at hy
      dsimp only at hy
      by_cases hPbest : P best.1
      · -- The best of the rest gives way only to an item that has the property too.
        split at hy
        · cases hy
          exact hPbest
        · next hworse =>
          cases hy
          by_contra hx
          exact hworse (hbetter best.1 x hPbest hx).1
      · have hx : P x := by
          rcases List.mem_cons.mp hz with rfl | hz
          · exact hPz
          · exact absurd (ih ⟨z, hz, hPz⟩ hxs) hPbest
        rw [(hbetter x best.1 hx hPbest).2] at hy
        cases hy
        exact hx

theorem totalOf_singleton (id other : String) (n : Nat) :
    totalOf [⟨id, n, []⟩] other = if id = other then n else 0 := by
  by_cases hid : id = other
  · simp [totalOf, hid]
  · simp [totalOf, hid]

/-- Any member can be made the one that is kept, by its references. -/
theorem exists_select_keep {members : List Entity} {id : String}
    (hid : id ∈ members.map (·.id)) :
    ∃ counts selection, select .mostReferenced members counts = some selection ∧
      selection.keep.id = id := by
  obtain ⟨e, he, rfl⟩ := List.mem_map.mp hid
  obtain ⟨selection, hselect⟩ :=
    exists_select .mostReferenced [⟨e.id, 1, []⟩] (List.ne_nil_of_mem he)
  refine ⟨_, selection, hselect, ?_⟩
  obtain ⟨best, hbest, rfl⟩ := Option.map_eq_some_iff.mp hselect
  refine extractBest_favours (P := fun member => member.id = e.id) ?_ ⟨e, he, rfl⟩ hbest
  intro a b ha hb
  have hone : totalOf [⟨e.id, 1, []⟩] a.id = 1 := by simp [totalOf_singleton, ha]
  have hzero : totalOf [⟨e.id, 1, []⟩] b.id = 0 := by
    simpa [totalOf_singleton] using fun heq => hb heq.symm
  simp [prefers, hone, hzero]

/-- The survivors of all groups are safe from the deletes, whatever the policy and the counts, just
where no group has an id twice. -/
theorem keep_spared_iff_nodup (n : Normalizer) (entities : List Entity) :
    (∀ g ∈ (Grouping.build n entities).candidates, ∀ policy counts selection,
      select policy g.members counts = some selection →
      selection.keep.id ∉ selection.loserIds) ↔
    ∀ g ∈ (Grouping.build n entities).candidates, g.ids.Nodup := by
  constructor
  · intro hspared g hg
    rw [List.nodup_iff_count_le_one]
    intro id
    by_contra hcount
    rw [Nat.not_le] at hcount
    have hid : id ∈ g.ids := List.count_pos_iff.mp (Nat.lt_trans Nat.zero_lt_one hcount)
    obtain ⟨counts, selection, hselect, rfl⟩ := exists_select_keep hid
    exact hspared g hg _ _ _ hselect ((keep_mem_loserIds hselect).mpr hcount)
  · intro hnodup g hg policy counts selection hselect
    exact keep_not_mem_loserIds hselect (hnodup g hg)

/-! ## In a run -/

/-- What the calls of a group do to the entity that a selection keeps, whose id may be repeated. -/
structure KeepRemoved (s : Settings) (run : String) (g : DuplicateGroup) (h : Transcript)
    (selection : Selection) : Prop where
  /-- What is kept is among the losers just where its id is repeated. -/
  repeated : selection.keep.id ∈ selection.loserIds ↔ 1 < g.ids.count selection.keep.id
  /-- Whatever is changed concerns the selection. -/
  confined : ∀ e ∈ h, ¬ e.1.Quiet → Confined s g selection e.1
  /-- A merge in one transaction is to delete what it keeps. -/
  merged : ∀ plan, ∀ e ∈ h, e.1 = .call (.merge plan) →
    plan.keep = selection.keep.id ∧ (plan.keep ∈ plan.losers ↔ 1 < g.ids.count plan.keep)
  /-- A delete names what is kept. -/
  deleted : ∀ table column ids, ∀ e ∈ h, e.1 = .call (.deleteIds table column ids) →
    selection.keep.id ∈ ids → 1 < g.ids.count selection.keep.id
  /-- Where the losers are deleted step by step, there is such a delete. -/
  purged : ∀ outcome, (mergeGroup s run g).Yields h outcome → (∃ e ∈ h, e.1.Deletion) →
    1 < g.ids.count selection.keep.id →
    ∃ e ∈ h, e.1 = .call (.deleteIds s.entity.table s.entity.idColumn [selection.keep.id])

/-- A merge that is made for a selection is that of its plan. -/
theorem Confined.plan_eq {selection : Selection} {plan : MergePlan}
    (hc : Confined s g selection (.call (.merge plan))) : plan = s.plan g.key selection := by
  rcases hc with ⟨path, entry, hentry⟩ | hplan | ⟨d, -, l, -, hmove⟩ | ⟨l, -, hdelete⟩
  · cases hentry
  · exact Request.merge.inj (Action.call.inj hplan)
  · cases hmove
  · cases hdelete

/-- A delete that is made for a selection is that of one of its losers. -/
theorem Confined.exists_loser {selection : Selection} {table column : String} {ids : List String}
    (hc : Confined s g selection (.call (.deleteIds table column ids))) :
    ∃ l ∈ selection.loserIds, ids = [l] := by
  rcases hc with ⟨path, entry, hentry⟩ | hplan | ⟨d, -, l, -, hmove⟩ | ⟨l, hl, hdelete⟩
  · cases hentry
  · cases hplan
  · cases hmove
  · cases hdelete
    exact ⟨l, hl, rfl⟩

theorem asks_mergeGroup_keepRemoved (ha : (mergeGroup s run g).Asks h) {selection : Selection}
    (hchosen : Chosen s g h selection) : KeepRemoved s run g h selection := by
  have ho := asks_mergeGroup_orderly ha
  have hrepeated : selection.keep.id ∈ selection.loserIds ↔ 1 < g.ids.count selection.keep.id := by
    obtain ⟨counting, counts, -, -, hselect⟩ := hchosen
    exact keep_mem_loserIds hselect
  have hconfined : ∀ e ∈ h, ¬ e.1.Quiet → Confined s g selection e.1 := by
    intro e he hchanges
    obtain ⟨selection', hchosen', hconfined⟩ := ho.confined e he hchanges
    obtain rfl := hchosen.unique hchosen'
    exact hconfined
  have hcall : ∀ r : Request, ∀ e ∈ h, e.1 = .call r → r.Changes →
      Confined s g selection (.call r) := by
    intro r e he haction hr
    rw [← haction]
    refine hconfined e he ?_
    rw [haction]
    exact fun hquiet => hquiet hr
  refine { repeated := hrepeated, confined := hconfined, merged := ?_, deleted := ?_, purged := ?_ }
  · intro plan e he hmerge
    obtain rfl := (hcall _ e he hmerge trivial).plan_eq
    exact ⟨rfl, hrepeated⟩
  · intro table column ids e he hdelete hkeep
    obtain ⟨l, hl, rfl⟩ := (hcall _ e he hdelete trivial).exists_loser
    rw [List.mem_singleton.mp hkeep] at hrepeated ⊢
    exact hrepeated.mp hl
  · rintro outcome hy ⟨e, he, hdeletion⟩ hcount
    rcases (yields_mergeGroup hy).parts with hquiet |
      ⟨selection', counting, writing, merging, moves, deletes, rfl, hparts⟩
    · exact absurd (.inr hdeletion) (hquiet e he).not_stepwise
    · obtain rfl := hchosen.unique (hparts.chosen _)
      have hmem := hparts.mem_deletes he hdeletion
      obtain ⟨e', he', hdelete⟩ := hparts.purged.resolve_left (List.ne_nil_of_mem hmem)
        selection.keep.id (hrepeated.mpr hcount)
      exact ⟨e', by simp [he'], hdelete⟩

/-- A group changes nothing before it has chosen the entity that it keeps, and what it does then
concerns its choice. -/
structure ActsOnChoice (s : Settings) (run : String) (g : DuplicateGroup) (h : Transcript) :
    Prop where
  chosen : ∀ e ∈ h, ¬ e.1.Quiet → ∃ selection, Chosen s g h selection
  removed : ∀ selection, Chosen s g h selection → KeepRemoved s run g h selection

theorem asks_mergeGroup_actsOnChoice (ha : (mergeGroup s run g).Asks h) :
    ActsOnChoice s run g h where
  chosen e he hchanges := by
    obtain ⟨selection, hchosen, -⟩ := (asks_mergeGroup_orderly ha).confined e he hchanges
    exact ⟨selection, hchosen⟩
  removed _ hchosen := asks_mergeGroup_keepRemoved ha hchosen

/-- Each group of a run names the entity that it keeps among those that it deletes just where the
id of that entity comes up more than once in it. -/
structure KeepsAmongLosers (s : Settings) (run : String) (h : Transcript) : Prop where
  groups : InGroups s run (ActsOnChoice s run) h
  /-- Of what was fetched, no group can lose what it keeps just where none has an id twice. -/
  spared : ∀ entities,
    ⟨Action.call (.fetchEntities s.entity), Attempt.answered (.ok entities)⟩ ∈ h →
    ((∀ g ∈ (Grouping.build s.normalizer entities).candidates, ∀ policy counts selection,
      select policy g.members counts = some selection →
      selection.keep.id ∉ selection.loserIds) ↔
    ∀ g ∈ (Grouping.build s.normalizer entities).candidates, g.ids.Nodup)

/-- At every point of a run, whatever the store answers, the entity that a group keeps is in danger
just where its id comes up more than once in the group. -/
theorem mergeAll_removes_keep_iff {backend : String} (ha : (mergeAll s backend run).Asks h) :
    KeepsAmongLosers s run h where
  groups := asks_inGroups (fun _ _ => asks_mergeGroup_actsOnChoice) ha
  spared entities _ := keep_spared_iff_nodup s.normalizer entities

namespace Sample

/-- One region that comes up twice, with a project that refers to it. -/
def repeated : Tables where
  clock := instant
  tables := [
    ("regions", {
      columns := ["id", "name"]
      rows := [[("id", .str "r1"), ("name", .str "Foo")],
        [("id", .str "r1"), ("name", .str "Foo")]] }),
    ("projects", {
      columns := ["region_id"]
      rows := [[("region_id", .str "r1")]] })]

end Sample

/-- The one region is kept and deleted. -/
theorem mergeAll_removes_keep_iff_sample :
    Sample.calls (Sample.transcript Sample.repeated) = ["check_columns regions id,name",
      "check_columns projects region_id", "fetch_entities regions", "merge FOO r1 r1",
      "repoint projects region_id r1 r1", "delete_ids regions id r1", "fetch_entities regions"] ∧
    KeepsAmongLosers Sample.settings "run" (Sample.transcript Sample.repeated) :=
  ⟨by decide +kernel, mergeAll_removes_keep_iff (Program.yields_transcript _ _ _).asks⟩

end RegistryDedup
