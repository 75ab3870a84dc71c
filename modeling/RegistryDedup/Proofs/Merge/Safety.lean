import Mathlib.Data.List.Induction
import RegistryDedup.Proofs.Merge.Faithful
import RegistryDedup.Proofs.Merge.Order
import RegistryDedup.Proofs.Merge.Survivor
import RegistryDedup.Proofs.Name.Grouping

/-!
# References during a run

A run on tables in memory loses no reference, wherever it fails or is stopped.

- `Tables.unreliable`: tables at the end of a line that may fail. A failed call may have taken
  effect or not; only a move that is answered with a row that is not there has taken effect.
- `GroupState`: what holds of the tables while a group is merged. References are moved between
  entities of one key only, and an id to which all moves were made is in no reference any more.
- `follows_mergeGroup`, `follows_groups`: what one group and what all groups leave.
- `mergeAll_faithful`: at every point of a run the tables are faithful to those at its start.
-/

namespace RegistryDedup

variable {s : Settings} {run : String} {g : DuplicateGroup} {selection : Selection}
  {h before : Transcript} {start t t' : Tables}

/-! ## Tables at the end of a line -/

/-- What may be answered to a call, and the tables afterwards. -/
inductive Tables.Answers (t : Tables) (r : Request) : Attempt r.Answer → Tables → Prop where
  /-- The line is fine. -/
  | truly : t.Answers r (.answered (Tables.call r t).1) (Tables.call r t).2
  /-- The call got through, its answer did not. -/
  | done {x : Attempt r.Answer} (hfailed : x.Failed) : t.Answers r x (Tables.call r t).2
  /-- The call did not get through. -/
  | lost {x : Attempt r.Answer} (hfailed : x.Failed)
      (hmove : ∀ table column source target, r = .repoint table column source target →
        ∀ f, x = .answered (.error f) → ¬ f.isNotFound) : t.Answers r x t

/-- A result is that of the call itself. -/
theorem Tables.Answers.eq_ok {r : Request} {a : r.Answer}
    (he : t.Answers r (.answered (.ok a)) t') : Tables.call r t = (.ok a, t') := by
  generalize hx : (Attempt.answered (.ok a) : Attempt r.Answer) = x at he
  cases he with
  | truly =>
    injection hx with hx
    rw [hx]
  | done hfailed => exact absurd hx.symm (hfailed a)
  | lost hfailed _ => exact absurd hx.symm (hfailed a)

/-- Tables at the end of a line that may fail. Lock, journal and time are elsewhere. -/
def Tables.unreliable : Action.interface.Environment Tables
  | .call r, t, x, t' => t.Answers r x t'
  | _, t, _, t' => t' = t

/-- What changes nothing leaves the tables as they are, whatever is answered. -/
theorem unreliable_quiet {a : Action} (ha : a.Quiet) {x : Action.interface.Answer a}
    (he : Tables.unreliable a t x t') : t' = t := by
  cases a with
  | call r =>
    have hcall : (Tables.call r t).2 = t := by
      cases r <;> first | rfl | exact absurd trivial ha
    cases he with
    | truly => exact hcall
    | done _ => exact hcall
    | lost _ _ => rfl
  | _ => exact he

/-- A store in memory answers as one at the end of a line may. -/
theorem unreliable_answer (a : Action) (w : World Tables) :
    Tables.unreliable a w.state (World.answer Tables.store a w).1
      (World.answer Tables.store a w).2.state := by
  cases a with
  | call r => exact .truly
  | pick others => rfl
  | now => rfl
  | releaseLock path => rfl
  | acquireLock path =>
    rw [World.answer]
    split <;> rfl
  | openJournal path =>
    rw [World.answer]
    split <;> rfl
  | appendJournal path entry =>
    rw [World.answer]
    split <;> rfl

/-- A call that did not get through is no move that came to its end. -/
theorem not_movedBy_of_lost {r : Request} {x : Attempt r.Answer} (hfailed : x.Failed)
    (hmove : ∀ table column source target, r = .repoint table column source target →
      ∀ f, x = .answered (.error f) → ¬ f.isNotFound) (d : Dependent) (l keep : String) :
    ¬ MovedBy d l keep ⟨Action.call r, x⟩ := by
  rintro ⟨reply, heq, hreply⟩
  obtain rfl : r = _ := Action.call.inj (Sigma.mk.inj heq).1
  obtain rfl : x = _ := eq_of_heq (Sigma.mk.inj heq).2
  cases reply with
  | ok n => exact hfailed n rfl
  | error f => exact hmove _ _ _ _ rfl f rfl (hreply f rfl)

/-- What a run may ask: what changes nothing, and what concerns a group. -/
def Settings.MayAsk (s : Settings) (a : Action) : Prop :=
  a.Quiet ∨ ∃ g selection, Confined s g selection a

/-- What a run may ask leaves the columns of all tables, and adds no entity. -/
theorem Settings.MayAsk.leaves (hs : s.Foreign) {a : Action} (ha : s.MayAsk a)
    {x : Action.interface.Answer a} (he : Tables.unreliable a t x t') :
    Tables.Alike t t' ∧ (s.census t').Sublist (s.census t) := by
  have hsame : t' = t → Tables.Alike t t' ∧ (s.census t').Sublist (s.census t) := by
    rintro rfl
    exact ⟨.refl _, .refl _⟩
  rcases ha with hquiet | ⟨g, selection, ⟨path, entry, rfl⟩ | rfl | ⟨d, hd, l, hl, rfl⟩ |
    ⟨l, hl, rfl⟩⟩
  · exact hsame (unreliable_quiet hquiet he)
  · exact hsame he
  · refine hsame ?_
    cases he <;> rfl
  · have hmoved : ∀ u, u = (t.repoint d.table d.column l selection.keep.id).2 →
        Tables.Alike t u ∧ (s.census u).Sublist (s.census t) := by
      rintro u rfl
      refine ⟨Tables.alike_repoint _ _ _ _ _, ?_⟩
      rw [census_repoint hs hd]
    cases he with
    | truly => exact hmoved _ rfl
    | done _ => exact hmoved _ rfl
    | lost _ _ => exact hsame rfl
  · have hdeleted : ∀ u, u = (t.deleteIds s.entity.table s.entity.idColumn [l]).2 →
        Tables.Alike t u ∧ (s.census u).Sublist (s.census t) := by
      rintro u rfl
      exact ⟨Tables.alike_deleteIds _ _ _ _, census_deleteIds l⟩
    cases he with
    | truly => exact hdeleted _ rfl
    | done _ => exact hdeleted _ rfl
    | lost _ _ => exact hsame rfl

theorem follows_mayAsk (hs : s.Foreign) (hh : ∀ e ∈ h, s.MayAsk e.1)
    (hf : Tables.unreliable.Follows t h t') :
    Tables.Alike t t' ∧ (s.census t').Sublist (s.census t) := by
  induction h generalizing t with
  | nil =>
    obtain rfl := hf
    exact ⟨.refl _, .refl _⟩
  | cons e h ih =>
    rw [List.forall_mem_cons] at hh
    obtain ⟨u, he, hf⟩ := hf
    obtain ⟨halike, hcensus⟩ := hh.1.leaves hs he
    obtain ⟨halike', hcensus'⟩ := ih hh.2 hf
    exact ⟨halike.trans halike', hcensus'.trans hcensus⟩

theorem Orderly.mayAsk (ho : Orderly s g h) : ∀ e ∈ h, s.MayAsk e.1 := by
  intro e he
  by_cases hquiet : e.1.Quiet
  · exact .inl hquiet
  · obtain ⟨selection, -, hconfined⟩ := ho.confined e he hquiet
    exact .inr ⟨g, selection, hconfined⟩

theorem GroupsCourse.mayAsk {groups : List DuplicateGroup}
    {segments : List (DuplicateGroup × Transcript)} (hc : GroupsCourse s run groups segments) :
    ∀ e ∈ (segments.map (·.2)).flatten, s.MayAsk e.1 := by
  intro e he
  obtain ⟨_, hpart, he⟩ := List.mem_flatten.mp he
  obtain ⟨seg, hseg, rfl⟩ := List.mem_map.mp hpart
  exact (asks_mergeGroup_orderly (hc.begun.2 seg hseg)).mayAsk e he

theorem RunCourse.mayAsk (hc : RunCourse s run h) : ∀ e ∈ h, s.MayAsk e.1 := by
  cases hc with
  | unread hquiet => exact fun e he => .inl (hquiet e he)
  | read _ hopening hgroups hclosing =>
    intro e he
    rcases List.mem_append.mp he with he | he
    · exact .inl (hopening e he)
    · rcases List.mem_append.mp he with he | he
      · exact hgroups.mayAsk e he
      · exact .inl (hclosing e he)

/-! ## One group -/

/-- Tables at the start of a group: its members are entities with its key. -/
structure GroupStart (s : Settings) (g : DuplicateGroup) (selection : Selection) (t : Tables) :
    Prop where
  foreign : s.Foreign
  distinct : DistinctIds s t
  named : g.key ≠ ""
  keep_resolves : ResolvesTo s t selection.keep.id g.key
  loser_resolves : ∀ l ∈ selection.loserIds, ResolvesTo s t l g.key
  keep_spared : selection.keep.id ∉ selection.loserIds

/-- Tables while a group is merged, after some of what is asked for it. -/
structure GroupState (s : Settings) (g : DuplicateGroup) (selection : Selection) (start : Tables)
    (before : Transcript) (t : Tables) : Prop where
  faithful : Faithful s start t
  /-- Only losers are deleted. -/
  spared : ∀ id key, ResolvesTo s start id key → id ∉ selection.loserIds → ResolvesTo s t id key
  /-- No reference leads to a loser from where all were moved, and none to one that is gone. -/
  free : ∀ d ∈ s.dependents, ∀ l ∈ selection.loserIds,
    (∃ e ∈ before, MovedBy d l selection.keep.id e) ∨ ¬ ResolvesTo s t l g.key →
    ∀ row ∈ t.rows d.table, row.text? d.column ≠ some l

namespace GroupState

theorem initial (hg : GroupStart s g selection start) :
    GroupState s g selection start [] start where
  faithful := .of_rows_eq fun _ => rfl
  spared _ _ hto _ := hto
  free := by
    rintro d hd l hl (⟨e, he, -⟩ | hgone)
    · exact absurd he List.not_mem_nil
    · exact absurd (hg.loser_resolves l hl) hgone

/-- What changes nothing and is no move leaves the state as it is. -/
theorem unchanged (hu : GroupState s g selection start before t) {e : Action.interface.Exchange}
    (he : ∀ d l keep, ¬ MovedBy d l keep e) :
    GroupState s g selection start (before ++ [e]) t where
  faithful := hu.faithful
  spared := hu.spared
  free := by
    rintro d hd l hl (⟨e', he', hmoved⟩ | hgone)
    · rcases List.mem_append.mp he' with he' | he'
      · exact hu.free d hd l hl (.inl ⟨e', he', hmoved⟩)
      · rw [List.mem_singleton.mp he'] at hmoved
        exact absurd hmoved (he _ _ _)
    · exact hu.free d hd l hl (.inr hgone)

/-- A move that was made. -/
theorem repointed (hg : GroupStart s g selection start)
    (hu : GroupState s g selection start before t) {d : Dependent} (hd : d ∈ s.dependents)
    {l : String} (hl : l ∈ selection.loserIds) {e : Action.interface.Exchange}
    (he : e.1 = .call (.repoint d.table d.column l selection.keep.id)) :
    GroupState s g selection start (before ++ [e])
      (t.repoint d.table d.column l selection.keep.id).2 := by
  have hkeep := hu.spared _ _ hg.keep_resolves hg.keep_spared
  have hloser : ResolvesTo s t l g.key ∨ ∀ row ∈ t.rows d.table, row.text? d.column ≠ some l := by
    by_cases hto : ResolvesTo s t l g.key
    · exact .inl hto
    · exact .inr (hu.free d hd l hl (.inr hto))
  have hstep := faithful_repoint hg.foreign (hu.faithful.distinctIds hg.distinct) hd hg.named hkeep
    hloser
  refine { faithful := hu.faithful.trans hg.foreign hstep, spared := ?_, free := ?_ }
  · intro id key hto hid
    exact (resolvesTo_repoint hg.foreign hd _ _ id key).mpr (hu.spared id key hto hid)
  · intro d' hd' l' hl' hfree row hrow hcell
    -- The references were gone before, or this is the move that takes them away.
    have hcases : (∀ row ∈ t.rows d'.table, row.text? d'.column ≠ some l') ∨
        (d'.table = d.table ∧ d'.column = d.column ∧ l' = l) := by
      rcases hfree with ⟨e', he', hmoved⟩ | hgone
      · rcases List.mem_append.mp he' with he' | he'
        · exact .inl (hu.free d' hd' l' hl' (.inl ⟨e', he', hmoved⟩))
        · obtain ⟨reply, rfl, -⟩ := hmoved
          obtain rfl := List.mem_singleton.mp he'
          injection he with he
          injection he with htable hcolumn hsource
          exact .inr ⟨htable, hcolumn, hsource⟩
      · refine .inl (hu.free d' hd' l' hl' (.inr fun hto => hgone ?_))
        exact (resolvesTo_repoint hg.foreign hd _ _ _ _).mpr hto
    rw [Tables.rows_repoint] at hrow
    by_cases htable : d'.table = d.table
    · rw [if_pos htable] at hrow
      obtain ⟨old, holdRow, rfl⟩ := List.mem_map.mp hrow
      have hkept : l' ≠ selection.keep.id := fun heq => hg.keep_spared (heq ▸ hl')
      obtain ⟨hold, hother⟩ := Row.text?_of_moved hkept hcell
      rcases hcases with hnone | ⟨-, hcolumn, hsource⟩
      · exact hnone old (htable ▸ holdRow) hold
      · exact hother hcolumn hsource
    · rw [if_neg htable] at hrow
      rcases hcases with hnone | ⟨heq, -⟩
      · exact hnone row hrow hcell
      · exact htable heq

/-- A delete that was made, or refused. -/
theorem deleted (hg : GroupStart s g selection start)
    (hu : GroupState s g selection start before t)
    (hmoved : ∀ d ∈ s.dependents, ∀ l ∈ selection.loserIds,
      ∃ e ∈ before, MovedBy d l selection.keep.id e)
    {l : String} (hl : l ∈ selection.loserIds) {e : Action.interface.Exchange}
    (he : e.1 = .call (.deleteIds s.entity.table s.entity.idColumn [l])) :
    GroupState s g selection start (before ++ [e])
      (t.deleteIds s.entity.table s.entity.idColumn [l]).2 := by
  by_cases hfailing : (s.entity.table, l) ∈ t.failingDeletes
  · rw [Tables.deleteIds_of_failing hfailing]
    refine hu.unchanged (not_movedBy fun _ _ _ _ hmove => ?_)
    cases he.symm.trans hmove
  have hfree : ∀ d ∈ s.dependents, ∀ l' ∈ selection.loserIds, ∀ row ∈ t.rows d.table,
      row.text? d.column ≠ some l' :=
    fun d hd l' hl' => hu.free d hd l' hl' (.inl (hmoved d hd l' hl'))
  have hkeep := hu.spared _ _ hg.keep_resolves hg.keep_spared
  have hne : selection.keep.id ≠ l := fun heq => hg.keep_spared (heq ▸ hl)
  have honly : ∀ key', ResolvesTo s t l key' → key' = g.key := fun key' hto =>
    hg.distinct.key_unique (hu.faithful.source hto) (hg.loser_resolves l hl)
  have hstep := faithful_deleteIds hg.named hne hkeep honly (fun d hd => hfree d hd l hl) hfailing
  refine { faithful := hu.faithful.trans hg.foreign hstep, spared := ?_, free := ?_ }
  · intro id key hto hid
    refine (resolvesTo_deleteIds hfailing id key).mpr ⟨hu.spared id key hto hid, ?_⟩
    rintro rfl
    exact hid hl
  · intro d hd l' hl' _ row hrow
    rw [Tables.rows_deleteIds hfailing] at hrow
    by_cases htable : d.table = s.entity.table
    · rw [if_pos htable] at hrow
      exact hfree d hd l' hl' row (htable ▸ (List.mem_filter.mp hrow).1)
    · rw [if_neg htable] at hrow
      exact hfree d hd l' hl' row hrow

end GroupState

/-- The state after each point of what is asked for a group. -/
theorem groupState_of_prefix (hg : GroupStart s g selection start) (ho : Orderly s g h)
    (hchosen : Chosen s g h selection) (hbefore : before <+: h)
    (hf : Tables.unreliable.Follows start before t) :
    GroupState s g selection start before t := by
  induction before using List.reverseRecOn generalizing t with
  | nil =>
    obtain rfl := hf
    exact .initial hg
  | append_singleton before e ih =>
    obtain ⟨u, hf, he⟩ := Interface.Environment.follows_append.mp hf
    rw [Interface.Environment.follows_singleton] at he
    have hu := ih ((List.prefix_append _ _).trans hbefore) hf
    have hmem : e ∈ h := hbefore.subset (List.mem_append_right _ List.mem_cons_self)
    by_cases hquiet : e.1.Quiet
    · obtain rfl := unreliable_quiet hquiet he
      refine hu.unchanged (not_movedBy fun _ _ _ _ hmove => ?_)
      rw [hmove] at hquiet
      exact hquiet trivial
    obtain ⟨selection', hchosen', hconfined⟩ := ho.confined e hmem hquiet
    obtain rfl := hchosen.unique hchosen'
    obtain ⟨a, x⟩ := e
    rcases hconfined with ⟨path, entry, rfl⟩ | rfl | ⟨d, hd, l, hl, rfl⟩ | ⟨l, hl, rfl⟩
    · obtain rfl : t = u := he
      refine hu.unchanged (not_movedBy fun _ _ _ _ hmove => ?_)
      cases hmove
    · obtain rfl : t = u := by
        cases he <;> rfl
      refine hu.unchanged (not_movedBy fun _ _ _ _ hmove => ?_)
      cases hmove
    · cases he with
      | truly => exact hu.repointed hg hd hl rfl
      | done _ => exact hu.repointed hg hd hl rfl
      | lost hfailed hmove => exact hu.unchanged (not_movedBy_of_lost hfailed hmove)
    · -- A delete comes after all moves, and these are in what was asked before.
      have hmoved : ∀ d ∈ s.dependents, ∀ l ∈ selection.loserIds,
          ∃ e ∈ before, MovedBy d l selection.keep.id e := by
        obtain ⟨rest, rfl⟩ := hbefore
        exact ho.movedFirst selection hchosen _ _ rest (List.append_assoc _ _ _) ⟨_, _, _, rfl⟩
      cases he with
      | truly => exact hu.deleted hg hmoved hl rfl
      | done _ => exact hu.deleted hg hmoved hl rfl
      | lost hfailed hmove => exact hu.unchanged (not_movedBy_of_lost hfailed hmove)

/-- What a group leaves, at every point: the tables keep their references, and all entities with
another key. -/
theorem follows_mergeGroup (hs : s.Foreign) (hdistinct : DistinctIds s t) (hkey : g.key ≠ "")
    (hids : g.ids.Nodup) (hmembers : ∀ id ∈ g.ids, ResolvesTo s t id g.key)
    (ha : (mergeGroup s run g).Asks h) (hf : Tables.unreliable.Follows t h t') :
    Faithful s t t' ∧
      ∀ id key, ResolvesTo s t id key → key ≠ g.key → ResolvesTo s t' id key := by
  have ho := asks_mergeGroup_orderly ha
  by_cases hquiet : ∀ e ∈ h, e.1.Quiet
  · obtain rfl := hf.unchanged fun e he _ _ => unreliable_quiet (hquiet e he)
    exact ⟨.of_rows_eq fun _ => rfl, fun _ _ hto _ => hto⟩
  obtain ⟨e, he, hchanges⟩ : ∃ e ∈ h, ¬ e.1.Quiet := by
    by_contra hnone
    exact hquiet fun e he => by_contra fun hchanges => hnone ⟨e, he, hchanges⟩
  obtain ⟨selection, hchosen, -⟩ := ho.confined e he hchanges
  obtain ⟨counting, counts, -, -, hselect⟩ := id hchosen
  have hperm : g.ids.Perm (selection.keep.id :: selection.loserIds) := select_ids_perm hselect
  have hg : GroupStart s g selection t := {
    foreign := hs
    distinct := hdistinct
    named := hkey
    keep_resolves := hmembers _ (hperm.mem_iff.mpr List.mem_cons_self)
    loser_resolves := fun l hl => hmembers l (hperm.mem_iff.mpr (List.mem_cons_of_mem _ hl))
    keep_spared := keep_not_mem_loserIds hselect hids }
  have hstate := groupState_of_prefix hg ho hchosen (List.prefix_refl h) hf
  refine ⟨hstate.faithful, fun id key hto hother => hstate.spared id key hto fun hl => ?_⟩
  exact hother (hdistinct.key_unique hto (hg.loser_resolves id hl))

/-! ## All groups -/

/-- What all groups leave, at every point. A group that waits has its members still. -/
theorem follows_groups (hs : s.Foreign) {groups : List DuplicateGroup}
    {segments : List (DuplicateGroup × Transcript)} (hc : GroupsCourse s run groups segments)
    (hkeys : (groups.map (·.key)).Nodup) (hdistinct : DistinctIds s t)
    (hgroups : ∀ g ∈ groups, g.key ≠ "" ∧ g.ids.Nodup ∧ ∀ id ∈ g.ids, ResolvesTo s t id g.key)
    (hf : Tables.unreliable.Follows t (segments.map (·.2)).flatten t') : Faithful s t t' := by
  induction hc generalizing t with
  | stopped =>
    obtain rfl := hf
    exact .of_rows_eq fun _ => rfl
  | last hlast =>
    obtain ⟨⟨hkey, hids, hmembers⟩, -⟩ := List.forall_mem_cons.mp hgroups
    refine (follows_mergeGroup hs hdistinct hkey hids hmembers hlast ?_).1
    simpa using hf
  | next hfirst _ ih =>
    obtain ⟨⟨hkey, hids, hmembers⟩, hrest⟩ := List.forall_mem_cons.mp hgroups
    rw [List.map_cons, List.nodup_cons] at hkeys
    rw [List.map_cons, List.flatten_cons, Interface.Environment.follows_append] at hf
    obtain ⟨u, hf, hf'⟩ := hf
    obtain ⟨hfaithful, hothers⟩ :=
      follows_mergeGroup hs hdistinct hkey hids hmembers hfirst.asks hf
    refine hfaithful.trans hs (ih hkeys.2 (hfaithful.distinctIds hdistinct) ?_ hf')
    -- The groups that wait have other keys, so their members are still there.
    intro g' hg'
    obtain ⟨hkey', hids', hmembers'⟩ := hrest g' hg'
    refine ⟨hkey', hids', fun id hid => hothers id _ (hmembers' id hid) fun heq => ?_⟩
    exact hkeys.1 (heq ▸ List.mem_map_of_mem hg')

/-! ## A whole run -/

/-- The entities of a table. -/
def Settings.entities (s : Settings) (t : Tables) : List Entity :=
  (t.rows s.entity.table).filterMap (Row.entity? s.entity)

theorem entities_ids (s : Settings) (t : Tables) :
    (s.entities t).map (·.id) = (t.rows s.entity.table).filterMap (·.text? s.entity.idColumn) := by
  rw [Settings.entities, List.map_filterMap]
  congr 1
  funext row
  rw [Row.entity?]
  cases row.text? s.entity.idColumn <;> rfl

theorem resolvesTo_iff_entities {id key : String} :
    ResolvesTo s t id key ↔ ∃ e ∈ s.entities t, e.id = id ∧ s.normalizer.key e.name = key := by
  constructor
  · rintro ⟨row, hrow, hid, rfl⟩
    let e : Entity := ⟨id, (row.string? s.entity.nameColumn).getD "",
      s.entity.createdColumn.bind row.instant?⟩
    have he : row.entity? s.entity = some e := by
      rw [Row.entity?, hid]
      rfl
    exact ⟨e, List.mem_filterMap.mpr ⟨row, hrow, he⟩, rfl, rfl⟩
  · rintro ⟨e, he, rfl, rfl⟩
    obtain ⟨row, hrow, hentity⟩ := List.mem_filterMap.mp he
    rw [Row.entity?] at hentity
    cases hid : row.text? s.entity.idColumn with
    | none =>
      rw [hid] at hentity
      cases hentity
    | some id =>
      rw [hid] at hentity
      cases hentity
      exact ⟨row, hrow, hid, rfl⟩

/-- Only the table itself can say which entities it has. -/
theorem fetched_entities {entities : List Entity}
    (he : Tables.unreliable (Action.call (.fetchEntities s.entity)) t
      (Attempt.answered (.ok entities)) t') : entities = s.entities t := by
  have hcall := congrArg Prod.fst (Tables.Answers.eq_ok he)
  change t.fetchEntities s.entity = .ok entities at hcall
  rw [Tables.fetchEntities, Tables.reading] at hcall
  cases hu : t.find? s.entity.table with
  | none =>
    rw [hu] at hcall
    cases hcall
  | some u =>
    rw [hu] at hcall
    cases hcall
    rw [Settings.entities, Tables.rows_of_find? hu]

/-- The candidates of a table are groups of its entities, with no id twice. -/
theorem candidates_resolve (hdistinct : DistinctIds s t)
    (hg : g ∈ (Grouping.build s.normalizer (s.entities t)).candidates) :
    g.key ≠ "" ∧ g.ids.Nodup ∧ ∀ id ∈ g.ids, ResolvesTo s t id g.key := by
  obtain ⟨hkey, hmembers, -⟩ := Grouping.mem_candidates.mp hg
  refine ⟨hkey, ?_, fun id hid => ?_⟩
  · rw [DistinctIds, ← entities_ids] at hdistinct
    rw [DuplicateGroup.ids, hmembers]
    exact hdistinct.sublist (List.filter_sublist.map _)
  · obtain ⟨e, he, rfl⟩ := List.mem_map.mp hid
    obtain ⟨he, hname⟩ := (Grouping.mem_of_mem_candidates hg).mp he
    exact resolvesTo_iff_entities.mpr ⟨e, he, rfl, hname⟩

theorem RunCourse.faithful (hs : s.Foreign) (hdistinct : DistinctIds s t) (hc : RunCourse s run h)
    (hf : Tables.unreliable.Follows t h t') : Faithful s t t' := by
  cases hc with
  | unread hquiet =>
    obtain rfl := hf.unchanged fun e he _ _ => unreliable_quiet (hquiet e he)
    exact .of_rows_eq fun _ => rfl
  | read hfetch hopening hgroups hclosing =>
    rw [Interface.Environment.follows_append] at hf
    obtain ⟨u, hf, hf'⟩ := hf
    rw [Interface.Environment.follows_append] at hf'
    obtain ⟨v, hf', hf''⟩ := hf'
    -- The tables are still those at the start when their entities are fetched.
    have hanswers := hf.answers fun e he _ _ => unreliable_quiet (hopening e he)
    obtain rfl := fetched_entities (hanswers _ hfetch)
    obtain rfl := hf.unchanged fun e he _ _ => unreliable_quiet (hopening e he)
    obtain rfl := hf''.unchanged fun e he _ _ => unreliable_quiet (hclosing e he)
    exact follows_groups hs hgroups (Grouping.candidates_keys_nodup _ _) hdistinct
      (fun g hg => candidates_resolve hdistinct hg) hf'

/-- At every point of a run on tables at the end of a line that may fail, the tables are faithful to
those at the start: references lead to entities with the same key as before, cells that led to no
key are as they were, and no entity without a key is deleted. -/
theorem mergeAll_faithful {backend : String} (hs : s.Foreign) (hdistinct : DistinctIds s t)
    (ha : (mergeAll s backend run).Asks h) (hf : Tables.unreliable.Follows t h t') :
    Faithful s t t' :=
  (asks_mergeAll ha).faithful hs hdistinct hf

namespace Sample

/-- What a run leaves of some tables. -/
def after (t : Tables) : Tables :=
  (World.perform Tables.store (mergeAll settings "memory" "run") (world t)).2.state

theorem foreign : settings.Foreign := by
  simp [Settings.Foreign, settings]

theorem distinctIds : DistinctIds settings tables := by
  unfold DistinctIds
  decide

/-- A store in memory is one whose line is fine. -/
theorem follows (t : Tables) : Tables.unreliable.Follows t (transcript t) (after t) :=
  Program.follows_transcript World.state unreliable_answer _ (world t)

end Sample

/-- The project of the second region refers to the first one afterwards. -/
theorem mergeAll_faithful_sample :
    ((Sample.after Sample.tables).rows "regions").map (·.text? "id") = [some "r1"] ∧
    ((Sample.after Sample.tables).rows "projects").map (·.text? "region_id") = [some "r1"] ∧
    Faithful Sample.settings Sample.tables (Sample.after Sample.tables) := by
  refine ⟨by decide +kernel, by decide +kernel, ?_⟩
  exact mergeAll_faithful Sample.foreign Sample.distinctIds (Program.yields_transcript _ _ _).asks
    (Sample.follows Sample.tables)

end RegistryDedup
