import RegistryDedup.Proofs.Merge.Election
import RegistryDedup.Proofs.Merge.Reliable

/-!
# Tables on which several runs are under way

Runs that all go by the survivors that the tables of the start elect may move references and delete
losers in any order. No reference is lost on the way, and at any time the tables still favour the
same survivors: their references become no fewer, and those of the losers no more.

- `MergeStep`: a call of such a run that changes the tables. A loser is deleted when no reference
  leads to it.
- `Leans`: the references of the survivors and of the losers before and after. Each step leans
  (`MergeStep.leans`), and so do steps one after the other.
- `Underway`: what holds of the tables after any such steps (`Underway.steps`), with one lemma for
  each kind of step.
-/

namespace RegistryDedup

open Relation

variable {s : Settings} {g : DuplicateGroup} {sel : Selection} {start t t' t'' : Tables}
  {d d' : Dependent} {l l' keep id key : String}

/-! ## Entities and references after a call -/

/-- The entities after references were moved in another table. -/
theorem entities_repoint (hd : d.table ≠ s.entity.table) (source target : String) :
    s.entities (t.repoint d.table d.column source target).2 = s.entities t := by
  rw [Settings.entities, Tables.rows_repoint, if_neg hd.symm, Settings.entities]

/-- The entities after one of them was deleted. -/
theorem entities_deleteIds (hallowed : (s.entity.table, l) ∉ t.failingDeletes) :
    s.entities (t.deleteIds s.entity.table s.entity.idColumn [l]).2 =
      (s.entities t).filter (fun e => e.id ≠ l) := by
  rw [Settings.entities, Tables.rows_deleteIds hallowed, if_pos rfl, Settings.entities]
  rw [List.filterMap_filter, List.filter_filterMap]
  congr 1
  funext row
  rw [Row.has, Row.entity?]
  cases row.text? s.entity.idColumn with
  | none => rfl
  | some id =>
    by_cases hid : id = l
    · simp [hid, Option.filter]
    · simp [hid, Option.filter]

/-- A move adds references only to its target. -/
theorem references_repoint_le (hne : id ≠ keep) (d d' : Dependent) :
    (t.repoint d.table d.column l keep).2.references d' id ≤ t.references d' id := by
  rw [Tables.references, Tables.rows_repoint, Tables.references]
  by_cases htable : d'.table = d.table
  · rw [if_pos htable, List.countP_map, htable]
    refine List.countP_mono_left fun row _ hrow => ?_
    exact Row.has_iff.mpr (Row.text?_of_moved hne (Row.has_iff.mp hrow)).1
  · rw [if_neg htable]

/-- A move takes references only from its source. -/
theorem le_references_repoint (hne : id ≠ l) (d d' : Dependent) :
    t.references d' id ≤ (t.repoint d.table d.column l keep).2.references d' id := by
  rw [Tables.references, Tables.references, Tables.rows_repoint]
  by_cases htable : d'.table = d.table
  · rw [if_pos htable, List.countP_map, htable]
    refine List.countP_mono_left fun row _ hrow => Row.has_iff.mpr ?_
    have htext := Row.has_iff.mp hrow
    by_cases hcolumn : d'.column = d.column
    · rw [hcolumn] at htext ⊢
      rw [Row.text?_moved_of_not, htext]
      rw [htext]
      exact fun heq => hne (Option.some.inj heq)
    · rw [Row.text?_moved_of_ne hcolumn, htext]
  · rw [if_neg htable]

/-- A move leaves no reference to its source. -/
theorem references_repoint_source (hne : l ≠ keep) (t : Tables) (d : Dependent) :
    (t.repoint d.table d.column l keep).2.references d l = 0 := by
  rw [Tables.references_eq_zero, Tables.rows_repoint, if_pos rfl]
  intro row hrow htext
  obtain ⟨old, -, rfl⟩ := List.mem_map.mp hrow
  exact (Row.text?_of_moved hne htext).2 rfl rfl

/-- A delete leaves the references of other tables. -/
theorem references_deleteIds {table column : String} (hd : d.table ≠ table)
    (hallowed : (table, l) ∉ t.failingDeletes) (id : String) :
    (t.deleteIds table column [l]).2.references d id = t.references d id := by
  rw [Tables.references, Tables.rows_deleteIds hallowed, if_neg hd, Tables.references]

/-! ## Steps -/

/-- A call of a run that goes by the survivors of the start. -/
inductive MergeStep (s : Settings) (start : Tables) : Tables → Tables → Prop where
  | moved {t : Tables} {g : DuplicateGroup} {sel : Selection} {d : Dependent} {l : String}
      (helects : Elects s start g sel) (hd : d ∈ s.dependents) (hl : l ∈ sel.loserIds) :
      MergeStep s start t (t.repoint d.table d.column l sel.keep.id).2
  | deleted {t : Tables} {g : DuplicateGroup} {sel : Selection} {l : String}
      (helects : Elects s start g sel) (hl : l ∈ sel.loserIds)
      (hfree : ∀ d ∈ s.dependents, t.references d l = 0) :
      MergeStep s start t (t.deleteIds s.entity.table s.entity.idColumn [l]).2

/-- Settings with the same policy that work on the same tables make the same steps. -/
theorem MergeStep.of_agrees {s' : Settings} (ha : s.Agrees s') (hpolicy : s'.policy = s.policy)
    (hstep : MergeStep s' start t t') : MergeStep s start t t' := by
  cases hstep with
  | moved helects hd hl => exact .moved (helects.of_agrees ha hpolicy) (ha.dependents ▸ hd) hl
  | deleted helects hl hfree =>
    rw [ha.entity]
    exact .deleted (helects.of_agrees ha hpolicy) hl fun d hd => hfree d (ha.dependents.symm ▸ hd)

theorem mergeStep_eq {s' : Settings} (ha : s.Agrees s') (hpolicy : s'.policy = s.policy) :
    MergeStep s' start = MergeStep s start := by
  funext t t'
  exact propext ⟨.of_agrees ha hpolicy, .of_agrees ha.symm hpolicy.symm⟩

/-- The references of the survivors become no fewer, and those of the losers no more. -/
structure Leans (s : Settings) (start t t' : Tables) : Prop where
  kept : ∀ g sel, Elects s start g sel → ∀ d ∈ s.dependents,
    t.references d sel.keep.id ≤ t'.references d sel.keep.id
  lost : ∀ g sel, Elects s start g sel → ∀ l ∈ sel.loserIds, ∀ d ∈ s.dependents,
    t'.references d l ≤ t.references d l

namespace Leans

theorem refl (s : Settings) (start t : Tables) : Leans s start t t where
  kept _ _ _ _ _ := Nat.le_refl _
  lost _ _ _ _ _ _ _ := Nat.le_refl _

theorem trans (h : Leans s start t t') (h' : Leans s start t' t'') : Leans s start t t'' where
  kept g sel he d hd := (h.kept g sel he d hd).trans (h'.kept g sel he d hd)
  lost g sel he l hl d hd := (h'.lost g sel he l hl d hd).trans (h.lost g sel he l hl d hd)

/-- A loser without references stays so. -/
theorem free (h : Leans s start t t') (he : Elects s start g sel) (hl : l ∈ sel.loserIds)
    (hd : d ∈ s.dependents) (hnone : t.references d l = 0) : t'.references d l = 0 :=
  Nat.le_zero.mp (hnone ▸ h.lost g sel he l hl d hd)

end Leans

/-! ## What the steps leave -/

section Steps

variable (hapart : ∀ d ∈ s.dependents, d.table ≠ s.entity.table) (hdistinct : DistinctIds s start)
include hapart

/-- A step leaves the columns of all tables, and adds no entity. -/
theorem harmless_mergeStep : Harmless s (ReflTransGen (MergeStep s start)) := by
  intro t t' ht
  induction ht with
  | refl => exact .refl s t
  | tail _ hstep ih =>
    refine ih.trans ?_
    cases hstep with
    | moved _ hd _ => exact .repoint (foreign_of_elsewhere hapart) hd _ _
    | deleted _ _ _ => exact .deleteIds _

include hdistinct

theorem MergeStep.leans (hdeletes : t.failingDeletes = []) (hstep : MergeStep s start t t') :
    Leans s start t t' := by
  have hs := foreign_of_elsewhere hapart
  cases hstep with
  | moved helects hd hl =>
    -- The source is a loser and the target a survivor, so neither is what the other may be.
    exact {
      kept := fun g sel he d' hd' => le_references_repoint (he.keep_ne hs hdistinct helects hl) _ _
      lost := fun g sel he l' hl' d' hd' =>
        references_repoint_le (helects.keep_ne hs hdistinct he hl').symm _ _ }
  | @deleted _ _ l helects hl hfree =>
    have hallowed : (s.entity.table, l) ∉ t.failingDeletes := by
      rw [hdeletes]
      exact List.not_mem_nil
    have hsame : ∀ d ∈ s.dependents, ∀ id,
        (t.deleteIds s.entity.table s.entity.idColumn [l]).2.references d id = t.references d id :=
      fun d hd id => references_deleteIds (hapart d hd) hallowed id
    exact {
      kept := fun g sel he d hd => (hsame d hd _).ge
      lost := fun g sel he l hl d hd => (hsame d hd _).le }

/-- Tables after any number of steps. -/
structure Underway (s : Settings) (start t : Tables) : Prop where
  later : Later s start t
  faithful : Faithful s start t
  leans : Leans s start start t
  /-- Only losers are gone. -/
  left : ∃ p : Entity → Bool, s.entities t = (s.entities start).filter p ∧
    ∀ g sel, Elects s start g sel → p sel.keep = true
  /-- No reference leads to a loser that is gone. -/
  free : ∀ g sel, Elects s start g sel → ∀ l ∈ sel.loserIds, ¬ ResolvesTo s t l g.key →
    ∀ d ∈ s.dependents, t.references d l = 0

namespace Underway

omit hapart hdistinct in
theorem keep_resolves (hu : Underway s start t) (he : Elects s start g sel) :
    ResolvesTo s t sel.keep.id g.key := by
  obtain ⟨p, hleft, hp⟩ := hu.left
  obtain ⟨hmem, hname⟩ :=
    (Grouping.mem_of_mem_candidates he.candidate).mp (he.mem_members.mpr (.inl rfl))
  refine resolvesTo_iff_entities.mpr ⟨sel.keep, ?_, rfl, hname⟩
  rw [hleft]
  exact List.mem_filter.mpr ⟨hmem, hp g sel he⟩

theorem initial : Underway s start start where
  later := .refl s start
  faithful := .of_rows_eq fun _ => rfl
  leans := .refl s start start
  left := ⟨fun _ => true, (List.filter_true _).symm, fun _ _ _ => rfl⟩
  free g sel he l hl hgone := by
    have hstart := he.groupStart (foreign_of_elsewhere hapart) hdistinct
    exact absurd (hstart.loser_resolves l hl) hgone

theorem moved (hu : Underway s start t)
    (hleans : Leans s start t (t.repoint d.table d.column l sel.keep.id).2)
    (he : Elects s start g sel) (hd : d ∈ s.dependents) (hl : l ∈ sel.loserIds) :
    Underway s start (t.repoint d.table d.column l sel.keep.id).2 := by
  have hs := foreign_of_elsewhere hapart
  have hstart := he.groupStart hs hdistinct
  have hloser : ResolvesTo s t l g.key ∨ ∀ row ∈ t.rows d.table, row.text? d.column ≠ some l := by
    by_cases hto : ResolvesTo s t l g.key
    · exact .inl hto
    · exact .inr (Tables.references_eq_zero.mp (hu.free g sel he l hl hto d hd))
  have hstep := faithful_repoint hs (hdistinct.of_sublist hu.later.census) hd hstart.named
    (hu.keep_resolves he) hloser
  refine { later := hu.later.trans (.repoint hs hd _ _), faithful := hu.faithful.trans hs hstep,
           leans := hu.leans.trans hleans, left := ?_, free := ?_ }
  · rw [entities_repoint (hapart d hd)]
    exact hu.left
  · intro g' sel' he' l' hl' hgone d' hd'
    rw [resolvesTo_repoint hs hd] at hgone
    exact hleans.free he' hl' hd' (hu.free g' sel' he' l' hl' hgone d' hd')

theorem deleted (hu : Underway s start t) (hallowed : (s.entity.table, l) ∉ t.failingDeletes)
    (hleans : Leans s start t (t.deleteIds s.entity.table s.entity.idColumn [l]).2)
    (he : Elects s start g sel) (hl : l ∈ sel.loserIds)
    (hfree : ∀ d ∈ s.dependents, t.references d l = 0) :
    Underway s start (t.deleteIds s.entity.table s.entity.idColumn [l]).2 := by
  have hs := foreign_of_elsewhere hapart
  have hstart := he.groupStart hs hdistinct
  have honly : ∀ key', ResolvesTo s t l key' → key' = g.key := fun key' hto =>
    hdistinct.key_unique (hu.later.resolvesTo hto) (hstart.loser_resolves l hl)
  have hstep := faithful_deleteIds hstart.named (he.keep_ne hs hdistinct he hl)
    (hu.keep_resolves he) honly (fun d hd => Tables.references_eq_zero.mp (hfree d hd)) hallowed
  refine { later := hu.later.trans (.deleteIds l), faithful := hu.faithful.trans hs hstep,
           leans := hu.leans.trans hleans, left := ?_, free := ?_ }
  · obtain ⟨p, hleft, hp⟩ := hu.left
    refine ⟨fun e => p e && decide (e.id ≠ l), ?_, fun g' sel' he' => ?_⟩
    · rw [entities_deleteIds hallowed, hleft, List.filter_filter]
      simp only [Bool.and_comm]
    · simp [hp g' sel' he', he'.keep_ne hs hdistinct he hl]
  · intro g' sel' he' l' hl' hgone d' hd'
    -- The loser is the one that is deleted now, or it was gone before.
    refine hleans.free he' hl' hd' ?_
    by_cases heq : l' = l
    · rw [heq]
      exact hfree d' hd'
    · refine hu.free g' sel' he' l' hl' (fun hto => hgone ?_) d' hd'
      exact (resolvesTo_deleteIds hallowed _ _).mpr ⟨hto, heq⟩

theorem step (hdeletes : start.failingDeletes = []) (hu : Underway s start t)
    (hstep : MergeStep s start t t') : Leans s start t t' ∧ Underway s start t' := by
  have hdeletes' : t.failingDeletes = [] := hu.later.alike.failingDeletes.trans hdeletes
  have hleans := hstep.leans hapart hdistinct hdeletes'
  refine ⟨hleans, ?_⟩
  cases hstep with
  | moved helects hd hl => exact hu.moved hapart hdistinct hleans helects hd hl
  | deleted helects hl hfree =>
    refine hu.deleted hapart hdistinct ?_ hleans helects hl hfree
    rw [hdeletes']
    exact List.not_mem_nil

/-- Further steps leave such tables, and lean. -/
theorem steps (hdeletes : start.failingDeletes = []) (hu : Underway s start t)
    (ht : ReflTransGen (MergeStep s start) t t') : Leans s start t t' ∧ Underway s start t' := by
  induction ht with
  | refl => exact ⟨.refl s start t, hu⟩
  | tail _ hstep ih =>
    obtain ⟨hleans, hu'⟩ := ih.2.step hapart hdistinct hdeletes hstep
    exact ⟨ih.1.trans hleans, hu'⟩

end Underway

end Steps

end RegistryDedup
