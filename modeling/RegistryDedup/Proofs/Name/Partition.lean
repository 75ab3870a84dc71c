import Mathlib.Data.List.Forall2
import Mathlib.Data.List.Induction
import RegistryDedup.Proofs.Name.Grouping
import RegistryDedup.Proofs.Name.Normalizer

/-!
# Entities by key as a partition

Entities are put in their places one after the other: one without a key is kept apart, one with a
key goes to the entities that have the same key, and the first of a key opens a group behind the
others. What is to be known of all groups follows from what one such step does, or from the order in
which the keys come up.

- `Grouping.step`, `build_append_singleton`, `build_eq_foldl`: the step, and the groups of a list as
  its steps.
- `key_eq_empty_iff`: just the blank names have no key.
- `Partition`, `partition_build`: the places of the entities.
- `Rearranged`: the groups of the entities in another order.
- `build_partitions`: all of it, with the keys that more than one entity has.
-/

namespace RegistryDedup

open Text

/-! ## Keys -/

namespace Normalizer

variable {key rest : List Char} {name : String}

theorem ne_nil_of_stripOnce? {n : Normalizer} (h : n.stripOnce? key = some rest) :
    key ≠ [] ∧ rest ≠ [] := by
  obtain ⟨q, -, hstrip⟩ := List.exists_of_findSome?_eq_some h
  obtain ⟨after, rfl, -, hrest, rfl⟩ := strip?_eq_some.mp hstrip
  refine ⟨fun hnil => ?_, hrest⟩
  rw [(List.append_eq_nil_iff.mp hnil).2] at hrest
  exact hrest rfl

/-- Something is left of a key, however often qualifiers are taken off. -/
theorem stripAll_eq_nil_iff (n : Normalizer) (times : Nat) :
    n.stripAll times key = [] ↔ key = [] := by
  induction times generalizing key with
  | zero => rfl
  | succ times ih =>
    rw [stripAll]
    cases hstrip : n.stripOnce? key with
    | none => rfl
    | some rest =>
      obtain ⟨hkey, hrest⟩ := ne_nil_of_stripOnce? hstrip
      exact ih.trans (iff_of_false hrest hkey)

/-- Just the blank names have no key. -/
theorem key_eq_empty_iff (n : Normalizer) : n.key name = "" ↔ isBlankText name = true := by
  rw [← String.toList_eq_nil_iff, toList_key, keyChars, stripAll_eq_nil_iff, plainName_eq_nil_iff,
    isBlankText]

end Normalizer

namespace Grouping

variable {n : Normalizer} {entities other : List Entity} {e : Entity} {g : Grouping}

/-! ## Step by step -/

/-- An entity put with those that have its key; the first of a key comes behind all others. -/
def place (key : String) (e : Entity) : List DuplicateGroup → List DuplicateGroup
  | [] => [⟨key, [e]⟩]
  | group :: groups =>
    if group.key = key then ⟨key, group.members ++ [e]⟩ :: groups
    else group :: place key e groups

/-- One entity more. -/
def step (n : Normalizer) (g : Grouping) (e : Entity) : Grouping :=
  if n.key e.name = "" then { g with unnamed := g.unnamed ++ [e] }
  else { g with groups := place (n.key e.name) e g.groups }

theorem place_of_not_mem {key : String} {members : String → List Entity} {keys : List String}
    (hkey : key ∉ keys) : place key e (keys.map fun k => ⟨k, members k⟩) =
      (keys.map fun k => ⟨k, members k⟩) ++ [⟨key, [e]⟩] := by
  induction keys with
  | nil => rfl
  | cons k keys ih =>
    rw [List.mem_cons, not_or] at hkey
    rw [List.map_cons, place, if_neg (Ne.symm hkey.1), ih hkey.2]
    rfl

theorem place_of_mem {key : String} {members : String → List Entity} {keys : List String}
    (hkey : key ∈ keys) (hnodup : keys.Nodup) : place key e (keys.map fun k => ⟨k, members k⟩) =
      keys.map fun k => ⟨k, if k = key then members k ++ [e] else members k⟩ := by
  induction keys with
  | nil => cases hkey
  | cons k keys ih =>
    rw [List.nodup_cons] at hnodup
    rw [List.map_cons, place, List.map_cons]
    by_cases hk : k = key
    · subst hk
      rw [if_pos rfl, if_pos rfl]
      refine congrArg (List.cons _) (List.map_congr_left fun other hother => ?_)
      rw [if_neg fun heq : other = k => hnodup.1 (heq ▸ hother)]
    · have hlater : key ∈ keys := (List.mem_cons.mp hkey).resolve_left (Ne.symm hk)
      rw [if_neg hk, if_neg hk, ih hlater hnodup.2]

theorem membersOf_append (key k : String) (keyed : List (String × Entity)) :
    membersOf key (keyed ++ [(k, e)]) =
      if key = k then membersOf key keyed ++ [e] else membersOf key keyed := by
  rw [membersOf, membersOf, List.filter_append, List.map_append]
  by_cases hk : key = k
  · rw [if_pos hk, List.filter_cons_of_pos (by simp [hk])]
    rfl
  · rw [if_neg hk, List.filter_cons_of_neg (by simpa using Ne.symm hk)]
    exact List.append_nil _

theorem keysOf_append (k : String) (keyed : List (String × Entity)) :
    keysOf (keyed ++ [(k, e)]) =
      if k = "" ∨ k ∈ keysOf keyed then keysOf keyed else keysOf keyed ++ [k] := by
  have hmem : k ≠ "" → (k ∈ (keyed.map (·.1)).filter (!·.isEmpty) ↔ k ∈ keysOf keyed) := by
    intro _
    rw [keysOf, List.mem_eraseDups]
  rw [keysOf, List.map_append, List.filter_append]
  by_cases hk : k = ""
  · rw [if_pos (.inl hk), hk]
    exact congrArg List.eraseDups (List.append_nil _)
  · have hlast : ([(k, e)].map (·.1)).filter (!·.isEmpty) = [k] :=
      List.filter_cons_of_pos (by simpa using hk)
    rw [hlast, eraseDups_append_singleton]
    simp only [hmem hk, hk, false_or]
    rfl

/-- One entity more at the end of a list is one step more. -/
theorem build_append_singleton (n : Normalizer) (entities : List Entity) (e : Entity) :
    build n (entities ++ [e]) = step n (build n entities) e := by
  have hkeyed : keyed n (entities ++ [e]) = keyed n entities ++ [(n.key e.name, e)] :=
    List.map_append
  unfold step build
  dsimp only
  rw [hkeyed, keysOf_append]
  simp only [membersOf_append]
  by_cases hempty : n.key e.name = ""
  · -- The members of the keys do not change, since the empty text is none of these.
    rw [if_pos (.inl hempty), if_pos hempty, if_pos hempty.symm]
    refine congrArg (Grouping.mk · _) (List.map_congr_left fun key hkey => ?_)
    have hne : key ≠ n.key e.name := fun heq => (mem_keysOf.mp hkey).1 (heq.trans hempty)
    rw [if_neg hne]
  · rw [if_neg hempty, if_neg (Ne.symm hempty)]
    by_cases hkey : n.key e.name ∈ keysOf (keyed n entities)
    · rw [if_pos (.inr hkey), place_of_mem hkey (nodup_keysOf _)]
    · -- A new key has had no members up to now.
      have hnone : membersOf (n.key e.name) (keyed n entities) = [] := by
        rw [membersOf_keyed, List.filter_eq_nil_iff]
        intro e' he' hsame
        exact hkey (mem_keysOf.mpr ⟨hempty, e', he', by simpa using hsame⟩)
      rw [if_neg (not_or.mpr ⟨hempty, hkey⟩), place_of_not_mem hkey, List.map_append,
        List.map_singleton, if_pos rfl, hnone]
      refine congrArg (Grouping.mk · _) (congrArg (· ++ _) (List.map_congr_left fun key hmem => ?_))
      rw [if_neg fun heq : key = n.key e.name => hkey (heq ▸ hmem)]

/-- The groups of a list are what its entities make of nothing, one after the other. -/
theorem build_eq_foldl (n : Normalizer) (entities : List Entity) :
    build n entities = entities.foldl (step n) ⟨[], []⟩ := by
  induction entities using List.reverseRecOn with
  | nil => rfl
  | append_singleton entities e ih =>
    rw [build_append_singleton, ih, List.foldl_append, List.foldl_cons, List.foldl_nil]

/-! ## Places -/

/-- All entities of some groups and those without a key. -/
def all (g : Grouping) : List Entity :=
  g.unnamed ++ g.groups.flatMap (·.members)

theorem perm_place (key : String) (e : Entity) (groups : List DuplicateGroup) :
    ((place key e groups).flatMap (·.members)).Perm (groups.flatMap (·.members) ++ [e]) := by
  induction groups with
  | nil => exact .refl _
  | cons group groups ih =>
    rw [place]
    split
    · rw [List.flatMap_cons, List.flatMap_cons, List.append_assoc, List.append_assoc]
      exact List.perm_append_comm.append_left group.members
    · rw [List.flatMap_cons, List.flatMap_cons, List.append_assoc]
      exact ih.append_left group.members

/-- A step puts its entity in one place and leaves the others where they are. -/
theorem perm_step (n : Normalizer) (g : Grouping) (e : Entity) :
    (step n g e).all.Perm (g.all ++ [e]) := by
  unfold step all
  split
  · rw [List.append_assoc, List.append_assoc]
    exact List.perm_append_comm.append_left g.unnamed
  · rw [List.append_assoc]
    exact (perm_place _ e g.groups).append_left g.unnamed

/-- No entity is lost and none comes up twice. -/
theorem perm_all_build (n : Normalizer) (entities : List Entity) :
    (build n entities).all.Perm entities := by
  induction entities using List.reverseRecOn with
  | nil => exact .refl _
  | append_singleton entities e ih =>
    rw [build_append_singleton]
    exact (perm_step n _ e).trans (ih.append_right [e])

/-- The places of some entities. -/
structure Partition (n : Normalizer) (entities : List Entity) (g : Grouping) : Prop where
  /-- Each entry of the list has one place. -/
  all : g.all.Perm entities
  /-- The entities with a blank name are kept apart, in their order. -/
  unnamed : g.unnamed = entities.filter fun e => isBlankText e.name
  /-- A group has all entities with its key, in their order. -/
  members : ∀ group ∈ g.groups,
    group.members = entities.filter fun e => n.key e.name == group.key
  /-- There is a group for each key. -/
  keys : ∀ key, key ∈ g.groups.map (·.key) ↔ key ≠ "" ∧ ∃ e ∈ entities, n.key e.name = key
  nodup : (g.groups.map (·.key)).Nodup
  /-- The groups are in the order in which their keys come up. -/
  precede : (g.groups.map (·.key)).Pairwise (Precedes (entities.map fun e => n.key e.name))

theorem partition_build (n : Normalizer) (entities : List Entity) :
    Partition n entities (build n entities) where
  all := perm_all_build n entities
  unnamed := by
    show membersOf "" (keyed n entities) = _
    rw [membersOf_keyed]
    refine List.filter_congr fun e _ => ?_
    rw [Bool.eq_iff_iff, beq_iff_eq]
    exact n.key_eq_empty_iff
  members group hgroup := (mem_groups.mp hgroup).2.2
  keys key := by
    rw [groups_keys]
    exact mem_keysOf
  nodup := by
    rw [groups_keys]
    exact nodup_keysOf _
  precede := by
    rw [groups_keys]
    exact precede_keysOf n entities

namespace Partition

variable (hp : Partition n entities g)

include hp

theorem mem_members {group : DuplicateGroup} (hgroup : group ∈ g.groups) :
    e ∈ group.members ↔ e ∈ entities ∧ n.key e.name = group.key := by
  rw [hp.members group hgroup, List.mem_filter, beq_iff_eq]

theorem mem_unnamed : e ∈ g.unnamed ↔ e ∈ entities ∧ isBlankText e.name = true := by
  rw [hp.unnamed, List.mem_filter]

theorem key_ne_empty {group : DuplicateGroup} (hgroup : group ∈ g.groups) : group.key ≠ "" :=
  ((hp.keys group.key).mp (List.mem_map_of_mem hgroup)).1

/-- There is one group of a key. -/
theorem eq_of_key_eq {group group' : DuplicateGroup} (h : group ∈ g.groups)
    (h' : group' ∈ g.groups) (hkey : group.key = group'.key) : group = group' :=
  List.inj_on_of_nodup_map hp.nodup h h' hkey

/-- An entity with a name is in the group of its key and nowhere else. -/
theorem exists_group (he : e ∈ entities) (hname : isBlankText e.name = false) :
    e ∉ g.unnamed ∧ ∃ group ∈ g.groups, group.key = n.key e.name ∧ e ∈ group.members ∧
      ∀ group' ∈ g.groups, e ∈ group'.members → group' = group := by
  refine ⟨fun hunnamed => ?_, ?_⟩
  · rw [(hp.mem_unnamed.mp hunnamed).2] at hname
    cases hname
  · have hne : n.key e.name ≠ "" := by
      rw [ne_eq, n.key_eq_empty_iff, hname]
      exact Bool.false_ne_true
    obtain ⟨group, hgroup, hkey⟩ := List.mem_map.mp ((hp.keys _).mpr ⟨hne, e, he, rfl⟩)
    refine ⟨group, hgroup, hkey, (hp.mem_members hgroup).mpr ⟨he, hkey.symm⟩, ?_⟩
    intro group' hgroup' hmem
    refine hp.eq_of_key_eq hgroup' hgroup ?_
    rw [hkey, ((hp.mem_members hgroup').mp hmem).2]

/-- An entity without a name is in no group. -/
theorem not_mem_members (hname : isBlankText e.name = true) {group : DuplicateGroup}
    (hgroup : group ∈ g.groups) : e ∉ group.members := by
  intro hmem
  have hkey := ((hp.mem_members hgroup).mp hmem).2
  exact hp.key_ne_empty hgroup (hkey.symm.trans (n.key_eq_empty_iff.mpr hname))

/-- Two entities share a group just where they have the same key. -/
theorem share_iff {e' : Entity} (he : e ∈ entities) (he' : e' ∈ entities) :
    (∃ group ∈ g.groups, e ∈ group.members ∧ e' ∈ group.members) ↔
      n.key e.name = n.key e'.name ∧ n.key e.name ≠ "" := by
  constructor
  · rintro ⟨group, hgroup, hmem, hmem'⟩
    have hkey := ((hp.mem_members hgroup).mp hmem).2
    have hkey' := ((hp.mem_members hgroup).mp hmem').2
    exact ⟨hkey.trans hkey'.symm, hkey ▸ hp.key_ne_empty hgroup⟩
  · rintro ⟨hsame, hne⟩
    obtain ⟨group, hgroup, hkey⟩ := List.mem_map.mp ((hp.keys _).mpr ⟨hne, e, he, rfl⟩)
    refine ⟨group, hgroup, (hp.mem_members hgroup).mpr ⟨he, hkey.symm⟩, ?_⟩
    exact (hp.mem_members hgroup).mpr ⟨he', hsame.symm.trans hkey.symm⟩

theorem count : g.entityCount + g.unnamed.length = entities.length := by
  have hgroups : (g.groups.flatMap (·.members)).length = g.entityCount := List.length_flatMap
  rw [← hp.all.length_eq, Grouping.all, List.length_append, hgroups, Nat.add_comm]

end Partition

/-! ## Another order -/

/-- The same groups in some order, each with the same members in some order. -/
def Rearranged {α : Type} (alike : α → α → Prop) (xs ys : List α) : Prop :=
  ∃ zs : List α, zs.Perm ys ∧ List.Forall₂ alike xs zs

/-- Groups with the same key and the same members in some order. -/
def Alike (g g' : DuplicateGroup) : Prop :=
  g.key = g'.key ∧ g.members.Perm g'.members

theorem perm_keysOf (h : entities.Perm other) :
    (keysOf (keyed n entities)).Perm (keysOf (keyed n other)) := by
  refine (List.perm_ext_iff_of_nodup (nodup_keysOf _) (nodup_keysOf _)).mpr fun key => ?_
  rw [mem_keysOf, mem_keysOf]
  simp only [h.mem_iff]

theorem rearranged_groups (n : Normalizer) (h : entities.Perm other) :
    Rearranged Alike (build n entities).groups (build n other).groups := by
  refine ⟨(keysOf (keyed n entities)).map fun key => ⟨key, membersOf key (keyed n other)⟩,
    (perm_keysOf h).map _, ?_⟩
  show List.Forall₂ Alike ((keysOf (keyed n entities)).map _) _
  rw [List.forall₂_map_left_iff, List.forall₂_map_right_iff, List.forall₂_same]
  intro key _
  refine ⟨rfl, ?_⟩
  show (membersOf key (keyed n entities)).Perm (membersOf key (keyed n other))
  rw [membersOf_keyed, membersOf_keyed]
  exact h.filter _

/-- What is alike has as many members, so that the groups with several members are alike too. -/
theorem rearranged_candidates (n : Normalizer) (h : entities.Perm other) :
    Rearranged Alike (build n entities).candidates (build n other).candidates := by
  obtain ⟨groups, hperm, halike⟩ := rearranged_groups n h
  refine ⟨groups.filter fun group => 1 < group.members.length, hperm.filter _, ?_⟩
  refine List.rel_filter ?_ halike
  intro g g' hg
  show decide (1 < g.members.length) = true ↔ decide (1 < g'.members.length) = true
  rw [hg.2.length_eq]

theorem rearranged_residuals (n : Normalizer) (h : entities.Perm other) :
    Rearranged (fun r r' => r.key = r'.key ∧ r.ids.Perm r'.ids)
      (build n entities).residuals (build n other).residuals := by
  obtain ⟨groups, hperm, halike⟩ := rearranged_candidates n h
  refine ⟨groups.map fun group => ⟨group.key, group.ids⟩, hperm.map _, ?_⟩
  show List.Forall₂ _ ((build n entities).candidates.map _) _
  rw [List.forall₂_map_left_iff, List.forall₂_map_right_iff]
  exact halike.imp fun g g' hg => ⟨hg.1, hg.2.map _⟩

/-- Grouping is a partition. Each entry of the list has one place: apart from the groups if its name
is blank, and else in the one group of its key. Two entries share a group just where they have the
same key. The candidates and the residuals are the keys that at least two entries have, and entries
in another order make the same groups but for the order. -/
theorem build_partitions (n : Normalizer) (entities : List Entity) :
    let g := build n entities
    g = entities.foldl (step n) ⟨[], []⟩ ∧
      Partition n entities g ∧
      (∀ e ∈ entities, isBlankText e.name = true →
        e ∈ g.unnamed ∧ ∀ group ∈ g.groups, e ∉ group.members) ∧
      (∀ e ∈ entities, isBlankText e.name = false →
        e ∉ g.unnamed ∧ ∃ group ∈ g.groups, group.key = n.key e.name ∧ e ∈ group.members ∧
          ∀ group' ∈ g.groups, e ∈ group'.members → group' = group) ∧
      (∀ e ∈ entities, ∀ e' ∈ entities,
        (∃ group ∈ g.groups, e ∈ group.members ∧ e' ∈ group.members) ↔
          n.key e.name = n.key e'.name ∧ n.key e.name ≠ "") ∧
      g.entityCount + g.unnamed.length = entities.length ∧
      (∀ group, group ∈ g.candidates ↔ group.key ≠ "" ∧
        group.members = (entities.filter fun e => n.key e.name == group.key) ∧
          2 ≤ group.members.length) ∧
      g.candidates.Sublist g.groups ∧
      g.residuals = g.candidates.map (fun group => ⟨group.key, group.members.map (·.id)⟩) ∧
      ∀ other, entities.Perm other →
        g.unnamed.Perm (build n other).unnamed ∧
        Rearranged Alike g.groups (build n other).groups ∧
        Rearranged Alike g.candidates (build n other).candidates ∧
        Rearranged (fun r r' => r.key = r'.key ∧ r.ids.Perm r'.ids)
          g.residuals (build n other).residuals := by
  intro g
  have hp : Partition n entities g := partition_build n entities
  refine ⟨build_eq_foldl n entities, hp, ?blank, ?named, ?share, hp.count,
    fun group => mem_candidates, List.filter_sublist, rfl, ?order⟩
  case blank =>
    intro e he hname
    exact ⟨hp.mem_unnamed.mpr ⟨he, hname⟩, fun group => hp.not_mem_members hname⟩
  case named => exact fun e he hname => hp.exists_group he hname
  case share => exact fun e he e' he' => hp.share_iff he he'
  case order =>
    intro other hperm
    refine ⟨?_, rearranged_groups n hperm, rearranged_candidates n hperm,
      rearranged_residuals n hperm⟩
    rw [hp.unnamed, (partition_build n other).unnamed]
    exact hperm.filter _

/-- Of five entries two are the same and one is blank. -/
theorem build_partitions_sample :
    let entities : List Entity := [⟨"3", "foo", none⟩, ⟨"1", "Bar", none⟩, ⟨"4", "\t", none⟩,
      ⟨"2", "KAB.Foo", none⟩, ⟨"3", "foo", none⟩]
    (build .standard entities).candidates =
        [⟨"FOO", [⟨"3", "foo", none⟩, ⟨"2", "KAB.Foo", none⟩, ⟨"3", "foo", none⟩]⟩] ∧
      (build .standard entities).unnamed = [⟨"4", "\t", none⟩] ∧
      (∃ group ∈ (build .standard entities).groups, group.key = "BAR" ∧
        ⟨"1", "Bar", none⟩ ∈ group.members) ∧
      Rearranged Alike (build .standard entities).candidates
        (build .standard entities.reverse).candidates := by
  intro entities
  obtain ⟨-, -, -, hnamed, -, -, -, -, -, horder⟩ := build_partitions .standard entities
  obtain ⟨-, group, hgroup, hkey, hmem, -⟩ := hnamed ⟨"1", "Bar", none⟩ (by decide) rfl
  refine ⟨by decide +kernel, by decide +kernel, ⟨group, hgroup, ?_, hmem⟩, ?_⟩
  · exact hkey.trans (by decide +kernel)
  · exact (horder entities.reverse (List.reverse_perm entities).symm).2.2.1

end Grouping

end RegistryDedup
