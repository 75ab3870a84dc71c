import Mathlib.Data.List.Nodup
import RegistryDedup.Name.Grouping

/-!
# Groups of entities

- `Grouping.mem_candidates`: the candidates are the keys other than the empty one that more than
  one entity has, each with all its entities in their order.
- `Grouping.candidates_keys_nodup`: no key has two groups.
- `Grouping.candidates_keys_precede`: the groups are in the order in which their keys come up.
-/

namespace RegistryDedup

/-- A list without its repetitions has none. -/
theorem nodup_eraseDups {α : Type} [BEq α] [LawfulBEq α] (xs : List α) : xs.eraseDups.Nodup := by
  match xs with
  | [] => exact List.nodup_nil
  | x :: rest =>
    rw [List.eraseDups_cons, List.nodup_cons]
    refine ⟨fun hx => ?_, nodup_eraseDups _⟩
    rw [List.mem_eraseDups, List.mem_filter] at hx
    simp at hx
termination_by xs.length
decreasing_by exact Nat.lt_succ_of_le (List.length_filter_le _ _)

/-- An item at the end of a list is new where it is not in the list before. -/
theorem eraseDups_append_singleton {α : Type} [BEq α] [LawfulBEq α] [DecidableEq α] (xs : List α)
    (x : α) : (xs ++ [x]).eraseDups = if x ∈ xs then xs.eraseDups else xs.eraseDups ++ [x] := by
  rw [List.eraseDups_append]
  by_cases hx : x ∈ xs
  · simp [List.removeAll, hx]
  · simp only [List.removeAll, List.elem_eq_mem, hx, decide_false, Bool.not_false,
      List.filter_cons_of_pos, List.filter_nil, if_false]
    rfl

/-- One item comes up in a list before another does. -/
def Precedes {α : Type} (xs : List α) (a b : α) : Prop :=
  ∃ front, front <+: xs ∧ a ∈ front ∧ b ∉ front

section

variable {α : Type} {xs : List α} {a b : α}

theorem Precedes.cons {x : α} (h : Precedes xs a b) (hb : b ≠ x) : Precedes (x :: xs) a b := by
  obtain ⟨front, hfront, ha, hnot⟩ := h
  refine ⟨x :: front, List.cons_prefix_cons.mpr ⟨rfl, hfront⟩, List.mem_cons_of_mem _ ha, ?_⟩
  exact List.not_mem_cons_of_ne_of_not_mem hb hnot

theorem Precedes.of_filter {p : α → Bool} (h : Precedes (xs.filter p) a b) (hb : p b) :
    Precedes xs a b := by
  obtain ⟨front, hfront, ha, hnot⟩ := h
  obtain ⟨all, hall, rfl⟩ := List.prefix_filter_iff.mp hfront
  exact ⟨all, hall, (List.mem_filter.mp ha).1, fun hmem => hnot (List.mem_filter.mpr ⟨hmem, hb⟩)⟩

/-- A list without its repetitions is in the order in which its items first come up. -/
theorem pairwise_eraseDups [BEq α] [LawfulBEq α] (xs : List α) :
    xs.eraseDups.Pairwise (Precedes xs) := by
  match xs with
  | [] => exact List.Pairwise.nil
  | x :: rest =>
    have hlater : ∀ b ∈ (rest.filter fun y => !y == x).eraseDups, b ≠ x := by
      intro b hb
      rw [List.mem_eraseDups, List.mem_filter] at hb
      simpa using hb.2
    rw [List.eraseDups_cons]
    refine List.Pairwise.cons (fun b hb => ?_) ((pairwise_eraseDups _).imp_of_mem ?_)
    · refine ⟨[x], List.cons_prefix_cons.mpr ⟨rfl, List.nil_prefix⟩, List.mem_singleton_self x, ?_⟩
      exact fun hmem => hlater b hb (List.mem_singleton.mp hmem)
    · intro a b _ hb h
      exact (h.of_filter (by simpa using hlater b hb)).cons (hlater b hb)
termination_by xs.length
decreasing_by exact Nat.lt_succ_of_le (List.length_filter_le _ _)

end

namespace Grouping

variable {n : Normalizer} {entities : List Entity} {g : DuplicateGroup}

theorem membersOf_keyed (n : Normalizer) (key : String) (entities : List Entity) :
    membersOf key (keyed n entities) = entities.filter fun e => n.key e.name == key := by
  rw [membersOf, keyed, List.filter_map, List.map_map]
  exact List.map_id _

theorem mem_keysOf {key : String} :
    key ∈ keysOf (keyed n entities) ↔ key ≠ "" ∧ ∃ e ∈ entities, n.key e.name = key := by
  rw [keysOf, List.mem_eraseDups, List.mem_filter, keyed, List.map_map, List.mem_map, and_comm]
  simp

theorem nodup_keysOf (keyed : List (String × Entity)) : (keysOf keyed).Nodup :=
  nodup_eraseDups _

/-- The keys are in the order in which they come up among the entities. -/
theorem precede_keysOf (n : Normalizer) (entities : List Entity) :
    (keysOf (keyed n entities)).Pairwise (Precedes (entities.map fun e => n.key e.name)) := by
  refine (pairwise_eraseDups _).imp_of_mem ?_
  intro a b _ hb h
  rw [List.mem_eraseDups, List.mem_filter] at hb
  have hprecedes := h.of_filter hb.2
  rwa [keyed, List.map_map] at hprecedes

theorem mem_groups :
    g ∈ (build n entities).groups ↔
      g.key ≠ "" ∧ (∃ e ∈ entities, n.key e.name = g.key) ∧
        g.members = entities.filter fun e => n.key e.name == g.key := by
  rw [build, List.mem_map]
  constructor
  · rintro ⟨key, hkey, rfl⟩
    obtain ⟨hne, he⟩ := mem_keysOf.mp hkey
    exact ⟨hne, he, membersOf_keyed n key entities⟩
  · rintro ⟨hne, he, hmembers⟩
    refine ⟨g.key, mem_keysOf.mpr ⟨hne, he⟩, ?_⟩
    rw [membersOf_keyed, ← hmembers]

/-- The candidates are the keys that more than one entity has, with all their entities. -/
theorem mem_candidates :
    g ∈ (build n entities).candidates ↔
      g.key ≠ "" ∧ g.members = (entities.filter fun e => n.key e.name == g.key) ∧
        1 < g.members.length := by
  rw [candidates, List.mem_filter, mem_groups, decide_eq_true_iff]
  constructor
  · rintro ⟨⟨hne, -, hmembers⟩, hlen⟩
    exact ⟨hne, hmembers, hlen⟩
  · rintro ⟨hne, hmembers, hlen⟩
    refine ⟨⟨hne, ?_, hmembers⟩, hlen⟩
    obtain ⟨e, he⟩ := List.exists_mem_of_length_pos (Nat.lt_trans Nat.zero_lt_one hlen)
    rw [hmembers, List.mem_filter, beq_iff_eq] at he
    exact ⟨e, he⟩

/-- No candidate is without members. -/
theorem members_ne_nil (hg : g ∈ (build n entities).candidates) : g.members ≠ [] := by
  have hlen := (mem_candidates.mp hg).2.2
  exact List.ne_nil_of_length_pos (Nat.lt_trans Nat.zero_lt_one hlen)

theorem groups_keys (n : Normalizer) (entities : List Entity) :
    (build n entities).groups.map (·.key) = keysOf (keyed n entities) := by
  rw [build, List.map_map]
  exact List.map_id _

theorem candidates_keys_sublist (n : Normalizer) (entities : List Entity) :
    ((build n entities).candidates.map (·.key)).Sublist (keysOf (keyed n entities)) := by
  rw [← groups_keys]
  exact List.filter_sublist.map _

/-- No key has two groups. -/
theorem candidates_keys_nodup (n : Normalizer) (entities : List Entity) :
    ((build n entities).candidates.map (·.key)).Nodup :=
  (nodup_keysOf _).sublist (candidates_keys_sublist n entities)

/-- The groups are in the order in which their keys come up among the entities. -/
theorem candidates_keys_precede (n : Normalizer) (entities : List Entity) :
    ((build n entities).candidates.map (·.key)).Pairwise
      (Precedes (entities.map fun e => n.key e.name)) :=
  (precede_keysOf n entities).sublist (candidates_keys_sublist n entities)

/-- A member of a candidate is an entity that has its key. -/
theorem mem_of_mem_candidates (hg : g ∈ (build n entities).candidates) {e : Entity} :
    e ∈ g.members ↔ e ∈ entities ∧ n.key e.name = g.key := by
  rw [(mem_candidates.mp hg).2.1, List.mem_filter, beq_iff_eq]

end Grouping

end RegistryDedup
