import Mathlib.Data.List.Nodup
import RegistryDedup.Merge.Survivor

/-!
# How a group is split

- `exists_mem_totalOf`, `totalOf_of_last`, `totalOf_eq_zero`: how many references an id has by some
  counts.
- `select_split`: the losers of a selection are the members without the place of the one that is
  kept.
- `exists_select`: only an empty group has no survivor.
- `keep_mem_loserIds`: the id that is kept is among those of the losers just where it comes up more
  than once among the members.
-/

namespace RegistryDedup

variable {policy : Policy} {members : List Entity} {counts : List RefCount} {sel : Selection}

/-! ## Totals -/

section Totals

variable {counts before after : List RefCount} {c : RefCount} {id : String}

/-- An id that is not counted has no references. -/
theorem totalOf_eq_zero (hid : ∀ c ∈ counts, c.id ≠ id) : totalOf counts id = 0 := by
  have hnone : counts.reverse.find? (·.id == id) = none := by
    rw [List.find?_eq_none]
    intro c hc
    simpa using hid c (List.mem_reverse.mp hc)
  rw [totalOf, hnone]
  rfl

/-- Of several counts of an id the last one says how many references it has. -/
theorem totalOf_of_last (hlast : ∀ d ∈ after, d.id ≠ c.id) :
    totalOf (before ++ c :: after) c.id = c.total := by
  have hnone : after.reverse.find? (·.id == c.id) = none := by
    rw [List.find?_eq_none]
    intro d hd
    simpa using hlast d (List.mem_reverse.mp hd)
  have hreverse : (before ++ c :: after).reverse = after.reverse ++ c :: before.reverse := by simp
  rw [totalOf, hreverse, List.find?_append, hnone, Option.none_or, List.find?_cons_of_pos (by simp)]
  rfl

/-- An id that is counted has as many references as one of its counts says. -/
theorem exists_mem_totalOf (hid : id ∈ counts.map (·.id)) :
    ∃ c ∈ counts, c.id = id ∧ totalOf counts id = c.total := by
  obtain ⟨c, hc, rfl⟩ := List.mem_map.mp hid
  have hfound : (counts.reverse.find? (·.id == c.id)).isSome :=
    List.find?_isSome.mpr ⟨c, List.mem_reverse.mpr hc, beq_self_eq_true _⟩
  obtain ⟨last, hlast⟩ := Option.isSome_iff_exists.mp hfound
  refine ⟨last, List.mem_reverse.mp (List.mem_of_find?_eq_some hlast), ?_, ?_⟩
  · simpa using List.find?_some hlast
  · rw [totalOf, hlast]
    rfl

/-- Where no id has several counts, their order makes no difference. -/
theorem totalOf_perm {counts' : List RefCount} (hperm : counts.Perm counts')
    (hids : (counts.map (·.id)).Nodup) : totalOf counts' = totalOf counts := by
  funext id
  by_cases hid : id ∈ counts.map (·.id)
  · obtain ⟨c, hc, rfl, htotal⟩ := exists_mem_totalOf hid
    obtain ⟨c', hc', hsame, htotal'⟩ := exists_mem_totalOf ((hperm.map (·.id)).mem_iff.mp hid)
    have heq : c' = c := List.inj_on_of_nodup_map hids (hperm.mem_iff.mpr hc') hc hsame
    rw [htotal', htotal, heq]
  · have hnone : ∀ c ∈ counts, c.id ≠ id := fun c hc heq => hid (heq ▸ List.mem_map_of_mem hc)
    rw [totalOf_eq_zero hnone, totalOf_eq_zero fun c hc => hnone c (hperm.mem_iff.mpr hc)]

end Totals

/-! ## The split -/

/-- Only an empty list has no best item. -/
theorem extractBest_eq_none {α : Type} {better : α → α → Bool} {xs : List α} :
    extractBest better xs = none ↔ xs = [] := by
  cases xs with
  | nil => simp [extractBest]
  | cons x xs =>
    rw [extractBest]
    split
    · simp
    · split <;> simp

theorem extractBest_eq_some {α : Type} {better : α → α → Bool} {xs rest : List α} {y : α}
    (h : extractBest better xs = some (y, rest)) :
    ∃ front back, xs = front ++ y :: back ∧ rest = front ++ back := by
  induction xs generalizing y rest with
  | nil => cases h
  | cons x xs ih =>
    rw [extractBest] at h
    cases hxs : extractBest better xs with
    | none =>
      rw [hxs] at h
      cases h
      rw [extractBest_eq_none.mp hxs]
      exact ⟨[], [], rfl, rfl⟩
    | some best =>
      obtain ⟨z, others⟩ := best
      rw [hxs] at h
      dsimp only at h
      split at h
      · cases h
        obtain ⟨front, back, rfl, rfl⟩ := ih hxs
        exact ⟨x :: front, back, rfl, rfl⟩
      · cases h
        exact ⟨[], xs, rfl, rfl⟩

/-- The losers are the members without the place of the one that is kept. -/
theorem select_split (h : select policy members counts = some sel) :
    ∃ front back, members = front ++ sel.keep :: back ∧ sel.losers = front ++ back := by
  obtain ⟨⟨keep, losers⟩, hbest, rfl⟩ := Option.map_eq_some_iff.mp h
  exact extractBest_eq_some hbest

theorem mem_members_iff (h : select policy members counts = some sel) {e : Entity} :
    e ∈ members ↔ e = sel.keep ∨ e ∈ sel.losers := by
  obtain ⟨front, back, hmembers, hlosers⟩ := select_split h
  rw [hmembers, hlosers, List.mem_append, List.mem_append, List.mem_cons]
  exact or_left_comm

/-- Every group with a member has a survivor, whatever the counts. -/
theorem exists_select (policy : Policy) (counts : List RefCount) (h : members ≠ []) :
    ∃ sel, select policy members counts = some sel := by
  cases hbest : extractBest (prefers policy counts) members with
  | none => exact absurd (extractBest_eq_none.mp hbest) h
  | some best =>
    refine ⟨⟨best.1, best.2⟩, ?_⟩
    rw [select, hbest]
    rfl

/-- The ids of a group are those of its losers and the one that is kept. -/
theorem select_ids_perm (h : select policy members counts = some sel) :
    (members.map (·.id)).Perm (sel.keep.id :: sel.loserIds) := by
  obtain ⟨front, back, hmembers, hlosers⟩ := select_split h
  rw [hmembers, Selection.loserIds, hlosers, List.map_append, List.map_append, List.map_cons]
  exact List.perm_middle

/-- The id that is kept is among those of the losers just where it comes up more than once among
the members. -/
theorem keep_mem_loserIds (h : select policy members counts = some sel) :
    sel.keep.id ∈ sel.loserIds ↔ 1 < (members.map (·.id)).count sel.keep.id := by
  rw [(select_ids_perm h).count_eq, List.count_cons_self, Nat.lt_add_left_iff_pos,
    List.count_pos_iff]

/-- In a group without a repeated id the one that is kept is no loser. -/
theorem keep_not_mem_loserIds (h : select policy members counts = some sel)
    (hids : (members.map (·.id)).Nodup) : sel.keep.id ∉ sel.loserIds :=
  (List.nodup_cons.mp ((select_ids_perm h).nodup_iff.mp hids)).1

end RegistryDedup
