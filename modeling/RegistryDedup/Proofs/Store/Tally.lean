import Mathlib.Algebra.GroupWithZero.Nat
import Mathlib.Data.List.Induction
import RegistryDedup.Proofs.Name.Grouping
import RegistryDedup.Proofs.Store.Tables

/-!
# Tallies

A tally is known by its tables, in the order in which they first came up, and by the number of each.

- `Tally.lookup_add`, `Tally.keys_add`: a tally with one number added.
- `Tally.lookup_set`, `Tally.keys_set`: a tally with one number replaced.
- `Tally.ext_of_get`: tallies with the same tables and the same numbers are the same.
- `Tally.get_foldl_set`, `Tally.get_foldl_add`, `Tally.keys_foldl`: a tally after many numbers were
  set or added.
- `Tally.keys_zeros`, `Tally.get_zeros`: zeros for some tables.
-/

namespace RegistryDedup

namespace Tally

/-! ## One number -/

theorem lookup_add (table : String) (n : Nat) (tally : Tally) (other : String) :
    (tally.add table n).lookup other =
      if other = table then some (tally.get table + n) else tally.lookup other := by
  induction tally with
  | nil =>
    rw [add, lookup_cons_eq, get, List.lookup_nil]
    simp
  | cons entry rest ih =>
    obtain ⟨name, m⟩ := entry
    rw [add]
    by_cases hname : name = table
    · rw [if_pos hname, lookup_cons_eq, hname, get, lookup_cons_eq, if_pos rfl, lookup_cons_eq]
      split <;> rfl
    · have hget : get ((name, m) :: rest) table = get rest table := by
        rw [get, lookup_cons_eq, if_neg (Ne.symm hname), get]
      rw [if_neg hname, lookup_cons_eq, ih, lookup_cons_eq, hget]
      by_cases hother : other = name
      · rw [if_pos hother, if_pos hother, if_neg fun heq => hname (hother.symm.trans heq)]
      · rw [if_neg hother, if_neg hother]

theorem get_add (table : String) (n : Nat) (tally : Tally) (other : String) :
    (tally.add table n).get other = tally.get other + if other = table then n else 0 := by
  rw [get, lookup_add]
  by_cases hother : other = table
  · rw [if_pos hother, if_pos hother, hother]
    rfl
  · rw [if_neg hother, if_neg hother]
    rfl

/-- The tables of a tally, after one was added to: one that was not there before comes last. -/
theorem keys_add (table : String) (n : Nat) (tally : Tally) :
    (tally.add table n).map (·.1) =
      if table ∈ tally.map (·.1) then tally.map (·.1) else tally.map (·.1) ++ [table] := by
  induction tally with
  | nil => rfl
  | cons entry rest ih =>
    obtain ⟨name, m⟩ := entry
    rw [add]
    by_cases hname : name = table
    · simp [hname]
    · rw [if_neg hname, List.map_cons, ih]
      by_cases hmem : table ∈ rest.map (·.1)
      · simp only [hmem, if_true, List.map_cons, List.mem_cons, or_true]
      · simp only [hmem, Ne.symm hname, if_false, List.map_cons, List.mem_cons, or_false,
          List.cons_append]

/-- A number that is added is added to the sum. -/
theorem sum_add (table : String) (n : Nat) (tally : Tally) :
    ((tally.add table n).map (·.2)).sum = (tally.map (·.2)).sum + n := by
  induction tally with
  | nil => exact Nat.add_comm n 0
  | cons entry rest ih =>
    obtain ⟨name, m⟩ := entry
    rw [add]
    split
    · simp only [List.map_cons, List.sum_cons]
      omega
    · simp only [List.map_cons, List.sum_cons, ih]
      omega

theorem lookup_set (table : String) (n : Nat) (tally : Tally) (other : String) :
    (tally.set table n).lookup other = if other = table then some n else tally.lookup other := by
  induction tally with
  | nil => rw [set, lookup_cons_eq]
  | cons entry rest ih =>
    obtain ⟨name, m⟩ := entry
    rw [set, lookup_cons_eq]
    by_cases hname : name = table
    · rw [if_pos hname, lookup_cons_eq, hname]
      split <;> rfl
    · rw [if_neg hname, lookup_cons_eq, ih]
      by_cases hother : other = name
      · rw [if_pos hother, if_pos hother, if_neg fun heq => hname (hother.symm.trans heq)]
      · rw [if_neg hother, if_neg hother]

theorem get_set (table : String) (n : Nat) (tally : Tally) (other : String) :
    (tally.set table n).get other = if other = table then n else tally.get other := by
  rw [get, lookup_set]
  split <;> rfl

/-- The tables of a tally are the same whether a number is set or added. -/
theorem keys_set (table : String) (n m : Nat) (tally : Tally) :
    (tally.set table n).map (·.1) = (tally.add table m).map (·.1) := by
  induction tally with
  | nil => rfl
  | cons entry rest ih =>
    obtain ⟨name, k⟩ := entry
    rw [set, add]
    by_cases hname : name = table
    · rw [if_pos hname, if_pos hname]
      rfl
    · rw [if_neg hname, if_neg hname, List.map_cons, List.map_cons, ih]

/-- Tallies are the same if they have the same tables in the same order, with the same numbers. -/
theorem ext_of_get {tally tally' : Tally} (hkeys : tally.map (·.1) = tally'.map (·.1))
    (hnodup : (tally.map (·.1)).Nodup) (hget : ∀ table, tally.get table = tally'.get table) :
    tally = tally' := by
  induction tally generalizing tally' with
  | nil => exact (List.map_eq_nil_iff.mp hkeys.symm).symm
  | cons entry rest ih =>
    obtain ⟨name, m⟩ := entry
    cases tally' with
    | nil => cases hkeys
    | cons entry' rest' =>
      obtain ⟨name', m'⟩ := entry'
      rw [List.map_cons, List.map_cons, List.cons.injEq] at hkeys
      obtain ⟨rfl, hkeys⟩ := hkeys
      rw [List.map_cons, List.nodup_cons] at hnodup
      have hcons : ∀ (k : Nat) (rest : Tally) (table : String),
          get ((name, k) :: rest) table = if table = name then k else rest.get table := by
        intro k rest table
        rw [get, lookup_cons_eq]
        split <;> rfl
      simp only [hcons] at hget
      have hm : m = m' := by simpa using hget name
      rw [hm, ih hkeys hnodup.2 fun table => ?_]
      by_cases htable : table = name
      · -- The table of the first entry is in no other one.
        have hnone : ∀ rest : Tally, name ∉ rest.map (·.1) → rest.get name = 0 := by
          intro rest hrest
          have hlookup : rest.lookup name = none := by
            rw [List.lookup_eq_none_iff]
            intro entry hentry
            rw [bne_iff_ne]
            rintro rfl
            exact hrest (List.mem_map_of_mem hentry)
          rw [get, hlookup, Option.getD_none]
        rw [htable, hnone rest hnodup.1, hnone rest' (hkeys ▸ hnodup.1)]
      · simpa [htable] using hget table

/-- The number of each table, where all numbers are told by the tables. -/
theorem get_map (numbers : String → Nat) (tables : List String) (table : String) :
    get (tables.map fun t => (t, numbers t)) table =
      if table ∈ tables then numbers table else 0 := by
  induction tables with
  | nil => rfl
  | cons t tables ih =>
    rw [get, List.map_cons, lookup_cons_eq]
    by_cases ht : table = t
    · rw [if_pos ht, ht, if_pos List.mem_cons_self]
      rfl
    · rw [if_neg ht]
      refine ih.trans ?_
      simp only [List.mem_cons, ht, false_or]

/-! ## Many numbers -/

variable {α : Type} {name : α → String} {number : α → Nat} {items : List α}

/-- Of many numbers that are set for a table the last one stays. -/
theorem get_foldl_set (tally : Tally) (table : String) :
    (items.foldl (fun tally a => tally.set (name a) (number a)) tally).get table =
      ((items.filter (name · = table)).map number).getLast?.getD (tally.get table) := by
  induction items generalizing tally with
  | nil => rfl
  | cons a items ih =>
    rw [List.foldl_cons, ih, get_set]
    by_cases ha : name a = table
    · rw [if_pos ha.symm, List.filter_cons_of_pos (by simpa using ha), List.map_cons,
        List.getLast?_cons, Option.getD_some]
    · rw [if_neg (Ne.symm ha), List.filter_cons_of_neg (by simpa using ha)]

/-- Many numbers that are added for a table make their sum. -/
theorem get_foldl_add (tally : Tally) (table : String) :
    (items.foldl (fun tally a => tally.add (name a) (number a)) tally).get table =
      tally.get table + ((items.filter (name · = table)).map number).sum := by
  induction items generalizing tally with
  | nil => rfl
  | cons a items ih =>
    rw [List.foldl_cons, ih, get_add]
    by_cases ha : name a = table
    · rw [if_pos ha.symm, List.filter_cons_of_pos (by simpa using ha), List.map_cons,
        List.sum_cons, Nat.add_assoc]
    · rw [if_neg (Ne.symm ha), List.filter_cons_of_neg (by simpa using ha), Nat.add_zero]

/-- A tally has its tables in the order in which they first came up, if each step only adds the
table of its item. -/
theorem keys_foldl {step : Tally → α → Tally}
    (hstep : ∀ tally a, (step tally a).map (·.1) =
      if name a ∈ tally.map (·.1) then tally.map (·.1) else tally.map (·.1) ++ [name a])
    (items : List α) : (items.foldl step []).map (·.1) = (items.map name).eraseDups := by
  induction items using List.reverseRecOn with
  | nil => rfl
  | append_singleton items a ih =>
    rw [List.foldl_append, List.foldl_cons, List.foldl_nil, hstep, ih, List.map_append,
      List.map_singleton, eraseDups_append_singleton]
    simp only [List.mem_eraseDups]

theorem keys_foldl_add (items : List α) :
    (items.foldl (fun tally a => Tally.add (name a) (number a) tally) []).map (·.1) =
      (items.map name).eraseDups :=
  keys_foldl (fun tally a => keys_add (name a) (number a) tally) items

theorem keys_foldl_set (items : List α) :
    (items.foldl (fun tally a => Tally.set (name a) (number a) tally) []).map (·.1) =
      (items.map name).eraseDups :=
  keys_foldl (fun tally a => (keys_set (name a) (number a) 0 tally).trans
    (keys_add (name a) 0 tally)) items

/-- The last of some numbers is their sum just where the others are zero. -/
theorem getLast?_eq_sum_iff (numbers : List Nat) :
    numbers.getLast?.getD 0 = numbers.sum ↔ ∀ n ∈ numbers.dropLast, n = 0 := by
  induction numbers using List.reverseRecOn with
  | nil => simp
  | append_singleton numbers last _ =>
    rw [List.getLast?_concat, List.dropLast_concat, List.sum_append, List.sum_singleton,
      Option.getD_some, ← List.sum_eq_zero_iff_forall_eq_nat]
    omega

/-- Tallies in which numbers are set and added are the same just where all numbers of a table but
the last are zero. -/
theorem foldl_set_eq_foldl_add_iff (items : List α) :
    items.foldl (fun tally a => Tally.set (name a) (number a) tally) [] =
        items.foldl (fun tally a => Tally.add (name a) (number a) tally) [] ↔
      ∀ table, ∀ a ∈ (items.filter (name · = table)).dropLast, number a = 0 := by
  -- Both have the same tables in the same order, so that they differ in the numbers only.
  have hnumbers : ∀ table,
      (items.foldl (fun tally a => Tally.set (name a) (number a) tally) []).get table =
          (items.foldl (fun tally a => Tally.add (name a) (number a) tally) []).get table ↔
        ∀ a ∈ (items.filter (name · = table)).dropLast, number a = 0 := by
    intro table
    rw [get_foldl_set, get_foldl_add]
    show _ = 0 + _ ↔ _
    rw [Nat.zero_add]
    show ((items.filter _).map number).getLast?.getD 0 = _ ↔ _
    rw [getLast?_eq_sum_iff, ← List.map_dropLast, List.forall_mem_map]
  constructor
  · intro heq table
    exact (hnumbers table).mp (heq ▸ rfl)
  · intro hzero
    refine ext_of_get ((keys_foldl_set items).trans (keys_foldl_add items).symm) ?_
      fun table => (hnumbers table).mpr (hzero table)
    rw [keys_foldl_set]
    exact RegistryDedup.nodup_eraseDups _

/-! ## Zeros -/

theorem get_zeros (tables : List String) (table : String) : (zeros tables).get table = 0 := by
  refine (@get_foldl_add _ id (fun _ => 0) tables [] table).trans ?_
  simp [get]

/-- The tables of zeros, in the order in which they first came up. -/
theorem keys_zeros (tables : List String) : (zeros tables).map (·.1) = tables.eraseDups := by
  refine (@keys_foldl_add _ id (fun _ => 0) tables).trans ?_
  rw [List.map_id]

theorem nodup_keys_zeros (tables : List String) : ((zeros tables).map (·.1)).Nodup := by
  rw [keys_zeros]
  exact nodup_eraseDups tables

theorem sum_zeros (tables : List String) : ((zeros tables).map (·.2)).sum = 0 := by
  unfold zeros
  induction tables using List.reverseRecOn with
  | nil => rfl
  | append_singleton tables table ih =>
    rw [List.foldl_append, List.foldl_cons, List.foldl_nil, sum_add, ih]

end Tally

end RegistryDedup
