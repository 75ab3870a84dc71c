import Mathlib.Data.List.Forall2

/-!
# Steps that may fail

- `bind_eq_ok_iff`: a step and then another that needs its result.
- `mapM_eq_ok_iff`: the same step for each item of a list.
- `foldlM_eq_map_mapM`: items that are read and put in place one by one.
-/

namespace RegistryDedup

variable {α β γ ε : Type}

/-- Two steps succeed just where both do. -/
theorem bind_eq_ok_iff {x : Except ε α} {f : α → Except ε β} {b : β} :
    (x >>= f) = .ok b ↔ ∃ a, x = .ok a ∧ f a = .ok b := by
  cases x with
  | error e =>
    refine iff_of_false (fun h => ?_) ?_
    · cases h
    · rintro ⟨a, ha, -⟩
      cases ha
  | ok a =>
    constructor
    · intro h
      exact ⟨a, rfl, h⟩
    · rintro ⟨a, ha, h⟩
      obtain rfl := Except.ok.inj ha
      exact h

/-- A list can be read just where each of its items can. -/
theorem mapM_eq_ok_iff {f : α → Except ε β} {xs : List α} {ys : List β} :
    xs.mapM f = .ok ys ↔ List.Forall₂ (fun x y => f x = .ok y) xs ys := by
  induction xs generalizing ys with
  | nil =>
    rw [List.mapM_nil, List.forall₂_nil_left_iff]
    exact ⟨fun h => (Except.ok.inj h).symm, fun h => h ▸ rfl⟩
  | cons x xs ih =>
    rw [List.mapM_cons, List.forall₂_cons_left_iff, bind_eq_ok_iff]
    constructor
    · rintro ⟨y, hy, h⟩
      obtain ⟨rest, hrest, h⟩ := bind_eq_ok_iff.mp h
      exact ⟨y, rest, hy, ih.mp hrest, (Except.ok.inj h).symm⟩
    · rintro ⟨y, rest, hy, hrest, rfl⟩
      exact ⟨y, hy, bind_eq_ok_iff.mpr ⟨rest, ih.mpr hrest, rfl⟩⟩

/-- Items that are read and put in place one by one might as well all be read first. -/
theorem foldlM_eq_map_mapM (f : α → Except ε β) (put : γ → β → γ) (start : γ) (xs : List α) :
    xs.foldlM (fun acc x => do
      let y ← f x
      return put acc y) start = (xs.mapM f).map (·.foldl put start) := by
  induction xs generalizing start with
  | nil => rfl
  | cons x xs ih =>
    rw [List.foldlM_cons, List.mapM_cons]
    cases f x with
    | error e => rfl
    | ok y =>
      show xs.foldlM _ (put start y) = _
      rw [ih]
      cases xs.mapM f <;> rfl

end RegistryDedup
