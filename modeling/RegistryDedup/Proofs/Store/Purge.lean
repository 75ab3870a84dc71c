import RegistryDedup.Proofs.Store.Redirect
import RegistryDedup.Proofs.Store.Truthful

/-!
# Rows deleted by their ids

- `Purged`: tables without the rows that have some ids, and the rows that are left
  (`Purged.rows`).
- `truthful_deleteId`: a delete of one id leaves such tables, unless it is refused.
-/

namespace RegistryDedup

open Interface.Environment

variable {policy : RetryPolicy} {h : Transcript} {t t' t'' : Tables}

/-- Tables without the rows of some entities, and otherwise the same. -/
structure Purged (entity : EntityTable) (gone : List String) (t t' : Tables) : Prop where
  alike : Tables.Alike t t'
  find? : ∀ name, t'.find? name = if name = entity.table then (t.find? name).map
      (·.filterRows fun row => !gone.any (row.has entity.idColumn))
    else t.find? name

theorem Purged.nil {entity : EntityTable} : Purged entity [] t t where
  alike := .refl t
  find? name := by
    have hsame : ∀ u : Table, (u.filterRows fun _ => true) = u :=
      fun u => Table.filterRows_of_forall fun row _ => rfl
    simp [hsame]

theorem Purged.append {entity : EntityTable} {gone gone' : List String}
    (h : Purged entity gone t t') (h' : Purged entity gone' t' t'') :
    Purged entity (gone ++ gone') t t'' where
  alike := h.alike.trans h'.alike
  find? name := by
    rw [h'.find?, h.find?]
    by_cases hname : name = entity.table
    · rw [if_pos hname, if_pos hname, if_pos hname, Option.map_map]
      congr 1
      funext u
      rw [Function.comp_apply, Table.filterRows_filterRows]
      simp only [List.any_append, Bool.not_or]
    · rw [if_neg hname, if_neg hname, if_neg hname]

section

variable {entity : EntityTable} {gone : List String} (hpurged : Purged entity gone t t')
include hpurged

theorem Purged.rows : t'.rows entity.table =
    (t.rows entity.table).filter fun row => !gone.any (row.has entity.idColumn) := by
  rw [Tables.rows, hpurged.find?, if_pos rfl, Option.map_map, Tables.rows]
  cases t.find? entity.table <;> rfl

theorem Purged.isSome (hu : (t.find? entity.table).isSome) : (t'.find? entity.table).isSome := by
  rw [hpurged.find?, if_pos rfl, Option.isSome_map]
  exact hu

end

/-- A delete is refused where it is set up to be; otherwise the row is gone. -/
theorem truthful_deleteId {entity : EntityTable} {l : String} {reply : Reply Nat}
    (hu : (t.find? entity.table).isSome)
    (hy : (Run.deleteId policy entity.table entity.idColumn l).Yields h reply)
    (hf : Tables.truthful.Follows t h t') :
    if (entity.table, l) ∈ t.failingDeletes then
      reply = .error (.stillReferenced entity.table entity.idColumn l) ∧ t' = t
    else (∃ n, reply = .ok n) ∧ Purged entity [l] t t' := by
  obtain ⟨hreply, ht, -⟩ := truthful_calling hy hf
  change reply = (t.deleteIds entity.table entity.idColumn [l]).1 at hreply
  change t' = (t.deleteIds entity.table entity.idColumn [l]).2 at ht
  split
  · next hfailing =>
    have hfind : ([l].find? fun id => t.failingDeletes.contains (entity.table, id)) = some l := by
      simpa using hfailing
    rw [Tables.deleteIds, hfind] at hreply ht
    exact ⟨hreply, ht⟩
  · next hallowed =>
    constructor
    · have hfind : ([l].find? fun id => t.failingDeletes.contains (entity.table, id)) = none := by
        simpa using hallowed
      obtain ⟨u, hu⟩ := Option.isSome_iff_exists.mp hu
      rw [hreply, Tables.deleteIds, hfind]
      dsimp only
      rw [Tables.changing, hu]
      exact ⟨_, rfl⟩
    · rw [ht]
      refine ⟨Tables.alike_deleteIds _ _ _ _, fun name => ?_⟩
      rw [Tables.find?_deleteIds hallowed]
      by_cases hname : name = entity.table
      · rw [if_pos hname, if_pos hname, hname]
        simp
      · rw [if_neg hname, if_neg hname]

end RegistryDedup
