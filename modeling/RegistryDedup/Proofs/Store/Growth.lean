import Mathlib.Data.List.Forall2
import RegistryDedup.Proofs.Store.Truthful

/-!
# Rows that are added and rows that are patched

What an insert, a trigger and an update by id leave of the rows that were there. An update patches
the rows with its id, up to the first that would repeat a text, and then the triggers of its table
add rows.

- `fireAll_keeps`: what an insert keeps is kept by triggers.
- `Tables.Grown`: tables to which rows were added, so that no owner has got a second detail.
- `Grown.fireAll`: triggers leave such tables, wherever one of them fails.
- `Tables.Patched`: tables in which rows with an id were patched.
- `exists_patched_updateById`: an update patches rows and then adds some.
-/

namespace RegistryDedup

namespace Tables

variable {t t' t'' : Tables} {may : String → Prop} {detail : DetailTable} {owner : String}

/-! ## Rows that are added -/

@[simp] theorem triggers_wrote (t : Tables) (n : Nat) : (t.wrote n).triggers = t.triggers := by
  rw [wrote]
  split <;> rfl

theorem triggers_deleteIds (t : Tables) (table column id : String) :
    (t.deleteIds table column [id]).2.triggers = t.triggers := by
  rw [deleteIds]
  split
  · rfl
  · rw [changing]
    split
    · exact triggers_wrote _ _
    · rfl

/-- A row that is added is the last one of its table. -/
theorem rows_insert {table : String} {row : Row} (h : t.insert table row = (.ok (), t'))
    (n : String) : t'.rows n = if n = table then t.rows table ++ [row] else t.rows n := by
  rw [insert, changing] at h
  cases hu : t.find? table with
  | none =>
    rw [hu] at h
    cases h
  | some u =>
    rw [hu] at h
    dsimp only at h
    split at h
    · cases h
    · cases h
      rw [rows_wrote, rows_put, rows_of_find? hu]

/-- What an insert keeps, whether or not it succeeds, the triggers keep. -/
theorem fireAll_keeps {P : Tables → Tables → Prop} (hrefl : ∀ t, P t t)
    (htrans : ∀ t t' t'', P t t' → P t' t'' → P t t'')
    (hadded : ∀ t : Tables, P t { t with added := t.added + 1 })
    (hinsert : ∀ t table row, P t (Tables.insert t table row).2)
    (hnote : ∀ t e, P t (Tables.note t e)) (owner : String) (triggers : List DetailTrigger)
    (t : Tables) : P t (fireAll owner triggers t).2 := by
  have hfire : ∀ (t : Tables) (detail : DetailTable), P t (t.fire detail owner).2 := by
    intro t detail
    rw [fire, changing]
    split
    · split
      · exact hrefl t
      · have hrow := htrans _ _ _ (hadded t) (hinsert { t with added := t.added + 1 } detail.table
          (t.triggeredRow detail owner))
        dsimp only
        split
        · next heq =>
          rw [heq] at hrow
          exact htrans _ _ _ hrow (hnote _ _)
        · next heq =>
          rw [heq] at hrow
          exact hrow
    · exact hrefl t
  induction triggers generalizing t with
  | nil => exact hrefl t
  | cons trigger rest ih =>
    have hfirst := hfire t trigger.detail
    rw [fireAll]
    split
    · next after heq =>
      rw [heq] at hfirst
      exact htrans _ _ _ hfirst (ih after)
    · next heq =>
      rw [heq] at hfirst
      exact hfirst

/-- Rows were added to some tables, after those that were there. An owner with at most one detail
has not got another. -/
structure Grown (may : String → Prop) (detail : DetailTable) (owner : String) (t t' : Tables) :
    Prop where
  before : ∀ name, t.rows name <+: t'.rows name
  elsewhere : ∀ name, ¬ may name → t'.rows name = t.rows name
  single : (t.rows detail.table).countP (·.has detail.ownerColumn owner) ≤ 1 →
    (t'.rows detail.table).countP (·.has detail.ownerColumn owner) ≤ 1

namespace Grown

theorem of_rows (h : ∀ name, t'.rows name = t.rows name) : Grown may detail owner t t' where
  before name := (h name).symm ▸ List.prefix_rfl
  elsewhere name _ := h name
  single hone := by rwa [h]

theorem refl (t : Tables) : Grown may detail owner t t := of_rows fun _ => rfl

theorem trans (h : Grown may detail owner t t') (h' : Grown may detail owner t' t'') :
    Grown may detail owner t t'' where
  before name := (h.before name).trans (h'.before name)
  elsewhere name hname := (h'.elsewhere name hname).trans (h.elsewhere name hname)
  single hone := h'.single (h.single hone)

/-- A row is added where the owner has no detail, or to another table. -/
theorem insert {table : String} {row : Row} (hmay : may table)
    (hnone : table = detail.table → ∀ row ∈ t.rows table, ¬ row.has detail.ownerColumn owner)
    (h : t.insert table row = (.ok (), t')) : Grown may detail owner t t' where
  before name := by
    rw [rows_insert h]
    by_cases hname : name = table
    · rw [if_pos hname, hname]
      exact List.prefix_append _ _
    · exact (if_neg hname).symm ▸ List.prefix_rfl
  elsewhere name hname := by
    rw [rows_insert h, if_neg]
    rintro rfl
    exact hname hmay
  single hone := by
    rw [rows_insert h]
    by_cases htable : detail.table = table
    · have hzero := List.countP_eq_zero.mpr (hnone htable.symm)
      rw [if_pos htable, List.countP_append, hzero, Nat.zero_add]
      exact List.countP_le_length
    · rwa [if_neg htable]

theorem insertRow {table : String} {row : Row} (hmay : may table)
    (hnone : table = detail.table → ∀ row ∈ t.rows table, ¬ row.has detail.ownerColumn owner) :
    Grown may detail owner t (t.insertRow table row).2 := by
  rw [Tables.insertRow]
  rcases insert_cases t table row with ⟨after, heq, -⟩ | heq | ⟨_, _, _, -, -, heq⟩
  · rw [heq]
    exact (Grown.insert hmay hnone heq).trans (of_rows fun _ => rfl)
  · rw [heq]
    exact .refl t
  · rw [heq]
    exact .refl t

/-- A trigger adds nothing for an owner that has a detail. -/
theorem fire {d : DetailTable} (hmay : may d.table) (hd : d.table = detail.table → d = detail)
    (t : Tables) : Grown may detail owner t (t.fire d owner).2 := by
  rw [Tables.fire, changing]
  cases hu : t.find? d.table with
  | none => exact .refl t
  | some u =>
    dsimp only
    by_cases hany : (u.rows.any fun row => row.has d.ownerColumn owner) = true
    · rw [if_pos hany]
      exact .refl t
    · rw [if_neg hany]
      have hnone : d.table = detail.table →
          ∀ row ∈ t.rows d.table, ¬ row.has detail.ownerColumn owner := by
        intro htable row hrow hhas
        rw [rows_of_find? hu] at hrow
        rw [hd htable] at hany
        exact hany (List.any_eq_true.mpr ⟨row, hrow, hhas⟩)
      -- The number of the new row is counted up, whether or not the row is added.
      have hcounted : Grown may detail owner t { t with added := t.added + 1 } :=
        of_rows fun _ => rfl
      rcases insert_cases { t with added := t.added + 1 } d.table (t.triggeredRow d owner) with
        ⟨after, heq, -⟩ | heq | ⟨_, _, _, -, -, heq⟩
      · have hadded := Grown.insert (t := { t with added := t.added + 1 }) hmay hnone heq
        rw [heq]
        exact (hcounted.trans hadded).trans (of_rows fun _ => rfl)
      · rw [heq]
        exact hcounted
      · rw [heq]
        exact hcounted

theorem fireAll {triggers : List DetailTrigger}
    (h : ∀ trigger ∈ triggers, may trigger.detail.table ∧
      (trigger.detail.table = detail.table → trigger.detail = detail)) (t : Tables) :
    Grown may detail owner t (Tables.fireAll owner triggers t).2 := by
  induction triggers generalizing t with
  | nil => exact .refl t
  | cons trigger rest ih =>
    rw [List.forall_mem_cons] at h
    have hfire : Grown may detail owner t (t.fire trigger.detail owner).2 := fire h.1.1 h.1.2 t
    rw [Tables.fireAll]
    split
    · next after heq =>
      rw [heq] at hfire
      exact hfire.trans (ih h.2 after)
    · next after heq =>
      rw [heq] at hfire
      exact hfire

end Grown

/-! ## Rows that are patched -/

/-- Each row is as it was, unless it had the id. -/
def PatchedRows (column id : String) (rows rows' : List Row) : Prop :=
  List.Forall₂ (fun old new => new = old ∨ old.has column id = true) rows rows'

variable {column id : String} {rows rows' : List Row}

theorem PatchedRows.refl (rows : List Row) : PatchedRows column id rows rows :=
  List.forall₂_same.mpr fun _ _ => .inl rfl

theorem PatchedRows.set {i : Nat} {new : Row} (h : PatchedRows column id rows rows')
    (hi : ∀ old, rows[i]? = some old → old.has column id = true) :
    PatchedRows column id rows (rows'.set i new) := by
  induction h generalizing i with
  | nil => exact .nil
  | @cons old new' rows rows' hold hrest ih =>
    cases i with
    | zero => exact .cons (.inr (hi old rfl)) hrest
    | succ i => exact .cons hold (ih hi)

/-- The rows with another id are all there. -/
theorem PatchedRows.sublist (h : PatchedRows column id rows rows') :
    (rows.filter fun row => !row.has column id).Sublist rows' := by
  induction h with
  | nil => exact .slnil
  | @cons old new rows rows' hold hrest ih =>
    rw [List.filter_cons]
    split
    · next hnot =>
      obtain rfl | hhas := hold
      · exact ih.cons_cons _
      · rw [hhas] at hnot
        cases hnot
    · exact ih.cons _

theorem has_of_mem_placesOf {u : Table} {i : Nat} (hi : i ∈ placesOf u column id) (row : Row)
    (hrow : u.rows[i]? = some row) : row.has column id = true := by
  obtain ⟨⟨old, j⟩, hmem, rfl⟩ := List.mem_map.mp hi
  rw [List.mem_filter, List.mem_zipIdx_iff_getElem?] at hmem
  rw [hmem.1] at hrow
  cases hrow
  exact hmem.2

/-- Rows are patched at places where the id is, up to the first that would repeat a text. -/
theorem patchedRows_patchRows {name : String} {patch : Row} {places : List Nat} {u v : Table}
    (hplaces : ∀ i ∈ places, ∀ row, u.rows[i]? = some row → row.has column id = true)
    (h : PatchedRows column id u.rows v.rows) :
    PatchedRows column id u.rows (patchRows name patch places v).2.rows := by
  induction places generalizing v with
  | nil => exact h
  | cons i places ih =>
    rw [List.forall_mem_cons] at hplaces
    rw [patchRows]
    split
    · exact ih hplaces.2 h
    · dsimp only
      split
      · exact h
      · exact ih hplaces.2 (h.set hplaces.1)

/-- In one table rows with an id were patched. -/
structure Patched (table column id : String) (t t' : Tables) : Prop where
  rows : PatchedRows column id (t.rows table) (t'.rows table)
  elsewhere : ∀ name, name ≠ table → t'.rows name = t.rows name

theorem Patched.refl {table : String} (t : Tables) : Patched table column id t t :=
  ⟨.refl _, fun _ _ => rfl⟩

/-- An update patches the rows with its id, and then the triggers of its table add rows. -/
theorem exists_patched_updateById {table : String}
    (h : ∀ trigger ∈ t.triggers, trigger.ownerTable = table → may trigger.detail.table ∧
      (trigger.detail.table = detail.table → trigger.detail = detail)) (patch : Row) :
    ∃ mid, Patched table column id t mid ∧
      Grown may detail id mid (t.updateById table column id patch).2 := by
  rw [updateById, changing]
  cases hu : t.find? table with
  | none => exact ⟨t, .refl t, .refl t⟩
  | some u =>
    have hpatched : PatchedRows column id u.rows
        (patchRows table patch (placesOf u column id) u).2.rows :=
      patchedRows_patchRows (fun i hi => has_of_mem_placesOf hi) (.refl u.rows)
    have hput : ∀ v : Table, PatchedRows column id u.rows v.rows →
        Patched table column id t (t.put table v) := by
      intro v hv
      refine ⟨?_, fun name hname => ?_⟩
      · rwa [rows_put, if_pos rfl, rows_of_find? hu]
      · rw [rows_put, if_neg hname]
    dsimp only
    split
    · next v heq =>
      rw [heq] at hpatched
      exact ⟨_, hput v hpatched, .refl _⟩
    · next v heq =>
      rw [heq] at hpatched
      refine ⟨_, hput v hpatched, ?_⟩
      -- The triggers of the table fire unless there was no row to patch.
      have hwrote : Grown may detail id (t.put table v)
          ((t.put table v).wrote (placesOf u column id).length) :=
        .of_rows fun name => rows_wrote _ _ name
      split
      · exact hwrote
      · have htriggers : ∀ trigger ∈ (t.put table v).triggers.filter (·.ownerTable == table),
            may trigger.detail.table ∧
              (trigger.detail.table = detail.table → trigger.detail = detail) := by
          intro trigger hmem
          rw [List.mem_filter, beq_iff_eq] at hmem
          exact h trigger hmem.1 hmem.2
        have hfire := hwrote.trans (Grown.fireAll htriggers _)
        rw [triggers_wrote]
        split
        · next heq' =>
          rw [heq'] at hfire
          exact hfire
        · next heq' =>
          rw [heq'] at hfire
          exact hfire

end Tables

end RegistryDedup
