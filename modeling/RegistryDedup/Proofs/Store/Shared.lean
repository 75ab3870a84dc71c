import RegistryDedup.Proofs.Interleaving
import RegistryDedup.Proofs.Store.Redirect
import RegistryDedup.Proofs.Store.Truthful

/-!
# Tables that others work on

Between any two attempts of a run others may change the tables.

- `calling_amid`: a call that has a result whatever others do needs one attempt. It is answered by
  the tables as they are by then.
- `Tables.Thinned`: tables of which one has lost some rows, all with a property. Tables that are
  thinned again and again are thinned in all.
-/

namespace RegistryDedup

open Interface.Environment

variable {policy : RetryPolicy} {operation : String} {h : Transcript} {t t' t'' : Tables}

/-- A call that has a result whatever others do needs one attempt. -/
theorem calling_amid {others : Tables → Tables → Prop} {r : Request} {reply : Reply r.Answer}
    (hcall : ∀ u, others t u → ∃ a, (Tables.call r u).1 = .ok a)
    (hy : (Run.calling policy operation r).Yields h reply)
    (hf : (Tables.truthful.amid others).Follows t h t') :
    ∃ u, others t u ∧ reply = (Tables.call r u).1 ∧ t' = (Tables.call r u).2 := by
  obtain ⟨fails, x, rfl, rfl, hfails, -⟩ := Run.yields_calling hy
  cases fails with
  | nil =>
    rw [List.nil_append, follows_singleton] at hf
    obtain ⟨u, hu, hx, ht⟩ := hf
    change x = _ at hx
    exact ⟨u, hu, by rw [hx]; rfl, ht⟩
  | cons e fails =>
    -- A failed attempt would have had the answer of the tables, and that is no failure.
    obtain ⟨y, f, rfl, hy, -⟩ := hfails e List.mem_cons_self
    obtain ⟨v, ⟨u, hu, hanswer, -⟩, -⟩ := hf
    obtain ⟨a, ha⟩ := hcall u hu
    change y = _ at hanswer
    rw [hanswer, ha] at hy
    cases hy

namespace Tables

/-- Tables of which one has lost some rows, all with a property. -/
structure Thinned (name : String) (P : Row → Prop) (t t' : Tables) : Prop where
  find : ∃ p : Row → Bool, (∀ row, p row = false → P row) ∧ ∀ n,
    t'.find? n = if n = name then (t.find? name).map (·.filterRows p) else t.find? n
  failingDeletes : t'.failingDeletes = t.failingDeletes

namespace Thinned

variable {name : String} {P : Row → Prop}

theorem refl (name : String) (P : Row → Prop) (t : Tables) : Thinned name P t t where
  find := by
    refine ⟨fun _ => true, by simp, fun n => ?_⟩
    have hsame : (fun u : Table => u.filterRows fun _ => true) = id :=
      funext fun u => Table.filterRows_of_forall fun row _ => rfl
    rw [hsame, Option.map_id, id]
    split
    · next hn => rw [hn]
    · rfl
  failingDeletes := rfl

theorem trans (ht : Thinned name P t t') (ht' : Thinned name P t' t'') : Thinned name P t t'' where
  find := by
    obtain ⟨p, hp, hfind⟩ := ht.find
    obtain ⟨p', hp', hfind'⟩ := ht'.find
    refine ⟨fun row => p row && p' row, fun row hrow => ?_, fun n => ?_⟩
    · rcases Bool.and_eq_false_iff.mp hrow with hrow | hrow
      · exact hp row hrow
      · exact hp' row hrow
    · by_cases hn : n = name
      · rw [hfind', if_pos hn, if_pos hn, hfind, if_pos rfl, Option.map_map]
        congr 1
        funext u
        exact Table.filterRows_filterRows p p' u
      · rw [hfind', if_neg hn, if_neg hn, hfind, if_neg hn]
  failingDeletes := ht'.failingDeletes.trans ht.failingDeletes

/-- Tables that are thinned again and again are thinned in all. -/
theorem of_steps (ht : Relation.ReflTransGen (Thinned name P) t t') : Thinned name P t t' := by
  induction ht with
  | refl => exact .refl name P t
  | tail _ hlast ih => exact ih.trans hlast

theorem rows (ht : Thinned name P t t') : ∃ p : Row → Bool, (∀ row, p row = false → P row) ∧
    t'.rows name = (t.rows name).filter p := by
  obtain ⟨p, hp, hfind⟩ := ht.find
  refine ⟨p, hp, ?_⟩
  rw [Tables.rows, hfind, if_pos rfl]
  cases hu : t.find? name with
  | none => rw [rows_of_missing hu]; rfl
  | some u => rw [rows_of_find? hu]; rfl

theorem sublist (ht : Thinned name P t t') : (t'.rows name).Sublist (t.rows name) := by
  obtain ⟨p, -, hrows⟩ := ht.rows
  rw [hrows]
  exact List.filter_sublist

/-- A row without the property is still there. -/
theorem kept (ht : Thinned name P t t') {row : Row} (hrow : row ∈ t.rows name) (hP : ¬ P row) :
    row ∈ t'.rows name := by
  obtain ⟨p, hp, hrows⟩ := ht.rows
  rw [hrows, List.mem_filter]
  refine ⟨hrow, ?_⟩
  by_contra hnot
  exact hP (hp row (Bool.not_eq_true _ ▸ hnot))

theorem isSome (ht : Thinned name P t t') : (t'.find? name).isSome = (t.find? name).isSome := by
  obtain ⟨p, -, hfind⟩ := ht.find
  rw [hfind, if_pos rfl, Option.isSome_map]

end Thinned

/-- A delete that is allowed takes the rows with the id. -/
theorem thinned_deleteIds {name column id : String} {P : Row → Prop}
    (hdeletes : t.failingDeletes = []) (hP : ∀ row, row.has column id = true → P row) :
    Thinned name P t (t.deleteIds name column [id]).2 where
  find := by
    have hallowed : (name, id) ∉ t.failingDeletes := by
      rw [hdeletes]
      exact List.not_mem_nil
    refine ⟨fun row => !row.has column id, fun row hrow => hP row ?_, fun n => ?_⟩
    · simpa using hrow
    · exact find?_deleteIds hallowed column n
  failingDeletes := (alike_deleteIds t name column id).failingDeletes

end Tables

end RegistryDedup
