import RegistryDedup.Proofs.Merge.Counting
import RegistryDedup.Proofs.Merge.Survivor
import RegistryDedup.Proofs.Store.Purge

/-!
# What the steps of a group leave

On tables in memory the moves and deletes of a group come to an end, and what they leave can be said
at once for all of them.

- `LedElsewhere`: the references of some dependents are led elsewhere, and nothing else has changed.
  `truthful_repointFrom` says so of the moves, with the number of cells in each table.
- `truthful_purgeFrom`: by the deletes the rows of all losers are gone but those whose delete is
  refused.
-/

namespace RegistryDedup

open Interface.Environment

variable {s : Settings} {policy : RetryPolicy} {h : Transcript} {t t' t'' : Tables}

/-! ## References led elsewhere -/

/-- The columns of a table that hold references. -/
def columnsIn (dependents : List Dependent) (table : String) : List String :=
  (dependents.filter (·.table = table)).map (·.column)

theorem mem_columnsIn {dependents : List Dependent} {table column : String} :
    column ∈ columnsIn dependents table ↔
      ∃ d ∈ dependents, d.table = table ∧ d.column = column := by
  simp [columnsIn, and_assoc]

theorem columnsIn_cons (d : Dependent) (dependents : List Dependent) (table : String) :
    columnsIn (d :: dependents) table =
      if d.table = table then d.column :: columnsIn dependents table
      else columnsIn dependents table := by
  rw [columnsIn, List.filter_cons]
  by_cases htable : d.table = table <;> simp [htable, columnsIn]

theorem columnsIn_eq_nil {dependents : List Dependent} {table : String}
    (h : ∀ d ∈ dependents, d.table ≠ table) : columnsIn dependents table = [] := by
  simpa [columnsIn] using h

/-- Tables in which the references of some dependents are led elsewhere, and that are otherwise the
same. -/
structure LedElsewhere (target : Target) (dependents : List Dependent) (t t' : Tables) : Prop where
  alike : Tables.Alike t t'
  find? : ∀ name, t'.find? name = (t.find? name).map
    (·.mapRows (Row.redirectedAll target (columnsIn dependents name)))

namespace LedElsewhere

variable {target : Target} {dependents : List Dependent} {d : Dependent}

theorem nil : LedElsewhere target [] t t where
  alike := .refl t
  find? name := by
    simp [columnsIn]

theorem cons (h : LedElsewhere target [d] t t') (h' : LedElsewhere target dependents t' t'') :
    LedElsewhere target (d :: dependents) t t'' where
  alike := h.alike.trans h'.alike
  find? name := by
    rw [h'.find?, h.find?, Option.map_map]
    congr 1
    funext u
    rw [Function.comp_apply, Table.mapRows_mapRows, columnsIn_cons, columnsIn_cons]
    split <;> rfl

theorem rows (h : LedElsewhere target dependents t t') (name : String) :
    t'.rows name =
      (t.rows name).map (Row.redirectedAll target (columnsIn dependents name)) := by
  rw [Tables.rows, h.find?, Tables.rows]
  cases t.find? name <;> rfl

/-- The cells of another dependent are as they were. -/
theorem cells (h : LedElsewhere target dependents t t') (hd : d ∉ dependents)
    (ids : List String) : t'.cells d ids = t.cells d ids := by
  have hcolumn : d.column ∉ columnsIn dependents d.table := by
    intro hmem
    obtain ⟨d', hd', htable, hcolumn⟩ := mem_columnsIn.mp hmem
    have heq : d' = d := by
      cases d
      cases d'
      cases htable
      cases hcolumn
      rfl
    exact hd (heq ▸ hd')
  rw [Tables.cells, h.rows, List.countP_map, Tables.cells]
  refine List.countP_congr fun row _ => ?_
  rw [Function.comp_apply, Row.any_has, Row.any_has, Row.text?_redirectedAll_of_not_mem hcolumn]

end LedElsewhere

theorem Present.alike (hp : Present s t) (ha : Tables.Alike t t') : Present s t' := by
  have hfind : ∀ name, (t'.find? name).isSome = (t.find? name).isSome := by
    intro name
    have hcolumns := congrArg Option.isSome (ha.columns name)
    rwa [Tables.columns?, Tables.columns?, Option.isSome_map, Option.isSome_map] at hcolumns
  exact {
    entity := by rw [hfind]; exact hp.entity
    dependents := fun d hd => by rw [hfind]; exact hp.dependents d hd }

/-! ## Moves -/

/-- A move in a table that is there finds all references. -/
theorem truthful_repoint {d : Dependent} {l keep : String} {reply : Reply Nat}
    (hu : (t.find? d.table).isSome) (hy : (Run.repoint policy d l keep).Yields h reply)
    (hf : Tables.truthful.Follows t h t') :
    reply = .ok (t.references d l) ∧ t' = (t.repoint d.table d.column l keep).2 := by
  obtain ⟨hreply, ht, -⟩ := truthful_calling hy hf
  refine ⟨?_, ht⟩
  obtain ⟨u, hu⟩ := Option.isSome_iff_exists.mp hu
  rw [hreply]
  show (t.repoint d.table d.column l keep).1 = _
  rw [Tables.repoint, Tables.changing, hu, Tables.references, Tables.rows_of_find? hu]
  rfl

/-- The moves of one dependent lead all its references elsewhere. -/
theorem truthful_repointDependent {d : Dependent} {keep : String} {losers : List String}
    (hu : (t.find? d.table).isSome) (hkeep : keep ∉ losers) {moved : Nat}
    {result : Except RepointFailure Nat}
    (hy : (repointDependent policy keep d losers moved).Yields h result)
    (hf : Tables.truthful.Follows t h t') :
    result = .ok (moved + t.cells d losers) ∧
      LedElsewhere (Target.gather losers keep) [d] t t' := by
  have hmoves : result = .ok (moved + t.cells d losers) ∧ Tables.Alike t t' ∧
      ∀ name, t'.find? name = if name = d.table then (t.find? name).map
        (·.mapRows fun row => losers.foldl (fun row l => row.moved d.column l keep) row)
      else t.find? name := by
    induction losers generalizing h t moved with
    | nil =>
      obtain ⟨rfl, rfl⟩ := hy
      obtain rfl := hf
      exact ⟨by simp [Tables.cells], .refl _, fun name => by simp⟩
    | cons l losers ih =>
      rw [List.mem_cons, not_or] at hkeep
      rw [repointDependent, Program.bind_eq, Program.yields_bind] at hy
      obtain ⟨reply, h₁, h₂, rfl, hcall, hy⟩ := hy
      obtain ⟨u, hf, hf'⟩ := follows_append.mp hf
      obtain ⟨rfl, rfl⟩ := truthful_repoint hu hcall hf
      have halike := Tables.alike_repoint t d.table d.column l keep
      have hu' : ((t.repoint d.table d.column l keep).2.find? d.table).isSome := by
        rw [Tables.find?_repoint, if_pos rfl, Option.isSome_map]
        exact hu
      obtain ⟨rfl, halike', hfind⟩ := ih hu' hkeep.2 hy hf'
      refine ⟨?_, halike.trans halike', fun name => ?_⟩
      · have hcount := @countP_moved losers keep l d.column hkeep.2 (t.rows d.table)
        rw [Nat.add_assoc, Tables.cells, Tables.rows_repoint, if_pos rfl, Tables.references, hcount]
        rfl
      · rw [hfind, Tables.find?_repoint]
        by_cases hname : name = d.table
        · rw [if_pos hname, if_pos hname, if_pos hname, hname, Option.map_map]
          congr 1
          funext u
          rw [Function.comp_apply, Table.mapRows_mapRows]
          rfl
        · rw [if_neg hname, if_neg hname, if_neg hname]
  obtain ⟨hresult, halike, hfind⟩ := hmoves
  refine ⟨hresult, halike, fun name => ?_⟩
  rw [hfind, columnsIn_cons]
  by_cases hname : name = d.table
  · rw [if_pos hname, if_pos hname.symm]
    refine congrArg (fun f => (t.find? name).map (·.mapRows f)) (funext fun row => ?_)
    exact Row.foldl_moved hkeep row d.column
  · rw [if_neg hname, if_neg (Ne.symm hname)]
    simp [columnsIn]

/-- How many cells of a table refer to any of several entities. -/
def cellsIn (dependents : List Dependent) (t : Tables) (ids : List String) (table : String) : Nat :=
  ((dependents.filter (·.table = table)).map fun d => t.cells d ids).sum

/-- The moves of several dependents, with the number of cells in each table. -/
theorem truthful_repointFrom {keep : String} {losers : List String} (hkeep : keep ∉ losers)
    {dependents : List Dependent} (hu : ∀ d ∈ dependents, (t.find? d.table).isSome)
    {moved : Tally} {result : Except RepointFailure Tally}
    (hy : (repointFrom policy keep losers dependents moved).Yields h result)
    (hf : Tables.truthful.Follows t h t') :
    LedElsewhere (Target.gather losers keep) dependents t t' ∧ ∃ tally, result = .ok tally ∧
      (∀ table, (tally.lookup table).isSome ↔
        (moved.lookup table).isSome ∨ ∃ d ∈ dependents, d.table = table) ∧
      (dependents.Nodup → ∀ table,
        tally.get table = moved.get table + cellsIn dependents t losers table) := by
  induction dependents generalizing h t moved with
  | nil =>
    obtain ⟨rfl, rfl⟩ := hy
    obtain rfl := hf
    exact ⟨.nil, moved, rfl, by simp, by simp [cellsIn]⟩
  | cons d dependents ih =>
    rw [List.forall_mem_cons] at hu
    rw [repointFrom, Program.bind_eq, Program.yields_bind] at hy
    obtain ⟨first, h₁, h₂, rfl, hfirst, hy⟩ := hy
    obtain ⟨u, hf, hf'⟩ := follows_append.mp hf
    obtain ⟨rfl, hled⟩ := truthful_repointDependent hu.1 hkeep hfirst hf
    have hu' : ∀ d ∈ dependents, (u.find? d.table).isSome := by
      intro d' hd'
      rw [hled.find?, Option.isSome_map]
      exact hu.2 d' hd'
    obtain ⟨hrest, tally, rfl, hkeys, hsums⟩ := ih hu' hy hf'
    refine ⟨hled.cons hrest, tally, rfl, fun table => ?_, fun hnodup table => ?_⟩
    · rw [hkeys, Tally.lookup_add]
      by_cases htable : table = d.table
      · simp [htable]
      · simp [htable, Ne.symm htable]
    · rw [List.nodup_cons] at hnodup
      -- The moves of the first dependent have not touched the cells of the others.
      have hcells : cellsIn dependents u losers table = cellsIn dependents t losers table := by
        rw [cellsIn, cellsIn]
        refine congrArg List.sum (List.map_congr_left fun d' hd' => ?_)
        refine hled.cells ?_ losers
        rw [List.mem_singleton]
        rintro rfl
        exact hnodup.1 (List.mem_of_mem_filter hd')
      rw [hsums hnodup.2, hcells, Tally.get_add, cellsIn, cellsIn, List.filter_cons]
      by_cases htable : table = d.table
      · simp [htable, Nat.add_assoc]
      · simp [htable, Ne.symm htable]

/-! ## Deletes -/

/-- The deletes of some losers, after others: all are gone but those whose delete is refused. -/
theorem truthful_purgeFrom {entity : EntityTable} {losers : List String}
    {first outcome : PurgeOutcome} (hu : (t.find? entity.table).isSome)
    (hy : (purgeFrom policy entity losers first).Yields h outcome)
    (hf : Tables.truthful.Follows t h t') :
    Purged entity (losers.filter fun l => (entity.table, l) ∉ t.failingDeletes) t t' ∧
      (∀ id, id ∈ outcome.deleted ++ outcome.absent ↔
        id ∈ first.deleted ++ first.absent ∨
          (id ∈ losers ∧ (entity.table, id) ∉ t.failingDeletes)) ∧
      outcome.failed.map (·.1) = first.failed.map (·.1) ++
        losers.filter fun l => (entity.table, l) ∈ t.failingDeletes := by
  induction losers generalizing h t first with
  | nil =>
    obtain ⟨rfl, rfl⟩ := hy
    obtain rfl := hf
    exact ⟨.nil, by simp, by simp⟩
  | cons l losers ih =>
    rw [purgeFrom, Program.bind_eq, Program.yields_bind] at hy
    obtain ⟨reply, h₁, h₂, rfl, hcall, hy⟩ := hy
    obtain ⟨u, hf, hf'⟩ := follows_append.mp hf
    have hdelete := truthful_deleteId hu hcall hf
    split at hdelete
    · next hfailing =>
      obtain ⟨rfl, rfl⟩ := hdelete
      obtain ⟨hpurged, hgone, hfailed⟩ := ih hu hy hf'
      have hrecord : ∀ f : String, first.record l (.error (.stillReferenced entity.table f l)) =
          { first with failed := first.failed ++
            [(l, (Failure.stillReferenced entity.table f l).message)] } := fun _ => rfl
      refine ⟨?_, fun id => ?_, ?_⟩
      · simpa [hfailing] using hpurged
      · rw [hgone, hrecord, List.mem_cons]
        refine or_congr_right ⟨fun hid => ⟨.inr hid.1, hid.2⟩, ?_⟩
        rintro ⟨rfl | hid, hallowed⟩
        · exact absurd hfailing hallowed
        · exact ⟨hid, hallowed⟩
      · rw [hfailed, hrecord]
        simp [hfailing]
    · next hallowed =>
      obtain ⟨⟨n, rfl⟩, hfirst⟩ := hdelete
      obtain ⟨hpurged, hgone, hfailed⟩ := ih (hfirst.isSome hu) hy hf'
      rw [hfirst.alike.failingDeletes] at hpurged hgone hfailed
      have hrecord : (∀ id,
          id ∈ (first.record l (.ok n)).deleted ++ (first.record l (.ok n)).absent ↔
            id ∈ first.deleted ++ first.absent ∨ id = l) ∧
          (first.record l (.ok n)).failed = first.failed := by
        cases n with
        | zero => simp [PurgeOutcome.record, or_assoc]
        | succ n =>
          refine ⟨fun id => ?_, rfl⟩
          simp only [PurgeOutcome.record, List.mem_append, List.mem_singleton]
          grind
      refine ⟨?_, fun id => ?_, ?_⟩
      · have hboth := hfirst.append hpurged
        simpa [hallowed] using hboth
      · rw [hgone, hrecord.1, List.mem_cons, or_assoc]
        refine or_congr_right ⟨?_, ?_⟩
        · rintro (rfl | hid)
          · exact ⟨.inl rfl, hallowed⟩
          · exact ⟨.inr hid.1, hid.2⟩
        · rintro ⟨rfl | hid, hother⟩
          · exact .inl rfl
          · exact .inr ⟨hid, hother⟩
      · rw [hfailed, hrecord.2]
        simp [hallowed]

end RegistryDedup
