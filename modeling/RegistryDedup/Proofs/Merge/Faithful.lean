import Mathlib.Data.List.Nodup
import RegistryDedup.Merge.Settings
import RegistryDedup.Proofs.Store.Tables

/-!
# Tables that keep their references

What may become of tables without a reference being lost. A row refers to an entity by the id in one
of the columns of dependents, and what counts is the key of the name that the entity has.

- `ResolvesTo`: an id is that of an entity with some key.
- `RowsAfter`: the rows of a table, some of them changed and some of them deleted.
- `Faithful`: every reference leads to an entity of the same key as before, and nothing else has
  changed. Faithfulness is reflexive and transitive, so that a run has it if its steps do.
- `RowFaithful.same`, `RowFaithful.of_moved`: a row that stays, and one whose reference is moved.
- `faithful_repoint`, `faithful_deleteIds`: the steps. References may be moved between entities of
  one key, and an entity may be deleted once no reference leads to it.
-/

namespace RegistryDedup

/-! ## Rows that stay and rows that go -/

/-- The rows of a table after some change: those that stay, in their order, and those that were
deleted. -/
inductive RowsAfter (changed : Row → Row → Prop) (dropped : Row → Prop) :
    List Row → List Row → Prop where
  | nil : RowsAfter changed dropped [] []
  | keep {row row' : Row} {rows rows' : List Row} (hrow : changed row row')
      (hrest : RowsAfter changed dropped rows rows') :
      RowsAfter changed dropped (row :: rows) (row' :: rows')
  | drop {row : Row} {rows rows' : List Row} (hrow : dropped row)
      (hrest : RowsAfter changed dropped rows rows') :
      RowsAfter changed dropped (row :: rows) rows'

namespace RowsAfter

variable {changed changed₁ changed₂ : Row → Row → Prop} {dropped dropped₁ dropped₂ : Row → Prop}
  {rows rows' rows'' : List Row}

theorem map {f : Row → Row} (h : ∀ row ∈ rows, changed row (f row)) :
    RowsAfter changed dropped rows (rows.map f) := by
  induction rows with
  | nil => exact .nil
  | cons row rows ih =>
    rw [List.forall_mem_cons] at h
    exact .keep h.1 (ih h.2)

theorem refl (h : ∀ row ∈ rows, changed row row) : RowsAfter changed dropped rows rows := by
  have hmap : RowsAfter changed dropped rows (rows.map id) := map h
  rwa [List.map_id] at hmap

theorem filter {p : Row → Bool} (hkeep : ∀ row ∈ rows, p row = true → changed row row)
    (hdrop : ∀ row ∈ rows, p row = false → dropped row) :
    RowsAfter changed dropped rows (rows.filter p) := by
  induction rows with
  | nil => exact .nil
  | cons row rows ih =>
    rw [List.forall_mem_cons] at hkeep hdrop
    have hrest := ih hkeep.2 hdrop.2
    by_cases hp : p row = true
    · rw [List.filter_cons_of_pos hp]
      exact .keep (hkeep.1 hp) hrest
    · rw [List.filter_cons_of_neg hp]
      exact .drop (hdrop.1 ((Bool.not_eq_true _).mp hp)) hrest

theorem mono (h : RowsAfter changed₁ dropped₁ rows rows')
    (hkeep : ∀ row row', changed₁ row row' → changed row row')
    (hdrop : ∀ row, dropped₁ row → dropped row) : RowsAfter changed dropped rows rows' := by
  induction h with
  | nil => exact .nil
  | keep hrow _ ih => exact .keep (hkeep _ _ hrow) ih
  | drop hrow _ ih => exact .drop (hdrop _ hrow) ih

theorem trans (h₁ : RowsAfter changed₁ dropped₁ rows rows')
    (h₂ : RowsAfter changed₂ dropped₂ rows' rows'')
    (hkeep : ∀ row row' row'', changed₁ row row' → changed₂ row' row'' → changed row row'')
    (hfirst : ∀ row, dropped₁ row → dropped row)
    (hsecond : ∀ row row', changed₁ row row' → dropped₂ row' → dropped row) :
    RowsAfter changed dropped rows rows'' := by
  induction h₁ generalizing rows'' with
  | nil =>
    cases h₂
    exact .nil
  | drop hrow _ ih => exact .drop (hfirst _ hrow) (ih h₂)
  | keep hrow _ ih =>
    cases h₂ with
    | keep hrow' hrest' => exact .keep (hkeep _ _ _ hrow hrow') (ih hrest')
    | drop hrow' hrest' => exact .drop (hsecond _ _ hrow hrow') (ih hrest')

end RowsAfter

/-! ## Entities and references -/

/-- The key of the name in a row of the primary table. -/
def Settings.keyOf (s : Settings) (row : Row) : String :=
  s.normalizer.key ((row.string? s.entity.nameColumn).getD "")

/-- An id is that of a row of the primary table, whose name has some key. -/
def ResolvesTo (s : Settings) (t : Tables) (id key : String) : Prop :=
  ∃ row ∈ t.rows s.entity.table, row.text? s.entity.idColumn = some id ∧ s.keyOf row = key

/-- No two rows of the primary table have one id. -/
def DistinctIds (s : Settings) (t : Tables) : Prop :=
  ((t.rows s.entity.table).filterMap (·.text? s.entity.idColumn)).Nodup

/-- No dependent is the id or the name of the entities. -/
def Settings.Foreign (s : Settings) : Prop :=
  ∀ d ∈ s.dependents, d.table = s.entity.table →
    d.column ≠ s.entity.idColumn ∧ d.column ≠ s.entity.nameColumn

/-- Dependents outside the table of the entities are neither their ids nor their names. -/
theorem foreign_of_elsewhere {s : Settings} (hs : ∀ d ∈ s.dependents, d.table ≠ s.entity.table) :
    s.Foreign :=
  fun d hd htable => absurd htable (hs d hd)

/-- The ids of the entities, each with the key of its name. -/
def Settings.census (s : Settings) (t : Tables) : List (String × String) :=
  (t.rows s.entity.table).filterMap fun row =>
    (row.text? s.entity.idColumn).map fun id => (id, s.keyOf row)

variable {s : Settings} {t t' t'' : Tables}

theorem mem_census {id key : String} : (id, key) ∈ s.census t ↔ ResolvesTo s t id key := by
  rw [Settings.census, List.mem_filterMap, ResolvesTo]
  constructor
  · rintro ⟨row, hrow, hpair⟩
    obtain ⟨id', hid, hpair⟩ := Option.map_eq_some_iff.mp hpair
    cases hpair
    exact ⟨row, hrow, hid, rfl⟩
  · rintro ⟨row, hrow, hid, rfl⟩
    exact ⟨row, hrow, by rw [hid]; rfl⟩

theorem census_ids (s : Settings) (t : Tables) :
    (s.census t).map (·.1) = (t.rows s.entity.table).filterMap (·.text? s.entity.idColumn) := by
  rw [Settings.census, List.map_filterMap]
  congr 1
  funext row
  cases row.text? s.entity.idColumn <;> rfl

/-- An id has one key. -/
theorem DistinctIds.key_unique (hd : DistinctIds s t) {id key key' : String}
    (h : ResolvesTo s t id key) (h' : ResolvesTo s t id key') : key = key' := by
  rw [DistinctIds, ← census_ids] at hd
  have hpair := List.inj_on_of_nodup_map hd (mem_census.mpr h) (mem_census.mpr h') rfl
  exact (Prod.mk.inj hpair).2

theorem DistinctIds.of_sublist (hd : DistinctIds s t) (h : (s.census t').Sublist (s.census t)) :
    DistinctIds s t' := by
  rw [DistinctIds, ← census_ids] at hd ⊢
  exact hd.sublist (h.map _)

/-! ## Faithfulness -/

/-- A row of a table before and after. -/
structure RowFaithful (s : Settings) (before after : Tables) (table : String) (row row' : Row) :
    Prop where
  /-- A reference to an entity leads to one with the same key. -/
  moved : ∀ d ∈ s.dependents, d.table = table → ∀ id key, row.text? d.column = some id →
    ResolvesTo s before id key →
    ∃ id', row'.text? d.column = some id' ∧ ResolvesTo s after id' key
  /-- A cell that leads to no entity with a key is as it was. -/
  still : ∀ d ∈ s.dependents, d.table = table →
    (∀ id key, row.text? d.column = some id → ResolvesTo s before id key → key = "") →
    Fields.get? row' d.column = Fields.get? row d.column
  /-- So is every cell that is no reference. -/
  others : ∀ column, (∀ d ∈ s.dependents, d.table = table → d.column ≠ column) →
    Fields.get? row' column = Fields.get? row column

/-- Rows that may be deleted: entities with a key. -/
def Deletable (s : Settings) (table : String) (row : Row) : Prop :=
  table = s.entity.table ∧ (∃ id, row.text? s.entity.idColumn = some id) ∧ s.keyOf row ≠ ""

/-- Tables that keep their references, and their names. -/
structure Faithful (s : Settings) (before after : Tables) : Prop where
  rows : ∀ table, RowsAfter (RowFaithful s before after table) (Deletable s table)
    (before.rows table) (after.rows table)
  /-- No entity is new, and none has another name. -/
  census : (s.census after).Sublist (s.census before)
  /-- No key is lost. -/
  named : ∀ id key, ResolvesTo s before id key → key ≠ "" → ∃ id', ResolvesTo s after id' key
  /-- No entity without a key is lost. -/
  unnamed : ∀ id, ResolvesTo s before id "" → ResolvesTo s after id ""

/-- In a row that keeps all but its references, the id and the name are as they were. -/
theorem RowFaithful.entity (hs : s.Foreign) {row row' : Row}
    (h : RowFaithful s t t' s.entity.table row row') :
    row'.text? s.entity.idColumn = row.text? s.entity.idColumn ∧ s.keyOf row' = s.keyOf row := by
  have hid := h.others s.entity.idColumn fun d hd htable => (hs d hd htable).1
  have hname := h.others s.entity.nameColumn fun d hd htable => (hs d hd htable).2
  constructor
  · rw [Row.text?, hid, Row.text?]
  · rw [Settings.keyOf, Row.string?, hname, Settings.keyOf, Row.string?]

/-- A row that stays as it is, where the entities stay to which it refers. -/
theorem RowFaithful.same {table : String} {row : Row}
    (h : ∀ d ∈ s.dependents, d.table = table → ∀ id key, row.text? d.column = some id →
      ResolvesTo s t id key → ResolvesTo s t' id key) : RowFaithful s t t' table row row where
  moved d hd htable id key hid hto := ⟨id, hid, h d hd htable id key hid hto⟩
  still _ _ _ _ := rfl
  others _ _ := rfl

namespace Faithful

theorem source (h : Faithful s t t') {id key : String} (hid : ResolvesTo s t' id key) :
    ResolvesTo s t id key :=
  mem_census.mp (h.census.subset (mem_census.mpr hid))

theorem distinctIds (h : Faithful s t t') (hd : DistinctIds s t) : DistinctIds s t' :=
  hd.of_sublist h.census

/-- Tables with the same rows keep all that they have. -/
theorem of_rows_eq (hrows : ∀ table, t'.rows table = t.rows table) : Faithful s t t' := by
  have hresolves : ∀ {id key}, ResolvesTo s t id key → ResolvesTo s t' id key := by
    intro id key h
    rw [ResolvesTo, hrows]
    exact h
  have hcensus : s.census t' = s.census t := by
    rw [Settings.census, hrows, Settings.census]
  refine { rows := fun table => ?_, census := hcensus ▸ .refl _, named := ?_, unnamed := ?_ }
  · rw [hrows]
    exact .refl fun row _ => .same fun _ _ _ _ _ _ hto => hresolves hto
  · intro id key hto _
    exact ⟨id, hresolves hto⟩
  · intro id hto
    exact hresolves hto

theorem trans (hs : s.Foreign) (h : Faithful s t t') (h' : Faithful s t' t'') :
    Faithful s t t'' := by
  refine { rows := fun table => ?_, census := h'.census.trans h.census, named := ?_,
           unnamed := ?_ }
  · refine (h.rows table).trans (h'.rows table) ?_ (fun _ hrow => hrow) ?_
    · intro row row' row'' hrow hrow'
      refine { moved := ?_, still := ?_, others := ?_ }
      · intro d hd htable id key hid hto
        obtain ⟨id', hid', hto'⟩ := hrow.moved d hd htable id key hid hto
        exact hrow'.moved d hd htable id' key hid' hto'
      · intro d hd htable hnone
        have hcell := hrow.still d hd htable hnone
        rw [← hcell]
        refine hrow'.still d hd htable fun id key hid hto => ?_
        rw [Row.text?, hcell, ← Row.text?] at hid
        exact hnone id key hid (h.source hto)
      · intro column hcolumn
        rw [hrow'.others column hcolumn, hrow.others column hcolumn]
    · rintro row row' hrow ⟨rfl, ⟨id, hid⟩, hkey⟩
      obtain ⟨hids, hkeys⟩ := hrow.entity hs
      exact ⟨rfl, ⟨id, hids ▸ hid⟩, hkeys ▸ hkey⟩
  · intro id key hto hkey
    obtain ⟨id', hto'⟩ := h.named id key hto hkey
    exact h'.named id' key hto' hkey
  · intro id hto
    exact h'.unnamed id (h.unnamed id hto)

end Faithful

/-- Settings that work on the same tables, with the same keys. -/
structure Settings.Agrees (s s' : Settings) : Prop where
  entity : s'.entity = s.entity
  dependents : s'.dependents = s.dependents
  qualifiers : s'.qualifiers = s.qualifiers

namespace Settings.Agrees

variable {s' : Settings}

theorem symm (ha : s.Agrees s') : s'.Agrees s :=
  ⟨ha.entity.symm, ha.dependents.symm, ha.qualifiers.symm⟩

theorem keyOf (ha : s.Agrees s') (row : Row) : s'.keyOf row = s.keyOf row := by
  rw [Settings.keyOf, normalizer, ha.entity, ha.qualifiers, Settings.keyOf, normalizer]

theorem resolvesTo (ha : s.Agrees s') (t : Tables) (id key : String) :
    ResolvesTo s' t id key ↔ ResolvesTo s t id key := by
  simp only [ResolvesTo, ha.entity, ha.keyOf]

theorem census (ha : s.Agrees s') (t : Tables) : s'.census t = s.census t := by
  simp only [Settings.census, ha.entity, ha.keyOf]

theorem foreign (ha : s.Agrees s') (hs : s.Foreign) : s'.Foreign := by
  rw [Foreign, ha.dependents, ha.entity]
  exact hs

theorem elsewhere (ha : s.Agrees s') (hs : ∀ d ∈ s.dependents, d.table ≠ s.entity.table) :
    ∀ d ∈ s'.dependents, d.table ≠ s'.entity.table := by
  rw [ha.dependents, ha.entity]
  exact hs

theorem distinctIds (ha : s.Agrees s') (hd : DistinctIds s t) : DistinctIds s' t := by
  rw [DistinctIds, ha.entity]
  exact hd

/-- Such settings find the same tables faithful. -/
theorem faithful (ha : s.Agrees s') (h : Faithful s' t t') : Faithful s t t' := by
  refine { rows := fun table => ?_, census := ?_, named := ?_, unnamed := ?_ }
  · refine (h.rows table).mono (fun row row' hrow => ?_) ?_
    · refine { moved := ?_, still := ?_, others := ?_ }
      · intro d hd htable id key hid hto
        obtain ⟨id', hid', hto'⟩ := hrow.moved d (ha.dependents ▸ hd) htable id key hid
          ((ha.resolvesTo t id key).mpr hto)
        exact ⟨id', hid', (ha.resolvesTo t' id' key).mp hto'⟩
      · intro d hd htable hnone
        refine hrow.still d (ha.dependents ▸ hd) htable fun id key hid hto => ?_
        exact hnone id key hid ((ha.resolvesTo t id key).mp hto)
      · intro column hcolumn
        exact hrow.others column fun d hd => hcolumn d (ha.dependents ▸ hd)
    · intro row hrow
      rwa [Deletable, ha.entity, ha.keyOf] at hrow
  · rw [← ha.census, ← ha.census]
    exact h.census
  · intro id key hto hkey
    obtain ⟨id', hto'⟩ := h.named id key ((ha.resolvesTo t id key).mpr hto) hkey
    exact ⟨id', (ha.resolvesTo t' id' key).mp hto'⟩
  · intro id hto
    exact (ha.resolvesTo t' id "").mp (h.unnamed id ((ha.resolvesTo t id "").mpr hto))

end Settings.Agrees

/-! ## The steps of a merge -/

/-- The entities after references were moved are those before. -/
theorem census_repoint (hs : s.Foreign) {d : Dependent} (hd : d ∈ s.dependents)
    (source target : String) :
    s.census (t.repoint d.table d.column source target).2 = s.census t := by
  rw [Settings.census, Tables.rows_repoint, Settings.census]
  by_cases htable : s.entity.table = d.table
  · obtain ⟨hid, hname⟩ := hs d hd htable.symm
    rw [if_pos htable, htable, List.filterMap_map]
    congr 1
    funext row
    show Option.map _ ((row.moved d.column source target).text? s.entity.idColumn) = _
    rw [Row.text?_moved_of_ne hid.symm, Settings.keyOf, Row.string?,
      Row.get?_moved_of_ne hname.symm, Settings.keyOf, Row.string?]
  · rw [if_neg htable]

theorem resolvesTo_repoint (hs : s.Foreign) {d : Dependent} (hd : d ∈ s.dependents)
    (source target id key : String) :
    ResolvesTo s (t.repoint d.table d.column source target).2 id key ↔ ResolvesTo s t id key := by
  rw [← mem_census, census_repoint hs hd, mem_census]

/-- A row whose reference is moved to an entity with the same key keeps what it refers to. -/
theorem RowFaithful.of_moved (hdistinct : DistinctIds s t) {d : Dependent} (hd : d ∈ s.dependents)
    (hstay : ∀ id key, ResolvesTo s t id key → ResolvesTo s t' id key) {loser keep key : String}
    (hkey : key ≠ "") (hkeep : ResolvesTo s t keep key) {row : Row}
    (hloser : row.text? d.column = some loser → ResolvesTo s t loser key) :
    RowFaithful s t t' d.table row (row.moved d.column loser keep) := by
  refine { moved := ?_, still := ?_, others := ?_ }
  · intro d' hd' htable id key' hid hto
    by_cases hcolumn : d'.column = d.column
    · rw [hcolumn] at hid ⊢
      by_cases hmoved : id = loser
      · -- An id has one key, so the reference was to an entity with the key of the new one.
        rw [hmoved] at hid hto
        have hsame : key' = key := hdistinct.key_unique hto (hloser hid)
        rw [hsame]
        exact ⟨keep, Row.text?_moved hid, hstay keep key hkeep⟩
      · have hcell : row.text? d.column ≠ some loser := by
          rw [hid]
          exact fun heq => hmoved (Option.some.inj heq)
        rw [Row.text?_moved_of_not hcell]
        exact ⟨id, hid, hstay id key' hto⟩
    · rw [Row.text?_moved_of_ne hcolumn]
      exact ⟨id, hid, hstay id key' hto⟩
  · intro d' hd' htable hnone
    by_cases hcolumn : d'.column = d.column
    · rw [hcolumn] at hnone ⊢
      refine Row.get?_moved_of_not fun hid => ?_
      exact hkey (hnone loser key hid (hloser hid))
    · exact Row.get?_moved_of_ne hcolumn
  · intro column hcolumn
    exact Row.get?_moved_of_ne (Ne.symm (hcolumn d hd rfl))

/-- References are moved from one entity to another with the same key, or none leads to the
first. -/
theorem faithful_repoint (hs : s.Foreign) (hdistinct : DistinctIds s t) {d : Dependent}
    (hd : d ∈ s.dependents) {loser keep key : String} (hkey : key ≠ "")
    (hkeep : ResolvesTo s t keep key)
    (hloser : ResolvesTo s t loser key ∨ ∀ row ∈ t.rows d.table, row.text? d.column ≠ some loser) :
    Faithful s t (t.repoint d.table d.column loser keep).2 := by
  have hstay : ∀ id key, ResolvesTo s t id key →
      ResolvesTo s (t.repoint d.table d.column loser keep).2 id key :=
    fun id key => (resolvesTo_repoint hs hd loser keep id key).mpr
  refine { rows := fun table => ?_, census := ?_, named := ?_, unnamed := ?_ }
  · rw [Tables.rows_repoint]
    by_cases htable : table = d.table
    · rw [if_pos htable, htable]
      refine .map fun row hrow => .of_moved hdistinct hd hstay hkey hkeep fun hid => ?_
      exact hloser.resolve_right fun hnone => hnone row hrow hid
    · rw [if_neg htable]
      exact .refl fun row _ => .same fun _ _ _ id key' _ => hstay id key'
  · rw [census_repoint hs hd]
  · intro id key' hto _
    exact ⟨id, hstay id key' hto⟩
  · intro id hto
    exact hstay id "" hto

/-- The entities after one of them was deleted. -/
theorem resolvesTo_deleteIds {loser : String}
    (hallowed : (s.entity.table, loser) ∉ t.failingDeletes) (id key : String) :
    ResolvesTo s (t.deleteIds s.entity.table s.entity.idColumn [loser]).2 id key ↔
      ResolvesTo s t id key ∧ id ≠ loser := by
  rw [ResolvesTo, Tables.rows_deleteIds hallowed, if_pos rfl, ResolvesTo]
  constructor
  · rintro ⟨row, hrow, hid, hk⟩
    rw [List.mem_filter, Bool.not_eq_true', ← Bool.not_eq_true, Row.has_iff, hid] at hrow
    exact ⟨⟨row, hrow.1, hid, hk⟩, fun heq => hrow.2 (congrArg some heq)⟩
  · rintro ⟨⟨row, hrow, hid, hk⟩, hother⟩
    refine ⟨row, List.mem_filter.mpr ⟨hrow, ?_⟩, hid, hk⟩
    rw [Bool.not_eq_true', ← Bool.not_eq_true, Row.has_iff, hid]
    exact fun heq => hother (Option.some.inj heq)

/-- A delete, also one that is refused, adds no entity. -/
theorem census_deleteIds (loser : String) :
    (s.census (t.deleteIds s.entity.table s.entity.idColumn [loser]).2).Sublist (s.census t) := by
  by_cases hfailing : (s.entity.table, loser) ∈ t.failingDeletes
  · rw [Tables.deleteIds_of_failing hfailing]
  · rw [Settings.census, Tables.rows_deleteIds hfailing, if_pos rfl, Settings.census]
    exact List.filter_sublist.filterMap _

/-- An entity is deleted to which no reference leads, where another one has its key. -/
theorem faithful_deleteIds {loser keep key : String} (hkey : key ≠ "") (hne : keep ≠ loser)
    (hkeep : ResolvesTo s t keep key) (hloser : ∀ key', ResolvesTo s t loser key' → key' = key)
    (hfree : ∀ d ∈ s.dependents, ∀ row ∈ t.rows d.table, row.text? d.column ≠ some loser)
    (hallowed : (s.entity.table, loser) ∉ t.failingDeletes) :
    Faithful s t (t.deleteIds s.entity.table s.entity.idColumn [loser]).2 := by
  have hstay : ∀ id key, ResolvesTo s t id key → id ≠ loser →
      ResolvesTo s (t.deleteIds s.entity.table s.entity.idColumn [loser]).2 id key :=
    fun id key hto hother => (resolvesTo_deleteIds hallowed id key).mpr ⟨hto, hother⟩
  -- A row that stays has no reference to the entity that goes.
  have hrow : ∀ table, ∀ row ∈ t.rows table, RowFaithful s t
      (t.deleteIds s.entity.table s.entity.idColumn [loser]).2 table row row := by
    intro table row hrow
    refine .same ?_
    rintro d hd rfl id key' hid hto
    refine hstay id key' hto ?_
    rintro rfl
    exact hfree d hd row hrow hid
  refine { rows := fun table => ?_, census := census_deleteIds loser, named := ?_, unnamed := ?_ }
  · rw [Tables.rows_deleteIds hallowed]
    by_cases htable : table = s.entity.table
    · rw [if_pos htable, htable]
      refine .filter (fun row hmem _ => hrow _ row hmem) fun row hmem hgone => ?_
      rw [Bool.not_eq_false', Row.has_iff] at hgone
      refine ⟨rfl, ⟨loser, hgone⟩, ?_⟩
      rw [hloser _ ⟨row, hmem, hgone, rfl⟩]
      exact hkey
    · rw [if_neg htable]
      exact .refl (hrow table)
  · intro id key' hto _
    by_cases hid : id = loser
    · rw [hid] at hto
      rw [hloser key' hto]
      exact ⟨keep, hstay keep key hkeep hne⟩
    · exact ⟨id, hstay id key' hto hid⟩
  · intro id hto
    refine hstay id "" hto ?_
    rintro rfl
    exact hkey (hloser "" hto).symm

end RegistryDedup
