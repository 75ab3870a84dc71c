import RegistryDedup.Store.Tables

/-!
# Rows of tables in memory

What a call leaves of the rows of each table. Calls are told apart by the rows that they leave and
by nothing else: a call to a table that is not there leaves all rows as they are, and so does a move
of references in it.

- `Row.get?_set`, `Row.text?_set`: the cells of a row with one cell set.
- `Tables.rows_put`: the rows after a table was put in its place.
- `Tables.rows_repoint`, `Tables.rows_deleteIds`: the rows after references were moved and after an
  id was deleted.
- `Tables.Alike`: what no merge changes in a store: which tables there are, their columns, and the
  calls that are set up to fail.
- `Tables.Noted`: tables that are the same but for the events that they have noted. By
  `noted_repoint` a move that finds no reference leaves such tables.
-/

namespace RegistryDedup

/-! ## Rows -/

/-- The value under a key is the first one that is there. -/
theorem lookup_cons_eq {α : Type} (m : String) (v : α) (rest : List (String × α)) (n : String) :
    ((m, v) :: rest).lookup n = if n = m then some v else rest.lookup n := by
  rw [List.lookup_cons]
  by_cases hn : n = m
  · simp [hn]
  · rw [if_neg hn, beq_false_of_ne hn]

/-- A member that was put replaces the one of its name, and no other. -/
theorem Fields.get?_put (name : String) (value : Json) (fields : Fields) (n : String) :
    (Fields.put name value fields).get? n = if n = name then some value else fields.get? n := by
  simp only [Fields.get?]
  induction fields with
  | nil => rw [Fields.put, lookup_cons_eq]
  | cons field rest ih =>
    obtain ⟨m, v⟩ := field
    rw [Fields.put, lookup_cons_eq]
    by_cases hm : name = m
    · rw [if_pos hm, lookup_cons_eq, ← hm]
      split <;> rfl
    · rw [if_neg hm]
      split
      · rw [lookup_cons_eq, lookup_cons_eq]
      · rw [lookup_cons_eq, ih]
        by_cases hn : n = m
        · rw [if_pos hn, if_pos hn, if_neg fun heq => hm (heq.symm.trans hn)]
        · rw [if_neg hn, if_neg hn]

namespace Row

variable {row : Row} {column source target c : String}

theorem get?_set (row : Row) (column : String) (value : Json) (c : String) :
    Fields.get? (row.set column value) c = if c = column then some value else Fields.get? row c :=
  Fields.get?_put column value row c

theorem text?_set (row : Row) (column : String) (value : Json) (c : String) :
    (row.set column value).text? c = if c = column then value.text? else row.text? c := by
  rw [text?, get?_set]
  split <;> rfl

theorem has_iff {value : String} : row.has column value = true ↔ row.text? column = some value := by
  rw [has, beq_iff_eq]

/-- A row after the references in one of its columns were moved. -/
def moved (row : Row) (column source target : String) : Row :=
  if row.has column source then row.set column (.str target) else row

theorem get?_moved_of_ne (hc : c ≠ column) :
    Fields.get? (row.moved column source target) c = Fields.get? row c := by
  rw [moved]
  split
  · rw [get?_set, if_neg hc]
  · rfl

theorem text?_moved_of_ne (hc : c ≠ column) :
    (row.moved column source target).text? c = row.text? c := by
  rw [text?, get?_moved_of_ne hc, text?]

theorem get?_moved_of_not (hrow : row.text? column ≠ some source) :
    Fields.get? (row.moved column source target) c = Fields.get? row c := by
  rw [moved, if_neg (by rwa [has_iff])]

theorem text?_moved_of_not (hrow : row.text? column ≠ some source) :
    (row.moved column source target).text? c = row.text? c := by
  rw [text?, get?_moved_of_not hrow, text?]

theorem text?_moved (hrow : row.text? column = some source) :
    (row.moved column source target).text? column = some target := by
  rw [moved, if_pos (has_iff.mpr hrow), text?_set, if_pos rfl]
  rfl

/-- A text other than the target was in its cell before, and was not the source. -/
theorem text?_of_moved {value : String} (hvalue : value ≠ target)
    (h : (row.moved column source target).text? c = some value) :
    row.text? c = some value ∧ (c = column → value ≠ source) := by
  by_cases hc : c = column
  · subst hc
    by_cases hsource : row.text? c = some source
    · rw [text?_moved hsource] at h
      exact absurd (Option.some.inj h).symm hvalue
    · rw [text?_moved_of_not hsource] at h
      exact ⟨h, fun _ heq => hsource (heq ▸ h)⟩
  · rw [text?_moved_of_ne hc] at h
    exact ⟨h, fun heq => absurd heq hc⟩

end Row

namespace Tables

variable {t : Tables}

/-! ## Tables by name -/

theorem lookup_place (name : String) (u : Table) (tables : List (String × Table)) (n : String) :
    (place name u tables).lookup n = if n = name then some u else tables.lookup n := by
  induction tables with
  | nil => rw [place, lookup_cons_eq]
  | cons entry rest ih =>
    obtain ⟨m, v⟩ := entry
    rw [place, lookup_cons_eq]
    by_cases hm : m = name
    · rw [if_pos hm, lookup_cons_eq, hm]
      split <;> rfl
    · rw [if_neg hm, lookup_cons_eq, ih]
      by_cases hn : n = m
      · rw [if_pos hn, if_pos hn, if_neg fun heq => hm (hn.symm.trans heq)]
      · rw [if_neg hn, if_neg hn]

theorem find?_put (t : Tables) (name : String) (u : Table) (n : String) :
    (t.put name u).find? n = if n = name then some u else t.find? n :=
  lookup_place name u t.tables n

theorem rows_of_find? {u : Table} {name : String} (hu : t.find? name = some u) :
    t.rows name = u.rows := by
  rw [rows, hu]
  rfl

theorem rows_of_missing {name : String} (hnone : t.find? name = none) : t.rows name = [] := by
  rw [rows, hnone]
  rfl

theorem rows_put (t : Tables) (name : String) (u : Table) (n : String) :
    (t.put name u).rows n = if n = name then u.rows else t.rows n := by
  rw [rows, find?_put]
  split <;> rfl

@[simp] theorem find?_wrote (t : Tables) (k : Nat) (n : String) :
    (t.wrote k).find? n = t.find? n := by
  rw [wrote]
  split <;> rfl

@[simp] theorem rows_note (t : Tables) (e : Event) (n : String) : (t.note e).rows n = t.rows n :=
  rfl

@[simp] theorem rows_wrote (t : Tables) (k : Nat) (n : String) : (t.wrote k).rows n = t.rows n := by
  rw [rows, find?_wrote, rows]

/-! ## Calls that change rows -/

/-- Every reference to the one id is one to the other afterwards. -/
theorem rows_repoint (t : Tables) (table column source target n : String) :
    (t.repoint table column source target).2.rows n =
      if n = table then (t.rows table).map (·.moved column source target) else t.rows n := by
  rw [repoint, changing]
  cases hu : t.find? table with
  | none =>
    by_cases hn : n = table
    · rw [if_pos hn, hn, rows_of_missing hu]
      rfl
    · rw [if_neg hn]
  | some u =>
    show (((t.put table _).wrote _).note _).rows n = _
    rw [rows_note, rows_wrote, rows_put, rows_of_find? hu]
    rfl

/-- An id that may be deleted is in no row afterwards. -/
theorem rows_deleteIds {table id : String} (hallowed : (table, id) ∉ t.failingDeletes)
    (column n : String) :
    (t.deleteIds table column [id]).2.rows n =
      if n = table then (t.rows table).filter (fun row => !row.has column id) else t.rows n := by
  have hfind : ([id].find? fun id => t.failingDeletes.contains (table, id)) = none := by
    simpa using hallowed
  rw [deleteIds, hfind]
  dsimp only
  rw [changing]
  cases hu : t.find? table with
  | none =>
    by_cases hn : n = table
    · rw [if_pos hn, hn, rows_of_missing hu]
      rfl
    · rw [if_neg hn]
  | some u =>
    show (((t.put table _).wrote _).note _).rows n = _
    rw [rows_note, rows_wrote, rows_put, rows_of_find? hu]
    simp [Table.without]

/-- A delete that is set up to be refused changes nothing. -/
theorem deleteIds_of_failing {table id : String} (hfailing : (table, id) ∈ t.failingDeletes)
    (column : String) : (t.deleteIds table column [id]).2 = t := by
  have hfind : ([id].find? fun id => t.failingDeletes.contains (table, id)) = some id := by
    simpa using hfailing
  rw [deleteIds, hfind]

/-- A delete has a result, or it changes nothing. -/
theorem deleteIds_cases (t : Tables) (table column id : String) :
    ((table, id) ∉ t.failingDeletes ∧ ∃ n, (t.deleteIds table column [id]).1 = .ok n) ∨
      ∃ f, t.deleteIds table column [id] = (.error f, t) := by
  by_cases hfailing : (table, id) ∈ t.failingDeletes
  · have hfind : ([id].find? fun id => t.failingDeletes.contains (table, id)) = some id := by
      simpa using hfailing
    rw [deleteIds, hfind]
    exact .inr ⟨_, rfl⟩
  · have hfind : ([id].find? fun id => t.failingDeletes.contains (table, id)) = none := by
      simpa using hfailing
    rw [deleteIds, hfind]
    dsimp only
    rw [changing]
    cases hu : t.find? table with
    | none => exact .inr ⟨_, rfl⟩
    | some u => exact .inl ⟨hfailing, _, rfl⟩

/-! ## What a merge leaves -/

/-- The columns of a table, if there is one. -/
def columns? (t : Tables) (name : String) : Option (List String) :=
  (t.find? name).map Table.columns

/-- Tables with the same columns, and the same calls that are set up to fail. -/
structure Alike (t t' : Tables) : Prop where
  columns : ∀ name, t'.columns? name = t.columns? name
  failingCounts : t'.failingCounts = t.failingCounts
  failingDeletes : t'.failingDeletes = t.failingDeletes

theorem Alike.refl (t : Tables) : Alike t t := ⟨fun _ => rfl, rfl, rfl⟩

theorem Alike.trans {t' t'' : Tables} (h : Alike t t') (h' : Alike t' t'') : Alike t t'' where
  columns name := (h'.columns name).trans (h.columns name)
  failingCounts := h'.failingCounts.trans h.failingCounts
  failingDeletes := h'.failingDeletes.trans h.failingDeletes

/-- A table put in the place of one with the same columns. -/
theorem alike_put {u u' : Table} {name : String} (hu : t.find? name = some u)
    (hcolumns : u'.columns = u.columns) : Alike t (t.put name u') where
  columns n := by
    rw [columns?, find?_put]
    by_cases hn : n = name
    · rw [if_pos hn, hn, columns?, hu]
      exact congrArg some hcolumns
    · rw [if_neg hn, columns?]
  failingCounts := rfl
  failingDeletes := rfl

theorem Alike.noted {t' : Tables} (h : Alike t t') (k : Nat) (e : Event) :
    Alike t ((t'.wrote k).note e) := by
  have hwrote : Alike t' ((t'.wrote k).note e) := by
    rw [wrote]
    split <;> exact ⟨fun _ => rfl, rfl, rfl⟩
  exact h.trans hwrote

theorem alike_repoint (t : Tables) (table column source target : String) :
    Alike t (t.repoint table column source target).2 := by
  rw [repoint, changing]
  cases hu : t.find? table with
  | none => exact .refl t
  | some u =>
    have hput : Alike t (t.put table (u.repointed column source target).1) := alike_put hu rfl
    exact hput.noted _ _

theorem alike_deleteIds (t : Tables) (table column id : String) :
    Alike t (t.deleteIds table column [id]).2 := by
  by_cases hfailing : (table, id) ∈ t.failingDeletes
  · rw [deleteIds_of_failing hfailing]
    exact .refl t
  · have hfind : ([id].find? fun id => t.failingDeletes.contains (table, id)) = none := by
      simpa using hfailing
    rw [deleteIds, hfind]
    dsimp only
    rw [changing]
    cases hu : t.find? table with
    | none => exact .refl t
    | some u =>
      have hput : Alike t (t.put table (u.without column [id]).1) := alike_put hu rfl
      exact hput.noted _ _

/-! ## Tables that are the same -/

/-- Tables that are the same but for the events that they have noted. -/
def Noted (t t' : Tables) : Prop :=
  ∃ events, t' = { t with events := events }

theorem Noted.refl (t : Tables) : t.Noted t := ⟨t.events, rfl⟩

theorem Noted.trans {t' t'' : Tables} (h : t.Noted t') (h' : t'.Noted t'') : t.Noted t'' := by
  obtain ⟨events, rfl⟩ := h
  obtain ⟨events', rfl⟩ := h'
  exact ⟨events', rfl⟩

theorem Noted.alike {t' : Tables} (h : t.Noted t') : Alike t t' := by
  obtain ⟨events, rfl⟩ := h
  exact ⟨fun _ => rfl, rfl, rfl⟩

theorem Noted.rows {t' : Tables} (h : t.Noted t') (n : String) : t'.rows n = t.rows n := by
  obtain ⟨events, rfl⟩ := h
  rfl

/-- A table put in its own place changes nothing. -/
theorem put_of_find? {name : String} {u : Table} (hu : t.find? name = some u) :
    t.put name u = t := by
  have hplace : ∀ tables : List (String × Table), tables.lookup name = some u →
      place name u tables = tables := by
    intro tables hlookup
    induction tables with
    | nil => cases hlookup
    | cons entry rest ih =>
      obtain ⟨n, v⟩ := entry
      rw [lookup_cons_eq] at hlookup
      rw [place]
      by_cases hn : n = name
      · rw [if_pos hn.symm] at hlookup
        rw [if_pos hn, Option.some.inj hlookup]
      · rw [if_neg (Ne.symm hn)] at hlookup
        rw [if_neg hn, ih hlookup]
  rw [put, hplace _ hu]

/-- A move that finds no reference changes nothing. -/
theorem noted_repoint {table column source : String}
    (hnone : ∀ row ∈ t.rows table, row.text? column ≠ some source) (target : String) :
    t.Noted (t.repoint table column source target).2 := by
  rw [repoint, changing]
  cases hu : t.find? table with
  | none => exact .refl t
  | some u =>
    have hnot : ∀ row ∈ u.rows, ¬ row.has column source = true := by
      intro row hrow
      rw [Row.has_iff]
      exact hnone row (rows_of_find? hu ▸ hrow)
    have hsame : u.repointed column source target = (u, 0) := by
      have hrows : u.rows.map (·.moved column source target) = u.rows :=
        (List.map_congr_left fun row hrow => if_neg (hnot row hrow)).trans (List.map_id _)
      rw [Table.repointed, List.countP_eq_zero.mpr hnot]
      exact congrArg (fun rows => ({ u with rows }, 0)) hrows
    dsimp only
    rw [hsame]
    dsimp only
    rw [put_of_find? hu]
    exact ⟨_, rfl⟩

end Tables

end RegistryDedup
