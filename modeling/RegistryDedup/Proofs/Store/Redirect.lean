import Mathlib.Algebra.BigOperators.Group.List.Basic
import Mathlib.Algebra.Ring.Nat
import RegistryDedup.Proofs.Store.Tables

/-!
# References led elsewhere

Moving the references of several entities one by one comes to leading each cell elsewhere that has
the text of one of them. A `target` says where: it gives a new text to some texts.

- `Row.redirected`, `Row.redirectedAll`: a row with the cells of one column, or of several columns,
  led elsewhere.
- `Row.foldl_moved`: moves from several entities to one are a redirection.
- `Row.redirectedAll_trans`: redirections with targets that stay apart can be joined into one.
- `Tables.find?_repoint`, `Tables.find?_deleteIds`: whole tables after a move and after a delete.
- `Tables.references`, `Tables.cells`: how many rows refer to an entity, and to any of several.
-/

namespace RegistryDedup

/-! ## Fields -/

/-- Values of different names are put in any order. -/
theorem Fields.put_comm {a b : String} (hne : a ≠ b) (v w : Json) (fields : Fields) :
    Fields.put a v (Fields.put b w fields) = Fields.put b w (Fields.put a v fields) := by
  have htotal : a < b ∨ b < a := by
    by_cases hab : a < b
    · exact .inl hab
    · by_cases hba : b < a
      · exact .inr hba
      · exact absurd (String.le_antisymm (String.not_lt.mp hba) (String.not_lt.mp hab)) hne
  induction fields with
  | nil => grind [Fields.put, String.lt_asymm]
  | cons field rest ih =>
    obtain ⟨m, u⟩ := field
    grind [Fields.put, String.lt_asymm, String.lt_trans, String.lt_irrefl]

/-! ## Targets -/

/-- Where some texts lead. -/
abbrev Target := String → Option String

namespace Target

/-- What a text becomes. -/
def apply (target : Target) (id : String) : String :=
  (target id).getD id

/-- No text leads to one that leads further. -/
def Settled (target : Target) : Prop :=
  ∀ id dest, target id = some dest → target dest = none

/-- Targets that have nothing to do with each other: a text that one of them leads elsewhere is
neither led elsewhere by the other nor a place where the other leads to. -/
structure Apart (first second : Target) : Prop where
  left : ∀ id dest, first id = some dest → second id = none ∧ second dest = none
  right : ∀ id dest, second id = some dest → first id = none ∧ first dest = none

/-- Two targets in one. -/
def join (first second : Target) : Target :=
  fun id => (first id).or (second id)

/-- The entities of a list lead to one. -/
def gather (losers : List String) (keep : String) : Target :=
  fun id => if id ∈ losers then some keep else none

/-- Targets that lead from and to different texts. -/
theorem Apart.of_disjoint {first second : Target} {xs ys : List String}
    (hfirst : ∀ id dest, first id = some dest → id ∈ xs ∧ dest ∈ xs)
    (hsecond : ∀ id dest, second id = some dest → id ∈ ys ∧ dest ∈ ys)
    (hdisjoint : List.Disjoint xs ys) : Apart first second := by
  have hleft : ∀ id ∈ xs, second id = none := fun id hid =>
    Option.eq_none_iff_forall_ne_some.mpr fun dest hdest =>
      hdisjoint hid (hsecond id dest hdest).1
  have hright : ∀ id ∈ ys, first id = none := fun id hid =>
    Option.eq_none_iff_forall_ne_some.mpr fun dest hdest =>
      hdisjoint (hfirst id dest hdest).1 hid
  exact {
    left := fun id dest hdest =>
      ⟨hleft id (hfirst id dest hdest).1, hleft dest (hfirst id dest hdest).2⟩
    right := fun id dest hdest =>
      ⟨hright id (hsecond id dest hdest).1, hright dest (hsecond id dest hdest).2⟩ }

theorem apply_of_none {target : Target} {id : String} (h : target id = none) :
    target.apply id = id := by
  rw [apply, h]
  rfl

theorem apply_of_some {target : Target} {id dest : String} (h : target id = some dest) :
    target.apply id = dest := by
  rw [apply, h]
  rfl

end Target

namespace Row

variable {row : Row} {target first second : Target} {column c : String} {columns : List String}

/-! ## One column -/

/-- A row with the cell of a column led elsewhere, where its text has a target. -/
def redirected (target : Target) (row : Row) (column : String) : Row :=
  match (row.text? column).bind target with
  | some id => row.set column (.str id)
  | none => row

theorem redirected_of_none (h : ∀ id, row.text? column = some id → target id = none) :
    row.redirected target column = row := by
  have hnone : (row.text? column).bind target = none := by
    cases htext : row.text? column with
    | none => rfl
    | some id => exact h id htext
  rw [redirected, hnone]

theorem redirected_of_some {id dest : String} (htext : row.text? column = some id)
    (hto : target id = some dest) : row.redirected target column = row.set column (.str dest) := by
  have hsome : (row.text? column).bind target = some dest := by
    rw [htext]
    exact hto
  rw [redirected, hsome]

/-- A cell is led elsewhere, or its text stays where it is. -/
theorem redirected_cases (target : Target) (row : Row) (column : String) :
    (row.redirected target column = row ∧ ∀ id, row.text? column = some id → target id = none) ∨
    ∃ id dest, row.text? column = some id ∧ target id = some dest ∧
      row.redirected target column = row.set column (.str dest) := by
  by_cases h : ∀ id, row.text? column = some id → target id = none
  · exact .inl ⟨redirected_of_none h, h⟩
  · rw [Classical.not_forall] at h
    obtain ⟨id, h⟩ := h
    rw [Classical.not_imp] at h
    obtain ⟨dest, hto⟩ := Option.ne_none_iff_exists'.mp h.2
    exact .inr ⟨id, dest, h.1, hto, redirected_of_some h.1 hto⟩

theorem get?_redirected_of_ne (hc : c ≠ column) :
    Fields.get? (row.redirected target column) c = Fields.get? row c := by
  rcases redirected_cases target row column with ⟨heq, -⟩ | ⟨id, dest, -, -, heq⟩
  · rw [heq]
  · rw [heq, get?_set, if_neg hc]

theorem text?_redirected_of_ne (hc : c ≠ column) :
    (row.redirected target column).text? c = row.text? c := by
  rw [text?, get?_redirected_of_ne hc, text?]

theorem text?_redirected (target : Target) (row : Row) (column : String) :
    (row.redirected target column).text? column = (row.text? column).map target.apply := by
  rcases redirected_cases target row column with ⟨heq, hnone⟩ | ⟨id, dest, htext, hto, heq⟩
  · rw [heq]
    cases htext : row.text? column with
    | none => rfl
    | some id => rw [Option.map_some, Target.apply_of_none (hnone id htext)]
  · rw [heq, text?_set, if_pos rfl, htext, Option.map_some, Target.apply_of_some hto]
    rfl

/-- Moves from several entities to one that is not among them are a redirection. After the first
move that finds the cell, the later ones do not find it. -/
theorem foldl_moved {losers : List String} {keep : String} (hkeep : keep ∉ losers) (row : Row)
    (column : String) :
    losers.foldl (fun row l => row.moved column l keep) row =
      row.redirected (Target.gather losers keep) column := by
  induction losers generalizing row with
  | nil =>
    rw [redirected_of_none]
    · rfl
    · intro id _
      exact if_neg List.not_mem_nil
  | cons l losers ih =>
    rw [List.mem_cons, not_or] at hkeep
    rw [List.foldl_cons, ih hkeep.2]
    by_cases hrow : row.text? column = some l
    · have hmoved : (row.moved column l keep).text? column = some keep := text?_moved hrow
      rw [redirected_of_none, moved, if_pos (has_iff.mpr hrow),
        redirected_of_some hrow (if_pos List.mem_cons_self)]
      intro id hid
      rw [hmoved] at hid
      cases hid
      exact if_neg hkeep.2
    · have hsame : row.moved column l keep = row := by
        rw [moved, if_neg (by rwa [has_iff])]
      rw [hsame]
      cases htext : row.text? column with
      | none =>
        rw [redirected, htext, redirected, htext]
        rfl
      | some id =>
        have hne : id ≠ l := by
          rintro rfl
          exact hrow htext
        have htarget : Target.gather (l :: losers) keep id = Target.gather losers keep id := by
          simp [Target.gather, hne]
        rw [redirected, htext, Option.bind_some, redirected, htext, Option.bind_some, htarget]

/-! ## Several columns -/

/-- A row with the cells of several columns led elsewhere. -/
def redirectedAll (target : Target) (columns : List String) (row : Row) : Row :=
  columns.foldl (redirected target) row

@[simp] theorem redirectedAll_nil (target : Target) : redirectedAll target [] = fun row => row :=
  rfl

theorem redirectedAll_cons (target : Target) (column : String) (columns : List String) (row : Row) :
    row.redirectedAll target (column :: columns) =
      (row.redirected target column).redirectedAll target columns := rfl

/-- All other cells are as they were. -/
theorem get?_redirectedAll_of_not_mem (hc : c ∉ columns) :
    Fields.get? (row.redirectedAll target columns) c = Fields.get? row c := by
  induction columns generalizing row with
  | nil => rfl
  | cons column columns ih =>
    rw [List.mem_cons, not_or] at hc
    rw [redirectedAll_cons, ih hc.2, get?_redirected_of_ne hc.1]

theorem text?_redirectedAll_of_not_mem (hc : c ∉ columns) :
    (row.redirectedAll target columns).text? c = row.text? c := by
  rw [text?, get?_redirectedAll_of_not_mem hc, text?]

/-- The texts afterwards. A column that comes up again has settled by then. -/
theorem text?_redirectedAll (htarget : target.Settled) :
    (row.redirectedAll target columns).text? c =
      if c ∈ columns then (row.text? c).map target.apply else row.text? c := by
  by_cases hc : c ∈ columns
  · rw [if_pos hc]
    induction columns generalizing row with
    | nil => exact absurd hc List.not_mem_nil
    | cons column columns ih =>
      rw [redirectedAll_cons]
      have hfirst : (row.redirected target column).text? c =
          if c = column then (row.text? c).map target.apply else row.text? c := by
        split
        · next heq => rw [heq, text?_redirected]
        · next hne => exact text?_redirected_of_ne hne
      by_cases hmem : c ∈ columns
      · rw [ih hmem, hfirst]
        split
        · -- What was led elsewhere is not led any further.
          cases row.text? c with
          | none => rfl
          | some id =>
            simp only [Option.map_some, Option.some.injEq]
            cases hto : target id with
            | none => rw [Target.apply_of_none hto, Target.apply_of_none hto]
            | some dest =>
              rw [Target.apply_of_some hto, Target.apply_of_none (htarget id dest hto)]
        · rfl
      · have heq : c = column := (List.mem_cons.mp hc).resolve_right hmem
        rw [text?_redirectedAll_of_not_mem hmem, hfirst, if_pos heq]
  · rw [if_neg hc, text?_redirectedAll_of_not_mem hc]

/-! ## Redirections one after the other -/

theorem set_comm {a b : String} (hne : a ≠ b) (v w : Json) (row : Row) :
    (row.set b w).set a v = (row.set a v).set b w :=
  Fields.put_comm hne v w row

theorem redirected_comm_of_ne (hne : column ≠ c) (row : Row) :
    (row.redirected first c).redirected second column =
      (row.redirected second column).redirected first c := by
  have hc : (row.redirected second column).text? c = row.text? c := text?_redirected_of_ne hne.symm
  have hcolumn : (row.redirected first c).text? column = row.text? column :=
    text?_redirected_of_ne hne
  rcases redirected_cases first row c with ⟨hfirst, hnone⟩ | ⟨id, dest, htext, hdest, hfirst⟩
  · have hsame : (row.redirected second column).redirected first c =
        row.redirected second column := redirected_of_none (hc ▸ hnone)
    rw [hfirst, hsame]
  · rw [hfirst] at hcolumn
    rw [hfirst, redirected_of_some (hc.trans htext) hdest]
    rcases redirected_cases second row column with
      ⟨hsecond, hnone⟩ | ⟨id', dest', htext', hdest', hsecond⟩
    · rw [hsecond, redirected_of_none (hcolumn ▸ hnone)]
    · rw [hsecond, redirected_of_some (hcolumn.trans htext') hdest', set_comm hne]

/-- Redirections of one column with targets that stay apart come to one. -/
theorem redirected_trans (hapart : Target.Apart first second) (row : Row) (column : String) :
    (row.redirected first column).redirected second column =
      row.redirected (first.join second) column := by
  rcases redirected_cases first row column with ⟨heq, hnone⟩ | ⟨id, dest, htext, hto, heq⟩
  · rw [heq, redirected, redirected]
    congr 1
    cases htext : row.text? column with
    | none => rfl
    | some id =>
      rw [Option.bind_some, Option.bind_some, Target.join, hnone id htext, Option.none_or]
  · have hjoin : first.join second id = some dest := by
      rw [Target.join, hto, Option.some_or]
    rw [redirected_of_some htext hjoin, heq, redirected_of_none]
    intro id' hid'
    rw [text?_set, if_pos rfl] at hid'
    cases hid'
    exact (hapart.left id dest hto).2

theorem redirected_comm (hapart : Target.Apart first second) (row : Row) (column c : String) :
    (row.redirected first c).redirected second column =
      (row.redirected second column).redirected first c := by
  by_cases hne : column = c
  · subst hne
    have hflip : Target.Apart second first := ⟨hapart.right, hapart.left⟩
    rw [redirected_trans hapart, redirected_trans hflip, redirected, redirected]
    congr 1
    cases row.text? column with
    | none => rfl
    | some id =>
      rw [Option.bind_some, Option.bind_some, Target.join, Target.join]
      cases hto : first id with
      | none => rw [Option.none_or, Option.or_none]
      | some dest => rw [(hapart.left id dest hto).1, Option.none_or, Option.or_none]
  · exact redirected_comm_of_ne hne row

theorem redirected_redirectedAll (hapart : Target.Apart first second) (row : Row)
    (column : String) (columns : List String) :
    (row.redirectedAll first columns).redirected second column =
      (row.redirected second column).redirectedAll first columns := by
  induction columns generalizing row with
  | nil => rfl
  | cons c columns ih => rw [redirectedAll_cons, ih, redirected_comm hapart, redirectedAll_cons]

/-- Redirections of the same columns with targets that stay apart come to one. -/
theorem redirectedAll_trans (hapart : Target.Apart first second) (row : Row)
    (columns : List String) :
    (row.redirectedAll first columns).redirectedAll second columns =
      row.redirectedAll (first.join second) columns := by
  induction columns generalizing row with
  | nil => rfl
  | cons column columns ih =>
    rw [redirectedAll_cons, redirectedAll_cons, redirectedAll_cons,
      redirected_redirectedAll hapart, ih, redirected_trans hapart]

/-- Where no cell has a target, nothing is led elsewhere. -/
theorem redirectedAll_of_none (h : ∀ id, target id = none) (columns : List String) (row : Row) :
    row.redirectedAll target columns = row := by
  induction columns generalizing row with
  | nil => rfl
  | cons column columns ih => rw [redirectedAll_cons, redirected_of_none fun id _ => h id, ih]

end Row

/-! ## Tables -/

namespace Table

/-- A table with all rows changed. -/
def mapRows (f : Row → Row) (u : Table) : Table :=
  { u with rows := u.rows.map f }

/-- A table with some of its rows. -/
def filterRows (p : Row → Bool) (u : Table) : Table :=
  { u with rows := u.rows.filter p }

theorem mapRows_mapRows (f f' : Row → Row) (u : Table) :
    (u.mapRows f).mapRows f' = u.mapRows fun row => f' (f row) := by
  rw [mapRows, mapRows, mapRows, List.map_map]
  rfl

@[simp] theorem mapRows_id (u : Table) : (u.mapRows fun row => row) = u := by
  rw [mapRows, List.map_id']

theorem mapRows_of_forall {f : Row → Row} {u : Table} (h : ∀ row ∈ u.rows, f row = row) :
    u.mapRows f = u := by
  rw [mapRows, List.map_congr_left h, List.map_id']

theorem filterRows_filterRows (p p' : Row → Bool) (u : Table) :
    (u.filterRows p).filterRows p' = u.filterRows fun row => p row && p' row := by
  rw [filterRows, filterRows, filterRows, List.filter_filter]
  simp only [Bool.and_comm]

theorem filterRows_of_forall {p : Row → Bool} {u : Table} (h : ∀ row ∈ u.rows, p row = true) :
    u.filterRows p = u := by
  rw [filterRows, List.filter_eq_self.mpr h]

end Table

namespace Tables

variable {t : Tables} {table column source target id : String} {d : Dependent}

/-- All tables after a move. -/
theorem find?_repoint (t : Tables) (table column source target n : String) :
    (t.repoint table column source target).2.find? n =
      if n = table then (t.find? table).map (·.mapRows (·.moved column source target))
      else t.find? n := by
  rw [repoint, changing]
  cases hu : t.find? table with
  | none =>
    by_cases hn : n = table
    · rw [if_pos hn, hn, hu]
      rfl
    · rw [if_neg hn]
  | some u =>
    show (((t.put table _).wrote _).note _).find? n = _
    rw [show ∀ (v : Tables) (e : Event), (v.note e).find? n = v.find? n from fun _ _ => rfl,
      find?_wrote, find?_put]
    rfl

/-- All tables after a delete that is allowed. -/
theorem find?_deleteIds (hallowed : (table, id) ∉ t.failingDeletes) (column n : String) :
    (t.deleteIds table column [id]).2.find? n =
      if n = table then (t.find? table).map (·.filterRows fun row => !row.has column id)
      else t.find? n := by
  have hfind : ([id].find? fun id => t.failingDeletes.contains (table, id)) = none := by
    simpa using hallowed
  rw [deleteIds, hfind]
  dsimp only
  rw [changing]
  cases hu : t.find? table with
  | none =>
    by_cases hn : n = table
    · rw [if_pos hn, hn, hu]
      rfl
    · rw [if_neg hn]
  | some u =>
    show (((t.put table _).wrote _).note _).find? n = _
    rw [show ∀ (v : Tables) (e : Event), (v.note e).find? n = v.find? n from fun _ _ => rfl,
      find?_wrote, find?_put]
    simp [Table.without, Table.filterRows]

/-! ## References -/

/-- How many rows refer to an entity in a dependent. -/
def references (t : Tables) (d : Dependent) (id : String) : Nat :=
  (t.rows d.table).countP (·.has d.column id)

theorem references_eq_zero :
    t.references d id = 0 ↔ ∀ row ∈ t.rows d.table, row.text? d.column ≠ some id := by
  simp [references, List.countP_eq_zero, Row.has_iff]

/-- How many rows refer to any of several entities in a dependent. -/
def cells (t : Tables) (d : Dependent) (ids : List String) : Nat :=
  (t.rows d.table).countP fun row => ids.any (row.has d.column)

end Tables

/-- A row refers to one of several entities if its text is one of theirs. -/
theorem Row.any_has {row : Row} {column : String} {ids : List String} :
    ids.any (row.has column) = true ↔ ∃ id ∈ ids, row.text? column = some id := by
  simp [List.any_eq_true, Row.has_iff]

/-- Whether a row refers to one of several entities is settled by its text. -/
theorem Row.any_has_of_text {row : Row} {column id : String} (hid : row.text? column = some id)
    (ids : List String) : ids.any (row.has column) = ids.contains id := by
  rw [Bool.eq_iff_iff, Row.any_has, hid]
  simp

/-- What satisfies one of two properties that exclude each other is counted for either. -/
theorem countP_or_of_disjoint {α : Type} {p q : α → Bool} {xs : List α}
    (h : ∀ x ∈ xs, p x = true → q x = false) :
    xs.countP (fun x => p x || q x) = xs.countP p + xs.countP q := by
  induction xs with
  | nil => rfl
  | cons x xs ih =>
    rw [List.forall_mem_cons] at h
    rw [List.countP_cons, List.countP_cons, List.countP_cons, ih h.2]
    cases hp : p x with
    | false =>
      simp only [Bool.false_or, Bool.false_eq_true, if_false]
      omega
    | true =>
      simp only [Bool.true_or, h.1 hp, Bool.false_eq_true, if_false, if_true]
      omega

/-- Rows that refer to any of several entities refer to just one of them. -/
theorem Tables.cells_eq_sum {ids : List String} (hids : ids.Nodup) (t : Tables) (d : Dependent) :
    t.cells d ids = (ids.map (t.references d)).sum := by
  rw [cells]
  induction ids with
  | nil => simp
  | cons id ids ih =>
    rw [List.nodup_cons] at hids
    rw [List.map_cons, List.sum_cons, ← ih hids.2, references]
    simp only [List.any_cons]
    refine countP_or_of_disjoint fun row _ hhas => ?_
    rw [Bool.eq_false_iff, ne_eq, Row.any_has]
    rintro ⟨other, hother, htext⟩
    rw [Row.has_iff.mp hhas] at htext
    cases htext
    exact hids.1 hother

/-- What a move finds and what later moves to the same entity find is what refers to any of the
entities at the start. -/
theorem countP_moved {losers : List String} {keep l column : String} (hkeep : keep ∉ losers)
    (rows : List Row) :
    rows.countP (·.has column l) +
      (rows.map (·.moved column l keep)).countP (fun row => losers.any (row.has column)) =
    rows.countP fun row => (l :: losers).any (row.has column) := by
  have hsplit : ∀ row : Row, losers.any ((row.moved column l keep).has column) =
      (!row.has column l && losers.any (row.has column)) := by
    intro row
    cases hrow : row.has column l with
    | false => rw [Row.moved, hrow]; rfl
    | true =>
      rw [Bool.not_true, Bool.false_and, Bool.eq_false_iff, ne_eq, Row.any_has]
      rintro ⟨id, hid, htext⟩
      rw [Row.text?_moved (Row.has_iff.mp hrow)] at htext
      cases htext
      exact hkeep hid
  rw [List.countP_map, ← countP_or_of_disjoint]
  · refine List.countP_congr fun row _ => ?_
    simp only [Function.comp_apply, hsplit, List.any_cons]
    cases row.has column l <;> rfl
  · intro row _ hrow
    simp only [Function.comp_apply, hsplit, hrow]
    rfl

end RegistryDedup
