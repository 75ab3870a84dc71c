import Mathlib.Data.List.Induction
import Mathlib.Data.List.Nodup
import RegistryDedup.Proofs.Store.Growth
import RegistryDedup.Proofs.Store.Redirect

/-!
# Texts that may occur once

A table has columns in which no text may occur twice. A row that is added or patched is checked for
that, also where a trigger adds it, and rows that are deleted repeat nothing. A move of references
is not checked. It is the one call that can bring a text into such a column twice, and it does so
just where the text is there already.

- `Table.Unrepeated`, `Tables.Unrepeated`: no text is in two rows of such a column.
- `Table.Unrepeated.written`: a row that passes the check repeats nothing, in whatever place it is
  put.
- `Tables.Keeps`: tables with the same columns, in which no text occurs twice if none did before.
  Every call but a move leaves such tables, wherever it fails (`keeps_call`).
- `Tables.Doubles`: a move to a text that is there already.
- `Tables.unchecked`: the tables with no such columns at all. A call does there what it does, unless
  it is refused for a constraint (`agrees_call`).
- `after_unrepeated_iff`: calls in any number, one after the other.
-/

namespace RegistryDedup

/-! ## One table -/

namespace Table

variable {u : Table} {row : Row} {skip : Option Nat} {column value : String}

/-- No text is in two rows of a column in which none may be. -/
def Unrepeated (u : Table) : Prop :=
  ∀ column ∈ u.unique, ∀ value, u.rows.countP (·.has column value) ≤ 1

/-- The texts of such a column differ. -/
theorem unrepeated_iff_nodup :
    u.Unrepeated ↔ ∀ column ∈ u.unique, (u.rows.filterMap (·.text? column)).Nodup := by
  refine forall₂_congr fun column _ => ?_
  rw [List.nodup_iff_count_le_one]
  refine forall_congr' fun value => ?_
  rw [List.count, List.countP_filterMap]
  have hcount : u.rows.countP (·.has column value) =
      u.rows.countP fun row => ((row.text? column).map (· == value)).getD false := by
    refine List.countP_congr fun row _ => ?_
    rw [Row.has]
    cases row.text? column <;> simp
  rw [hcount]

instance (u : Table) : Decidable u.Unrepeated :=
  decidable_of_iff _ unrepeated_iff_nodup.symm

/-- The rows but for the one that is not looked at. -/
def others (u : Table) : Option Nat → List Row
  | none => u.rows
  | some i => u.rows.eraseIdx i

theorem others_sublist (u : Table) (skip : Option Nat) : (u.others skip).Sublist u.rows := by
  cases skip with
  | none => exact .refl _
  | some i => exact List.eraseIdx_sublist _ _

theorem holds_eq_false_iff :
    u.holds column value skip = false ↔ (u.others skip).countP (·.has column value) = 0 := by
  have hmem : ∀ row, row ∈ u.others skip ↔ ∃ i, some i ≠ skip ∧ u.rows[i]? = some row := by
    intro row
    cases skip with
    | none => simp [others, List.mem_iff_getElem?]
    | some j => simp [others, List.mem_eraseIdx_iff_getElem?]
  rw [holds, List.any_eq_false, List.countP_eq_zero]
  constructor
  · intro h row hrow
    obtain ⟨i, hi, hget⟩ := (hmem row).mp hrow
    have hnot := h (row, i) (List.mem_zipIdx_iff_getElem?.mpr hget)
    simpa [bne_iff_ne.mpr hi] using hnot
  · rintro h ⟨row, i⟩ hrow
    rw [List.mem_zipIdx_iff_getElem?] at hrow
    simp only [Bool.and_eq_true, bne_iff_ne, not_and]
    exact fun hi => h row ((hmem row).mpr ⟨i, hi, hrow⟩)

/-- A row passes the check where no other row has one of its texts. -/
theorem clash?_eq_none_iff : u.clash? row skip = none ↔ ∀ column ∈ u.unique, ∀ value,
    row.text? column = some value → (u.others skip).countP (·.has column value) = 0 := by
  rw [clash?, List.findSome?_eq_none_iff]
  refine forall₂_congr fun column _ => ?_
  cases htext : row.text? column with
  | none => simp
  | some text =>
    dsimp only
    constructor
    · intro h value hvalue
      obtain rfl := Option.some.inj hvalue
      refine holds_eq_false_iff.mp (Bool.eq_false_iff.mpr fun hholds => ?_)
      rw [if_pos hholds] at h
      cases h
    · intro h
      rw [if_neg (Bool.eq_false_iff.mp (holds_eq_false_iff.mpr (h text rfl)))]

/-- A row that passes the check repeats nothing, in whatever place it is put. -/
theorem Unrepeated.written {rows : List Row} (hu : u.Unrepeated)
    (hclash : u.clash? row skip = none) (hrows : rows.Perm (row :: u.others skip)) :
    Unrepeated { u with rows } := by
  intro column hcolumn value
  show rows.countP _ ≤ 1
  rw [hrows.countP_eq, List.countP_cons]
  split
  · next hhas =>
    rw [clash?_eq_none_iff.mp hclash column hcolumn value (Row.has_iff.mp hhas)]
  · exact ((u.others_sublist skip).countP_le).trans (hu column hcolumn value)

/-- Rows that are left repeat nothing. -/
theorem Unrepeated.sublist {rows : List Row} (hu : u.Unrepeated) (hrows : rows.Sublist u.rows) :
    Unrepeated { u with rows } :=
  fun column hcolumn value => hrows.countP_le.trans (hu column hcolumn value)

/-- What a move leaves of a text: the target is where it was, and where the source was. -/
theorem countP_has_moved {source target : String} (hne : source ≠ target) (rows : List Row) :
    (rows.map (·.moved column source target)).countP (·.has column value) =
      if value = target then
        rows.countP (·.has column source) + rows.countP (·.has column target)
      else if value = source then 0
      else rows.countP (·.has column value) := by
  have hmoved : ∀ row : Row, (row.moved column source target).text? column =
      if row.text? column = some source then some target else row.text? column := by
    intro row
    split
    · next h => exact Row.text?_moved h
    · next h => exact Row.text?_moved_of_not h
  rw [List.countP_map]
  split
  · next hvalue =>
    rw [hvalue, ← countP_or_of_disjoint]
    · refine List.countP_congr fun row _ => ?_
      rw [Function.comp_apply, Bool.or_eq_true, Row.has_iff, Row.has_iff, Row.has_iff, hmoved]
      by_cases hsource : row.text? column = some source <;> simp [hsource]
    · intro row _ hsource
      rw [Row.has_iff] at hsource
      rw [Bool.eq_false_iff, ne_eq, Row.has_iff, hsource, Option.some.injEq]
      exact hne
  · next hvalue =>
    split
    · next hsource =>
      refine List.countP_eq_zero.mpr fun row _ => ?_
      rw [Function.comp_apply, Row.has_iff, hmoved, hsource]
      split
      · rw [Option.some.injEq]
        exact hne.symm
      · assumption
    · next hsource =>
      refine List.countP_congr fun row _ => ?_
      rw [Function.comp_apply, Row.has_iff, Row.has_iff, hmoved]
      split
      · next h =>
        rw [h, Option.some.injEq, Option.some.injEq]
        exact iff_of_false (Ne.symm hvalue) (Ne.symm hsource)
      · exact Iff.rfl

/-- A move repeats a text just where it is one to a text that is there already. -/
theorem unrepeated_mapRows_iff {source target : String} (hu : u.Unrepeated) :
    (u.mapRows (·.moved column source target)).Unrepeated ↔
      ¬ (source ≠ target ∧ column ∈ u.unique ∧ (∃ row ∈ u.rows, row.text? column = some source) ∧
        ∃ row ∈ u.rows, row.text? column = some target) := by
  have hpos : ∀ value, (∃ row ∈ u.rows, row.text? column = some value) ↔
      0 < u.rows.countP (·.has column value) := by
    intro value
    simp only [List.countP_pos_iff, Row.has_iff]
  rw [hpos, hpos]
  constructor
  · rintro h ⟨hne, hcolumn, hsource, htarget⟩
    have hcount : (u.rows.map (·.moved column source target)).countP (·.has column target) ≤ 1 :=
      h column hcolumn target
    rw [countP_has_moved hne, if_pos rfl] at hcount
    omega
  · intro h c hc value
    show (u.rows.map (·.moved column source target)).countP (·.has c value) ≤ 1
    have hone := hu c hc
    by_cases hsame : source = target
    · -- A text that is moved onto itself stays where it is.
      have htext : ∀ row : Row, (row.moved column source target).text? c = row.text? c := by
        intro row
        by_cases hrow : row.text? column = some source
        · by_cases hcolumn : c = column
          · rw [hcolumn, Row.text?_moved hrow, hrow, hsame]
          · exact Row.text?_moved_of_ne hcolumn
        · exact Row.text?_moved_of_not hrow
      rw [List.countP_map]
      refine le_of_eq_of_le (List.countP_congr fun row _ => ?_) (hone value)
      rw [Function.comp_apply, Row.has_iff, Row.has_iff, htext]
    · by_cases hcolumn : c = column
      · subst hcolumn
        rw [countP_has_moved hsame]
        split
        · have hsource := hone source
          have htarget := hone target
          by_contra htwo
          exact h ⟨hsame, hc, by omega, by omega⟩
        · split
          · exact Nat.zero_le 1
          · exact hone value
      · rw [List.countP_map]
        refine le_of_eq_of_le (List.countP_congr fun row _ => ?_) (hone value)
        rw [Function.comp_apply, Row.has_iff, Row.has_iff, Row.text?_moved_of_ne hcolumn]

end Table

namespace Tables

variable {t t' t'' : Tables} {table owner : String} {row : Row} {r : Request}

/-! ## Calls that are checked -/

/-- In no table is a text in two rows of a column in which none may be. -/
def Unrepeated (t : Tables) : Prop :=
  ∀ name u, t.find? name = some u → u.Unrepeated

/-- The columns of a table in which no text may occur twice. -/
def unique? (t : Tables) (name : String) : Option (List String) :=
  (t.find? name).map Table.unique

/-- Tables with the same such columns, in which no text occurs twice if none did before. -/
structure Keeps (t t' : Tables) : Prop where
  unique : ∀ name, t'.unique? name = t.unique? name
  unrepeated : t.Unrepeated → t'.Unrepeated

namespace Keeps

theorem of_find? (h : ∀ name, t'.find? name = t.find? name) : Keeps t t' where
  unique name := congrArg (Option.map Table.unique) (h name)
  unrepeated ht name u hu := ht name u (h name ▸ hu)

theorem refl (t : Tables) : Keeps t t :=
  of_find? fun _ => rfl

theorem trans (h : Keeps t t') (h' : Keeps t' t'') : Keeps t t'' where
  unique name := (h'.unique name).trans (h.unique name)
  unrepeated ht := h'.unrepeated (h.unrepeated ht)

/-- A table put in the place of one with the same such columns. -/
theorem put {u u' : Table} {name : String} (hu : t.find? name = some u)
    (hunique : u'.unique = u.unique) (hkept : u.Unrepeated → u'.Unrepeated) :
    Keeps t (t.put name u') where
  unique n := by
    rw [unique?, find?_put]
    by_cases hn : n = name
    · rw [if_pos hn, hn, unique?, hu]
      exact congrArg some hunique
    · rw [if_neg hn, unique?]
  unrepeated ht n v hv := by
    rw [find?_put] at hv
    by_cases hn : n = name
    · rw [if_pos hn] at hv
      exact Option.some.inj hv ▸ hkept (ht name u hu)
    · rw [if_neg hn] at hv
      exact ht n v hv

theorem wrote (t : Tables) (n : Nat) : Keeps t (t.wrote n) :=
  of_find? fun _ => find?_wrote ..

end Keeps

theorem keeps_insert (t : Tables) (table : String) (row : Row) :
    Keeps t (t.insert table row).2 := by
  rw [insert, changing]
  cases hu : t.find? table with
  | none => exact .refl t
  | some u =>
    dsimp only
    split
    · exact .refl t
    · next hclash =>
      have hput : Keeps t (t.put table { u with rows := u.rows ++ [row] }) :=
        .put hu rfl fun hkept => hkept.written hclash (List.perm_append_singleton row u.rows)
      exact hput.trans (.wrote _ 1)

theorem keeps_fireAll (owner : String) (triggers : List DetailTrigger) (t : Tables) :
    Keeps t (fireAll owner triggers t).2 :=
  fireAll_keeps .refl (fun _ _ _ => .trans) (fun _ => .of_find? fun _ => rfl) keeps_insert
    (fun _ _ => .of_find? fun _ => rfl) owner triggers t

/-- Rows are patched one after the other, and each of them is checked. -/
theorem unrepeated_patchRows {name : String} {patch : Row} {places : List Nat} {u : Table} :
    (patchRows name patch places u).2.unique = u.unique ∧
      (u.Unrepeated → (patchRows name patch places u).2.Unrepeated) := by
  induction places generalizing u with
  | nil => exact ⟨rfl, id⟩
  | cons i places ih =>
    rw [patchRows]
    split
    · exact ih
    · next row hrow =>
      dsimp only
      split
      · exact ⟨rfl, id⟩
      · next hclash =>
        obtain ⟨hi, -⟩ := List.getElem?_eq_some_iff.mp hrow
        have hrows := List.set_perm_cons_eraseIdx hi (row.patched patch)
        obtain ⟨hunique, hkept⟩ := ih (u := { u with rows := u.rows.set i (row.patched patch) })
        exact ⟨hunique, fun hu => hkept (hu.written hclash hrows)⟩

theorem keeps_updateById (t : Tables) (table idColumn id : String) (patch : Row) :
    Keeps t (t.updateById table idColumn id patch).2 := by
  rw [updateById, changing]
  cases hu : t.find? table with
  | none => exact .refl t
  | some u =>
    have hpatched := @unrepeated_patchRows table patch (placesOf u idColumn id) u
    dsimp only
    split
    · next heq =>
      rw [heq] at hpatched
      exact .put hu hpatched.1 hpatched.2
    · next v heq =>
      rw [heq] at hpatched
      have hwrote : Keeps t ((t.put table v).wrote (placesOf u idColumn id).length) :=
        (Keeps.put hu hpatched.1 hpatched.2).trans (.wrote _ _)
      split
      · exact hwrote
      · -- The rows that the triggers add are checked as any others.
        have hfired := hwrote.trans (keeps_fireAll id (((t.put table v).wrote
          (placesOf u idColumn id).length).triggers.filter (·.ownerTable == table)) _)
        split
        · next heq' =>
          rw [heq'] at hfired
          exact hfired
        · next heq' =>
          rw [heq'] at hfired
          exact hfired

theorem keeps_deleteIds (t : Tables) (table column : String) (ids : List String) :
    Keeps t (t.deleteIds table column ids).2 := by
  rw [deleteIds]
  split
  · exact .refl t
  · rw [changing]
    cases hu : t.find? table with
    | none => exact .refl t
    | some u =>
      have hput : Keeps t (t.put table (u.without column ids).1) :=
        .put hu rfl fun hkept => hkept.sublist List.filter_sublist
      have hnoted : ∀ (ids : List String) (s : Tables) (name : String),
          (ids.foldl (fun s id => s.note (.deleted table id)) s).find? name = s.find? name := by
        intro ids
        induction ids with
        | nil => exact fun _ _ => rfl
        | cons id ids ih => exact fun s name => ih (s.note _) name
      exact (hput.trans (.wrote _ _)).trans (.of_find? fun name => hnoted ids _ name)

theorem keeps_insertRow (t : Tables) (table : String) (row : Row) :
    Keeps t (t.insertRow table row).2 := by
  have hinsert := keeps_insert t table row
  rw [insertRow]
  split
  · next heq =>
    rw [heq] at hinsert
    exact hinsert.trans (.of_find? fun _ => rfl)
  · next heq =>
    rw [heq] at hinsert
    exact hinsert

/-- Every call but a move is checked, wherever it fails. -/
theorem keeps_call (t : Tables)
    (hr : ∀ table column source target, r ≠ .repoint table column source target) :
    Keeps t (call r t).2 := by
  cases r with
  | repoint table column source target => exact absurd rfl (hr _ _ _ _)
  | deleteIds table column ids => exact keeps_deleteIds ..
  | deleteWhere table column value => exact keeps_deleteIds ..
  | updateById table idColumn id patch => exact keeps_updateById ..
  | insertRow table row => exact keeps_insertRow ..
  | _ => exact .refl t

/-! ## Moves -/

/-- A move to a text that is there already, in a column in which none may be twice. -/
def Doubles (t : Tables) : Request → Prop
  | .repoint table column source target => source ≠ target ∧
    ∃ u, t.find? table = some u ∧ column ∈ u.unique ∧
      (∃ row ∈ u.rows, row.text? column = some source) ∧
      ∃ row ∈ u.rows, row.text? column = some target
  | _ => False

/-- One call repeats a text just where it is a move to one that is there already. -/
theorem call_unrepeated_iff (ht : t.Unrepeated) (r : Request) :
    (call r t).2.Unrepeated ↔ ¬ t.Doubles r := by
  cases r with
  | repoint table column source target =>
    cases hu : t.find? table with
    | none =>
      refine iff_of_true (fun n v hv => ?_) ?_
      · change (t.repoint table column source target).2.find? n = some v at hv
        rw [find?_repoint, hu] at hv
        split at hv
        · cases hv
        · exact ht n v hv
      · rintro ⟨-, u, hu', -⟩
        rw [hu] at hu'
        cases hu'
    | some u =>
      have hmoved : (u.mapRows (·.moved column source target)).Unrepeated ↔
          ¬ (source ≠ target ∧ column ∈ u.unique ∧
            (∃ row ∈ u.rows, row.text? column = some source) ∧
            ∃ row ∈ u.rows, row.text? column = some target) :=
        Table.unrepeated_mapRows_iff (ht table u hu)
      constructor
      · rintro hafter ⟨hne, v, hv, hrows⟩
        obtain rfl := Option.some.inj (hu.symm.trans hv)
        refine hmoved.mp (hafter table _ ?_) ⟨hne, hrows⟩
        rw [call, find?_repoint, if_pos rfl, hu, Option.map_some]
      · intro hnot n v hv
        change (t.repoint table column source target).2.find? n = some v at hv
        rw [find?_repoint] at hv
        split at hv
        · rw [hu] at hv
          obtain rfl := Option.some.inj hv
          exact hmoved.mpr fun ⟨hne, hrows⟩ => hnot ⟨hne, u, hu, hrows⟩
        · exact ht n v hv
  | _ =>
    refine iff_of_true ((keeps_call t ?_).unrepeated ht) not_false
    exact fun _ _ _ _ h => nomatch h

/-- No call changes in which columns a text may not occur twice. -/
theorem unique?_call (t : Tables) (r : Request) (name : String) :
    (call r t).2.unique? name = t.unique? name := by
  cases r with
  | repoint table column source target =>
    rw [unique?, call, find?_repoint]
    split
    · next hname =>
      rw [hname, unique?]
      cases t.find? table <;> rfl
    · rfl
  | _ =>
    refine (keeps_call t ?_).unique name
    exact fun _ _ _ _ h => nomatch h

/-! ## Without the check -/

/-- The tables with no column in which a text may not occur twice. -/
def unchecked (t : Tables) : Tables :=
  { t with tables := t.tables.map fun (name, u) => (name, { u with unique := [] }) }

theorem find?_unchecked (t : Tables) (name : String) :
    t.unchecked.find? name = (t.find? name).map fun u => { u with unique := [] } := by
  have hlookup : ∀ tables : List (String × Table),
      (tables.map fun (name, u) => (name, ({ u with unique := [] } : Table))).lookup name =
        (tables.lookup name).map fun u => { u with unique := [] } := by
    intro tables
    induction tables with
    | nil => rfl
    | cons entry rest ih =>
      rw [List.map_cons, lookup_cons_eq, lookup_cons_eq, ih]
      split <;> rfl
  exact hlookup t.tables

theorem rows_unchecked (t : Tables) (name : String) : t.unchecked.rows name = t.rows name := by
  rw [rows, rows, find?_unchecked]
  cases t.find? name <;> rfl

theorem unchecked_put (t : Tables) (name : String) (u : Table) :
    (t.put name u).unchecked = t.unchecked.put name { u with unique := [] } := by
  have hplace : ∀ tables : List (String × Table),
      (place name u tables).map (fun (name, u) => (name, ({ u with unique := [] } : Table))) =
        place name { u with unique := [] }
          (tables.map fun (name, u) => (name, { u with unique := [] })) := by
    intro tables
    induction tables with
    | nil => rfl
    | cons entry rest ih =>
      rw [place, List.map_cons, place]
      split
      · rfl
      · rw [List.map_cons, ih]
  rw [put, unchecked, put, hplace]
  rfl

theorem unchecked_wrote (t : Tables) (n : Nat) : (t.wrote n).unchecked = t.unchecked.wrote n := by
  rw [wrote, wrote]
  split <;> rfl

/-- A reply and the tables that it leaves are those without the check, unless the reply is a
refusal for a constraint. -/
def Agrees {α : Type} (x y : Reply α × Tables) : Prop :=
  (∃ f, x.1 = .error f ∧ f.kind = .constraint) ∨ y = (x.1, x.2.unchecked)

theorem agrees_changing {α : Type} {t : Tables} {name : String}
    {f g : Table → Reply α × Tables}
    (h : ∀ u, t.find? name = some u → Agrees (f u) (g { u with unique := [] })) :
    Agrees (t.changing name f) (t.unchecked.changing name g) := by
  rw [changing, changing, find?_unchecked]
  cases hu : t.find? name with
  | none => exact .inr rfl
  | some u => exact h u hu

theorem agrees_insert (t : Tables) (table : String) (row : Row) :
    Agrees (t.insert table row) (t.unchecked.insert table row) := by
  refine agrees_changing fun u _ => ?_
  dsimp only
  split
  · exact .inl ⟨_, rfl, rfl⟩
  · refine .inr ?_
    rw [unchecked_wrote, unchecked_put]
    rfl

theorem Agrees.of_constraint {α : Type} {x y : Reply α × Tables} {f : Failure}
    {after : Tables} (hx : x = (.error f, after)) (hkind : f.kind = .constraint) : Agrees x y :=
  .inl ⟨f, hx ▸ rfl, hkind⟩

/-- What is done after a reply that is no failure. -/
theorem Agrees.followed {α : Type} {x y : Reply Unit × Tables} {k k' : Tables → Reply α × Tables}
    (hk : ∀ after, Agrees (k after) (k' after.unchecked)) :
    Agrees x y → Agrees
      (match x with
        | (.ok (), after) => k after
        | (.error f, after) => (.error f, after))
      (match y with
        | (.ok (), after) => k' after
        | (.error f, after) => (.error f, after)) := by
  obtain ⟨reply, after⟩ := x
  rintro (⟨f, hf, hkind⟩ | rfl)
  · dsimp only at hf
    rw [hf]
    exact .of_constraint rfl hkind
  · cases reply with
    | ok a => exact hk after
    | error f => exact .inr rfl

theorem agrees_fire (t : Tables) (detail : DetailTable) (owner : String) :
    Agrees (t.fire detail owner) (t.unchecked.fire detail owner) := by
  refine agrees_changing fun u _ => ?_
  dsimp only
  split
  · exact .inr rfl
  · have hinsert : Agrees
        (insert { t with added := t.added + 1 } detail.table (t.triggeredRow detail owner))
        (insert { t.unchecked with added := t.unchecked.added + 1 } detail.table
          (t.unchecked.triggeredRow detail owner)) :=
      agrees_insert { t with added := t.added + 1 } ..
    exact .followed (fun _ => .inr rfl) hinsert

theorem agrees_fireAll (owner : String) (triggers : List DetailTrigger) (t : Tables) :
    Agrees (fireAll owner triggers t) (fireAll owner triggers t.unchecked) := by
  induction triggers generalizing t with
  | nil => exact .inr rfl
  | cons trigger rest ih =>
    rw [fireAll, fireAll]
    exact .followed ih (agrees_fire t trigger.detail owner)

theorem agrees_patchRows {name : String} {patch : Row} {places : List Nat} {u : Table} :
    (∃ f, (patchRows name patch places u).1 = .error f ∧ f.kind = .constraint) ∨
    ((patchRows name patch places u).1 = .ok () ∧
      patchRows name patch places { u with unique := [] } =
        (.ok (), { (patchRows name patch places u).2 with unique := [] })) := by
  induction places generalizing u with
  | nil => exact .inr ⟨rfl, rfl⟩
  | cons i places ih =>
    rw [patchRows, patchRows]
    cases u.rows[i]? with
    | none => exact ih
    | some row =>
      dsimp only
      split
      · exact .inl ⟨_, rfl, rfl⟩
      · exact ih

theorem agrees_updateById (t : Tables) (table idColumn id : String) (patch : Row) :
    Agrees (t.updateById table idColumn id patch)
      (t.unchecked.updateById table idColumn id patch) := by
  refine agrees_changing fun u _ => ?_
  have hpatched := @agrees_patchRows table patch (placesOf u idColumn id) u
  have hplaces : placesOf { u with unique := [] } idColumn id = placesOf u idColumn id := rfl
  dsimp only
  rw [hplaces]
  generalize patchRows table patch (placesOf u idColumn id) u = x at hpatched ⊢
  obtain ⟨reply, v⟩ := x
  dsimp only at hpatched
  rcases hpatched with ⟨f, hf, hkind⟩ | ⟨hok, hv⟩
  · rw [hf]
    exact .of_constraint rfl hkind
  · rw [hok, hv]
    dsimp only
    rw [← unchecked_put, ← unchecked_wrote]
    split
    · exact .inr rfl
    · have htriggers : ∀ s : Tables, s.unchecked.triggers = s.triggers := fun _ => rfl
      rw [htriggers]
      exact .followed (fun _ => .inr rfl) (agrees_fireAll id _ _)

theorem agrees_insertRow (t : Tables) (table : String) (row : Row) :
    Agrees (t.insertRow table row) (t.unchecked.insertRow table row) := by
  rw [insertRow, insertRow]
  exact .followed (fun _ => .inr rfl) (agrees_insert t table row)

theorem agrees_repoint (t : Tables) (table column source target : String) :
    Agrees (t.repoint table column source target)
      (t.unchecked.repoint table column source target) := by
  refine agrees_changing fun u _ => .inr ?_
  have hwritten : ((t.put table (u.repointed column source target).1).wrote
      (u.repointed column source target).2).unchecked =
      (t.unchecked.put table { (u.repointed column source target).1 with unique := [] }).wrote
        (u.repointed column source target).2 := by
    rw [unchecked_wrote, unchecked_put]
  exact congrArg (fun s => (_, s.note (.repointed table source target))) hwritten.symm

theorem agrees_deleteIds (t : Tables) (table column : String) (ids : List String) :
    Agrees (t.deleteIds table column ids) (t.unchecked.deleteIds table column ids) := by
  have hnoted : ∀ (ids : List String) (s : Tables),
      ids.foldl (fun s id => s.note (.deleted table id)) s.unchecked =
        (ids.foldl (fun s id => s.note (.deleted table id)) s).unchecked := by
    intro ids
    induction ids with
    | nil => exact fun _ => rfl
    | cons id ids ih => exact fun s => ih (s.note (.deleted table id))
  rw [deleteIds, deleteIds]
  have hfailing : t.unchecked.failingDeletes = t.failingDeletes := rfl
  rw [hfailing]
  split
  · exact .inr rfl
  · refine agrees_changing fun u _ => .inr ?_
    dsimp only
    rw [← hnoted, unchecked_wrote, unchecked_put]
    rfl

/-- A call does what it does without the check, unless it is refused for a constraint. -/
theorem agrees_call (t : Tables) (r : Request) : Agrees (call r t) (call r t.unchecked) := by
  have hreading : ∀ {α : Type} (name : String) (f g : Table → Reply α),
      (∀ u, f u = g { u with unique := [] }) →
      Agrees (t.reading name f, t) (t.unchecked.reading name g, t.unchecked) := by
    intro α name f g h
    refine .inr (congrArg (·, t.unchecked) ?_)
    rw [reading, reading, find?_unchecked]
    cases t.find? name with
    | none => rfl
    | some u => exact (h u).symm
  cases r with
  | checkColumns table columns => exact hreading _ _ _ fun _ => rfl
  | fetchEntities table => exact hreading _ _ _ fun _ => rfl
  | countReferences table column value =>
    rw [call, call, countReferences, countReferences]
    have hfailing : t.unchecked.failingCounts = t.failingCounts := rfl
    rw [hfailing]
    split
    · exact .inr rfl
    · exact hreading _ _ _ fun _ => rfl
  | repoint table column source target => exact agrees_repoint ..
  | deleteIds table column ids => exact agrees_deleteIds ..
  | distinctValues table column => exact hreading _ _ _ fun _ => rfl
  | fetchDetails table => exact hreading _ _ _ fun _ => rfl
  | deleteWhere table column value => exact agrees_deleteIds ..
  | updateById table idColumn id patch => exact agrees_updateById ..
  | insertRow table row => exact agrees_insertRow ..
  | merge plan => exact .inr rfl

/-- A call that would leave a text twice, if it were not checked. -/
def WouldRepeat (t : Tables) (r : Request) : Prop :=
  ∃ name u column value, t.find? name = some u ∧ column ∈ u.unique ∧
    1 < ((call r t.unchecked).2.rows name).countP (·.has column value)

/-- Such a call is refused for a constraint, unless it is a move. -/
theorem call_refused_iff (ht : t.Unrepeated) (hrepeat : t.WouldRepeat r) :
    (∃ f, (call r t).1 = .error f ∧ f.kind = .constraint) ↔ ¬ t.Doubles r := by
  constructor
  · rintro ⟨f, hf, hkind⟩ hdoubles
    cases r with
    | repoint table column source target =>
      obtain ⟨rfl, -⟩ := repoint_eq_error hf
      cases hkind
    | _ => exact hdoubles
  · intro hnot
    refine (agrees_call t r).resolve_right fun heq => ?_
    obtain ⟨name, u, column, value, hu, hcolumn, hcount⟩ := hrepeat
    -- Without the check the call leaves the same rows, in which nothing is repeated.
    rw [heq, rows_unchecked] at hcount
    have hunique : (call r t).2.unique? name = some u.unique := by
      rw [unique?_call, unique?, hu, Option.map_some]
    obtain ⟨v, hv, hvu⟩ := Option.map_eq_some_iff.mp hunique
    rw [rows_of_find? hv] at hcount
    have hone := (call_unrepeated_iff ht r).mpr hnot name v hv column (hvu ▸ hcolumn) value
    omega

/-! ## Calls one after the other -/

/-- The tables after some calls, whether or not they succeed. -/
def after (t : Tables) (rs : List Request) : Tables :=
  rs.foldl (fun t r => (call r t).2) t

theorem after_append (t : Tables) (front back : List Request) :
    t.after (front ++ back) = (t.after front).after back :=
  List.foldl_append ..

/-- No text is ever twice in a column in which none may be, just as long as no move doubles one.
A call that would leave a text twice is refused for a constraint, unless it is such a move. -/
theorem after_unrepeated_iff (ht : t.Unrepeated) :
    (∀ rs, (∀ front, front <+: rs → (t.after front).Unrepeated) ↔
      ∀ front r, front ++ [r] <+: rs → ¬ (t.after front).Doubles r) ∧
    ∀ rs r, (t.after rs).Unrepeated → (t.after rs).WouldRepeat r →
      ((∃ f, (call r (t.after rs)).1 = .error f ∧ f.kind = .constraint) ↔
        ¬ (t.after rs).Doubles r) := by
  refine ⟨fun rs => ⟨fun h front r hfront => ?_, fun h front => ?_⟩,
    fun rs r hkept hrepeat => call_refused_iff hkept hrepeat⟩
  · have hbefore := h front ((List.prefix_append front [r]).trans hfront)
    have hafter := h (front ++ [r]) hfront
    rw [after_append] at hafter
    exact (call_unrepeated_iff hbefore r).mp hafter
  · induction front using List.reverseRecOn with
    | nil => exact fun _ => ht
    | append_singleton front r ih =>
      intro hfront
      have hbefore := ih ((List.prefix_append front [r]).trans hfront)
      rw [after_append]
      exact (call_unrepeated_iff hbefore r).mpr (h front r hfront)

end Tables

namespace UniqueSample

/-- Two institutions, of which no two may have one holding. -/
def tables : Tables where
  clock := (Instant.ofEpoch? 172800 0).get rfl
  tables := [("institutions", {
    columns := ["id", "holding_id"]
    unique := ["holding_id"]
    rows := [[("holding_id", .str "h1"), ("id", .str "i1")],
      [("holding_id", .str "h2"), ("id", .str "i2")]] })]

/-- Another institution of the first holding. -/
def again : Request := .insertRow "institutions" [("holding_id", .str "h1"), ("id", .str "i3")]

/-- The references to the first holding moved to the second one. -/
def move : Request := .repoint "institutions" "holding_id" "h1" "h2"

theorem unrepeated_tables : tables.Unrepeated := by
  intro name u hu
  have hall : ∀ entry ∈ tables.tables, entry.2.Unrepeated := by decide +kernel
  obtain ⟨entries, rest, htables, -⟩ := List.lookup_eq_some_iff.mp hu
  exact hall (name, u) (htables ▸ List.mem_append_right _ List.mem_cons_self)

end UniqueSample

/-- The second institution of a holding is refused when it is added. The move brings it about. -/
theorem after_unrepeated_iff_sample : UniqueSample.tables.Unrepeated ∧
    (∃ f, (Tables.call UniqueSample.again UniqueSample.tables).1 = .error f ∧
      f.kind = .constraint) ∧
    ¬ ∀ front, front <+: [UniqueSample.again, UniqueSample.move] →
      (UniqueSample.tables.after front).Unrepeated := by
  have hdoubles : (UniqueSample.tables.after [UniqueSample.again]).Doubles UniqueSample.move := by
    refine ⟨by decide, _, rfl, by decide +kernel, ?_, ?_⟩
    · exact ⟨_, List.mem_cons_self, by decide +kernel⟩
    · exact ⟨_, List.mem_cons_of_mem _ List.mem_cons_self, by decide +kernel⟩
  have hrepeat : UniqueSample.tables.WouldRepeat UniqueSample.again :=
    ⟨"institutions", _, "holding_id", "h1", rfl, by decide +kernel, by decide +kernel⟩
  obtain ⟨hruns, hrefused⟩ := Tables.after_unrepeated_iff UniqueSample.unrepeated_tables
  refine ⟨UniqueSample.unrepeated_tables, ?_, fun hkept => ?_⟩
  · exact (hrefused [] _ UniqueSample.unrepeated_tables hrepeat).mpr not_false
  · exact (hruns _).mp hkept [UniqueSample.again] UniqueSample.move List.prefix_rfl hdoubles

end RegistryDedup
