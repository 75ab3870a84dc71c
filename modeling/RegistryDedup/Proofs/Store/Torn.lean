import Mathlib.Data.List.Infix
import Mathlib.Data.List.Nodup
import RegistryDedup.Proofs.Store.Growth

/-!
# Updates that are half done

A call that fails leaves all tables as they were, but for an update. An update patches the rows with
its id one after the other, and only then do the triggers of its table fire. Where a row is refused,
those before it have been patched; where a trigger fails, all of them have, and the call is counted
as one that changed rows.

- `Table.patchedAt`: the rows at some places patched.
- `Table.Stops`: the places that are patched before a row is refused.
- `updateById_cases`: how an update of a table goes.
- `Tables.Torn`: an update that is half done.
- `call_error_untouched_iff`: a call that fails leaves no trace, unless it is such an update.
-/

namespace RegistryDedup

/-! ## Patches -/

namespace Table

variable {u : Table} {patch : Row} {places front front' done rest : List Nat} {i : Nat} {row : Row}

/-- The table with the rows at some places patched. -/
def patchedAt (u : Table) (patch : Row) (places : List Nat) : Table :=
  { u with rows := u.rows.mapIdx fun i row => if i ∈ places then row.patched patch else row }

/-- The row at a place is refused, after those at other places were patched. -/
def Refuses (u : Table) (patch : Row) (done : List Nat) (i : Nat) : Prop :=
  ∃ row, u.rows[i]? = some row ∧
    ((u.patchedAt patch done).clash? (row.patched patch) (some i)).isSome

/-- No row is refused, where the places are taken one after the other. -/
def Passes (u : Table) (patch : Row) (places : List Nat) : Prop :=
  ∀ front i, front ++ [i] <+: places → ¬ u.Refuses patch front i

/-- The places that are patched before the first row is refused. -/
structure Stops (u : Table) (patch : Row) (places front : List Nat) : Prop where
  refused : ∃ i, front ++ [i] <+: places ∧ u.Refuses patch front i
  passes : u.Passes patch front

theorem refuses_iff (hrow : u.rows[i]? = some row) : u.Refuses patch done i ↔
    ((u.patchedAt patch done).clash? (row.patched patch) (some i)).isSome := by
  constructor
  · rintro ⟨row', hrow', hclash⟩
    rwa [Option.some.inj (hrow.symm.trans hrow')]
  · exact fun hclash => ⟨row, hrow, hclash⟩

theorem passes_nil (u : Table) (patch : Row) : u.Passes patch [] :=
  fun front i h => by simp at h

theorem passes_append_singleton :
    u.Passes patch (done ++ [i]) ↔ u.Passes patch done ∧ ¬ u.Refuses patch done i := by
  simp only [Passes, List.prefix_concat_iff]
  constructor
  · exact fun h => ⟨fun front j hfront => h front j (.inr hfront), h done i (.inl rfl)⟩
  · rintro ⟨hdone, hi⟩ front j (heq | hfront)
    · obtain ⟨rfl, hij⟩ := List.append_inj' heq rfl
      obtain rfl := List.singleton_inj.mp hij
      exact hi
    · exact hdone front j hfront

theorem Stops.not_passes (h : u.Stops patch places front) : ¬ u.Passes patch places := by
  obtain ⟨⟨i, hprefix, hrefused⟩, -⟩ := h
  exact fun hpasses => hpasses front i hprefix hrefused

theorem Stops.unique (h : u.Stops patch places front) (h' : u.Stops patch places front') :
    front = front' := by
  -- What is refused first is not reached by a longer front.
  have hshort : ∀ {a b}, u.Stops patch places a → u.Stops patch places b →
      ¬ a.length < b.length := by
    rintro a b ⟨⟨i, ha, hrefused⟩, -⟩ ⟨⟨j, hb, -⟩, hpasses⟩ hlt
    have hb' : b <+: places := (List.prefix_append b [j]).trans hb
    refine hpasses a i (List.prefix_of_prefix_length_le ha hb' ?_) hrefused
    rwa [List.length_append, List.length_singleton]
  have hlength : front.length = front'.length :=
    le_antisymm (Nat.le_of_not_lt (hshort h' h)) (Nat.le_of_not_lt (hshort h h'))
  obtain ⟨i, hi, -⟩ := h.refused
  obtain ⟨j, hj, -⟩ := h'.refused
  exact (List.prefix_of_prefix_length_le ((List.prefix_append _ _).trans hi)
    ((List.prefix_append _ _).trans hj) hlength.le).eq_of_length hlength

theorem getElem?_patchedAt (u : Table) (patch : Row) (places : List Nat) (i : Nat) :
    (u.patchedAt patch places).rows[i]? =
      u.rows[i]?.map fun row => if i ∈ places then row.patched patch else row := by
  rw [patchedAt, List.getElem?_mapIdx]

@[simp] theorem patchedAt_nil (u : Table) (patch : Row) : u.patchedAt patch [] = u := by
  have hrows : (u.patchedAt patch []).rows = u.rows := by
    refine List.ext_getElem? fun i => ?_
    rw [getElem?_patchedAt]
    simp
  exact congrArg (fun rows => { u with rows }) hrows

/-- One more row patched. -/
theorem patchedAt_append_of_row (hrow : u.rows[i]? = some row) :
    u.patchedAt patch (done ++ [i]) =
      { u with rows := (u.patchedAt patch done).rows.set i (row.patched patch) } := by
  have hrows : (u.patchedAt patch (done ++ [i])).rows =
      (u.patchedAt patch done).rows.set i (row.patched patch) := by
    obtain ⟨hlt, -⟩ := List.getElem?_eq_some_iff.mp hrow
    have hlength : (u.patchedAt patch done).rows.length = u.rows.length := List.length_mapIdx
    refine List.ext_getElem? fun j => ?_
    rw [getElem?_patchedAt, List.getElem?_set, getElem?_patchedAt]
    by_cases hij : i = j
    · rw [← hij, hrow, if_pos rfl, if_pos (hlength.symm ▸ hlt)]
      simp
    · simp [hij, Ne.symm hij]
  exact congrArg (fun rows => { u with rows }) hrows

/-- A place without a row. -/
theorem patchedAt_append_of_none (hrow : u.rows[i]? = none) :
    u.patchedAt patch (done ++ [i]) = u.patchedAt patch done := by
  have hrows : (u.patchedAt patch (done ++ [i])).rows = (u.patchedAt patch done).rows := by
    refine List.ext_getElem? fun j => ?_
    rw [getElem?_patchedAt, getElem?_patchedAt]
    by_cases hij : j = i
    · rw [hij, hrow, Option.map_none, Option.map_none]
    · simp [hij]
  exact congrArg (fun rows => { u with rows }) hrows

/-- The patches change the table where they change one of its rows. -/
theorem rows_patchedAt_eq_iff : (u.patchedAt patch places).rows = u.rows ↔
    ∀ i ∈ places, ∀ row, u.rows[i]? = some row → row.patched patch = row := by
  constructor
  · intro h i hi row hrow
    have hget := getElem?_patchedAt u patch places i
    rw [h, hrow, Option.map_some, if_pos hi] at hget
    exact (Option.some.inj hget).symm
  · intro h
    refine List.ext_getElem? fun i => ?_
    rw [getElem?_patchedAt]
    cases hrow : u.rows[i]? with
    | none => rfl
    | some row =>
      rw [Option.map_some]
      split
      · next hi => rw [h i hi row hrow]
      · rfl

end Table

namespace Tables

variable {t : Tables} {u : Table} {table idColumn id : String} {patch : Row} {r : Request}
  {f : Failure}

/-- Rows are patched one after the other. Either none of them is refused, or the first one that is
ends the patches. -/
theorem patchRows_patchedAt (table : String) {places done : List Nat}
    (hnodup : (done ++ places).Nodup) (hdone : u.Passes patch done) :
    (u.Passes patch (done ++ places) ∧ patchRows table patch places (u.patchedAt patch done) =
      (.ok (), u.patchedAt patch (done ++ places))) ∨
    ∃ front f, u.Stops patch (done ++ places) front ∧
      patchRows table patch places (u.patchedAt patch done) =
        (.error f, u.patchedAt patch front) := by
  induction places generalizing done with
  | nil =>
    rw [List.append_nil]
    exact .inl ⟨hdone, rfl⟩
  | cons i places ih =>
    have hcons : done ++ i :: places = done ++ [i] ++ places := by simp
    have hi : i ∉ done := fun hi =>
      List.disjoint_of_nodup_append hnodup hi List.mem_cons_self
    have hget := Table.getElem?_patchedAt u patch done i
    simp only [if_neg hi, Option.map_id'] at hget
    have hnext : ∀ hnot : ¬ u.Refuses patch done i, _ := fun hnot =>
      ih (hcons ▸ hnodup) (Table.passes_append_singleton.mpr ⟨hdone, hnot⟩)
    rw [hcons, patchRows, hget]
    cases hrow : u.rows[i]? with
    | none =>
      have hnot : ¬ u.Refuses patch done i := by
        rintro ⟨row, hrow', -⟩
        rw [hrow] at hrow'
        cases hrow'
      have hpatched := hnext hnot
      rwa [Table.patchedAt_append_of_none hrow] at hpatched
    | some row =>
      dsimp only
      cases hclash : (u.patchedAt patch done).clash? (row.patched patch) (some i) with
      | none =>
        have hnot : ¬ u.Refuses patch done i := by
          rw [Table.refuses_iff hrow, hclash]
          exact Bool.false_ne_true
        have hpatched := hnext hnot
        rwa [Table.patchedAt_append_of_row hrow] at hpatched
      | some clash =>
        have hrefused : u.Refuses patch done i := by
          rw [Table.refuses_iff hrow, hclash]
          rfl
        exact .inr ⟨done, _, ⟨⟨i, List.prefix_append _ _, hrefused⟩, hdone⟩, rfl⟩

theorem patchRows_cases (table : String) {places : List Nat} (hnodup : places.Nodup) :
    (u.Passes patch places ∧
      patchRows table patch places u = (.ok (), u.patchedAt patch places)) ∨
    ∃ front f, u.Stops patch places front ∧
      patchRows table patch places u = (.error f, u.patchedAt patch front) := by
  have hpatched := patchRows_patchedAt table (by rwa [List.nil_append]) (Table.passes_nil u patch)
  rwa [List.nil_append, Table.patchedAt_nil] at hpatched

theorem nodup_placesOf (u : Table) (column value : String) : (placesOf u column value).Nodup := by
  have hsublist : (placesOf u column value).Sublist (u.rows.zipIdx.map Prod.snd) :=
    List.filter_sublist.map _
  refine hsublist.nodup ?_
  rw [List.zipIdx_map_snd]
  exact List.nodup_range'

/-- What the triggers reply and leave once the rows with an id were patched. -/
def fired (t : Tables) (table : String) (u : Table) (idColumn id : String) (patch : Row) :
    Reply Unit × Tables :=
  fireAll id (t.triggers.filter (·.ownerTable == table))
    ((t.put table (u.patchedAt patch (placesOf u idColumn id))).wrote
      (placesOf u idColumn id).length)

/-- How an update of a table goes: a row is refused, or there is no row, or the triggers follow. -/
theorem updateById_cases (hu : t.find? table = some u) (idColumn id : String) (patch : Row) :
    (∃ front f, u.Stops patch (placesOf u idColumn id) front ∧
      t.updateById table idColumn id patch = (.error f, t.put table (u.patchedAt patch front))) ∨
    (placesOf u idColumn id = [] ∧ t.updateById table idColumn id patch = (.ok 0, t)) ∨
    (u.Passes patch (placesOf u idColumn id) ∧ placesOf u idColumn id ≠ [] ∧
      t.updateById table idColumn id patch =
        ((t.fired table u idColumn id patch).1.map fun _ => (placesOf u idColumn id).length,
          (t.fired table u idColumn id patch).2)) := by
  rw [updateById, changing, hu]
  dsimp only
  rcases patchRows_cases table (nodup_placesOf u idColumn id) with
    ⟨hpasses, heq⟩ | ⟨front, f, hstops, heq⟩
  · right
    rw [heq]
    dsimp only
    by_cases hplaces : placesOf u idColumn id = []
    · refine .inl ⟨hplaces, ?_⟩
      rw [hplaces, Table.patchedAt_nil, put_of_find? hu]
      rfl
    · refine .inr ⟨hpasses, hplaces, ?_⟩
      have hfired : fireAll id
          (((t.put table (u.patchedAt patch (placesOf u idColumn id))).wrote
            (placesOf u idColumn id).length).triggers.filter (·.ownerTable == table))
          ((t.put table (u.patchedAt patch (placesOf u idColumn id))).wrote
            (placesOf u idColumn id).length) = t.fired table u idColumn id patch := by
        rw [fired, triggers_wrote]
        rfl
      rw [if_neg (by simpa using hplaces), hfired]
      rcases t.fired table u idColumn id patch with ⟨_ | _, _⟩ <;> rfl
  · rw [heq]
    exact .inl ⟨front, f, hstops, rfl⟩

/-! ## Failures without a trace -/

/-- Tables with the same rows, and with as many calls that changed some. -/
structure Untouched (t t' : Tables) : Prop where
  rows : ∀ name, t'.rows name = t.rows name
  writes : t'.writes = t.writes

theorem Untouched.refl (t : Tables) : Untouched t t := ⟨fun _ => rfl, rfl⟩

/-- An update that is half done. -/
inductive Torn (t : Tables) : Request → Prop
  /-- A row is refused after another one was changed. -/
  | refused {table idColumn id : String} {patch row : Row} {u : Table} {front : List Nat} {i : Nat}
      (hu : t.find? table = some u) (hstops : u.Stops patch (placesOf u idColumn id) front)
      (hi : i ∈ front) (hrow : u.rows[i]? = some row) (hchanged : row.patched patch ≠ row) :
      Torn t (.updateById table idColumn id patch)
  /-- There is a row, none is refused, and a trigger fails. -/
  | untriggered {table idColumn id : String} {patch : Row} {u : Table} {f : Failure}
      (hu : t.find? table = some u) (hpasses : u.Passes patch (placesOf u idColumn id))
      (hplaces : placesOf u idColumn id ≠ [])
      (hfired : (t.fired table u idColumn id patch).1 = .error f) :
      Torn t (.updateById table idColumn id patch)

theorem writes_le_insert (t : Tables) (table : String) (row : Row) :
    t.writes ≤ (t.insert table row).2.writes := by
  rw [insert, changing]
  split
  · split
    · exact le_rfl
    · exact Nat.le_succ _
  · exact le_rfl

theorem writes_le_fireAll (owner : String) (triggers : List DetailTrigger) (t : Tables) :
    t.writes ≤ (fireAll owner triggers t).2.writes :=
  fireAll_keeps (P := fun t t' => t.writes ≤ t'.writes) (fun _ => le_rfl) (fun _ _ _ => le_trans)
    (fun _ => le_rfl) writes_le_insert (fun _ _ => le_rfl) owner triggers t

/-- Once the triggers fire, the call is counted. -/
theorem writes_lt_fired (hplaces : placesOf u idColumn id ≠ []) :
    t.writes < (t.fired table u idColumn id patch).2.writes := by
  have hwrote : t.writes < ((t.put table (u.patchedAt patch (placesOf u idColumn id))).wrote
      (placesOf u idColumn id).length).writes := by
    rw [wrote, if_neg (by simpa using hplaces)]
    exact Nat.lt_succ_self _
  exact hwrote.trans_le (writes_le_fireAll _ _ _)

theorem torn_iff (hu : t.find? table = some u) : t.Torn (.updateById table idColumn id patch) ↔
    (∃ front, u.Stops patch (placesOf u idColumn id) front ∧
      ∃ i ∈ front, ∃ row, u.rows[i]? = some row ∧ row.patched patch ≠ row) ∨
    u.Passes patch (placesOf u idColumn id) ∧ placesOf u idColumn id ≠ [] ∧
      ∃ f, (t.fired table u idColumn id patch).1 = .error f := by
  constructor
  · intro h
    cases h with
    | refused hu' hstops hi hrow hchanged =>
      obtain rfl := Option.some.inj (hu.symm.trans hu')
      exact .inl ⟨_, hstops, _, hi, _, hrow, hchanged⟩
    | untriggered hu' hpasses hplaces hfired =>
      obtain rfl := Option.some.inj (hu.symm.trans hu')
      exact .inr ⟨hpasses, hplaces, _, hfired⟩
  · rintro (⟨front, hstops, i, hi, row, hrow, hchanged⟩ | ⟨hpasses, hplaces, f, hfired⟩)
    · exact .refused hu hstops hi hrow hchanged
    · exact .untriggered hu hpasses hplaces hfired

/-- Patches that end early leave no trace just where they have changed no row. -/
theorem untouched_put_iff (hu : t.find? table = some u) (front : List Nat) :
    t.Untouched (t.put table (u.patchedAt patch front)) ↔
      ¬ ∃ i ∈ front, ∃ row, u.rows[i]? = some row ∧ row.patched patch ≠ row := by
  have hsame : t.Untouched (t.put table (u.patchedAt patch front)) ↔
      (u.patchedAt patch front).rows = u.rows := by
    constructor
    · intro h
      have hrows := h.rows table
      rwa [rows_put, if_pos rfl, rows_of_find? hu] at hrows
    · refine fun h => ⟨fun name => ?_, rfl⟩
      rw [rows_put]
      split
      · next hname => rw [h, hname, rows_of_find? hu]
      · rfl
  rw [hsame, Table.rows_patchedAt_eq_iff]
  simp only [not_exists, not_and, not_not]

/-- An update leaves a trace of its failure just where it is half done. -/
theorem updateById_untouched_iff (t : Tables) (table idColumn id : String) (patch : Row) :
    ((∃ f, (t.updateById table idColumn id patch).1 = .error f) →
      t.Untouched (t.updateById table idColumn id patch).2) ↔
    ¬ t.Torn (.updateById table idColumn id patch) := by
  cases hu : t.find? table with
  | none =>
    have hsame : (t.updateById table idColumn id patch).2 = t := by
      rw [updateById, changing, hu]
    refine iff_of_true (fun _ => hsame.symm ▸ .refl t) fun htorn => ?_
    cases htorn with
    | refused hu' => cases hu.symm.trans hu'
    | untriggered hu' => cases hu.symm.trans hu'
  | some u =>
    rw [torn_iff hu]
    rcases updateById_cases hu idColumn id patch with
      ⟨front, f, hstops, heq⟩ | ⟨hplaces, heq⟩ | ⟨hpasses, hplaces, heq⟩
    · have hfails : ∃ e, (t.updateById table idColumn id patch).1 = .error e := ⟨f, by rw [heq]⟩
      rw [forall_prop_of_true hfails, heq, untouched_put_iff hu]
      refine not_congr ⟨fun hchanged => .inl ⟨front, hstops, hchanged⟩, ?_⟩
      rintro (⟨front', hstops', hchanged⟩ | ⟨hpasses, -⟩)
      · rwa [hstops.unique hstops']
      · exact absurd hpasses hstops.not_passes
    · refine iff_of_true ?_ ?_
      · rintro ⟨f, hf⟩
        rw [heq] at hf
        cases hf
      · rintro (⟨front, ⟨⟨i, hprefix, -⟩, -⟩, -⟩ | ⟨-, hne, -⟩)
        · simp [hplaces] at hprefix
        · exact hne hplaces
    · rw [heq]
      constructor
      · rintro huntouched (⟨front, hstops, -⟩ | ⟨-, -, f, hf⟩)
        · exact hstops.not_passes hpasses
        · -- The failed call is counted as one that changed rows.
          have hcounted := (huntouched ⟨f, by rw [hf]; rfl⟩).writes
          exact absurd hcounted (writes_lt_fired hplaces).ne'
      · rintro hnot ⟨f, hf⟩
        refine absurd (.inr ⟨hpasses, hplaces, ?_⟩) hnot
        cases hfired : (t.fired table u idColumn id patch).1 with
        | ok a =>
          rw [hfired] at hf
          cases hf
        | error e => exact ⟨e, rfl⟩

theorem insertRow_eq_of_error {row : Row} (hf : (t.insertRow table row).1 = .error f) :
    (t.insertRow table row).2 = t := by
  rw [insertRow] at hf ⊢
  rcases insert_cases t table row with ⟨after, heq, -⟩ | heq | ⟨u, column, value, -, -, heq⟩
  · rw [heq] at hf
    cases hf
  · rw [heq]
  · rw [heq]

theorem deleteIds_eq_of_error {column : String} {ids : List String}
    (hf : (t.deleteIds table column ids).1 = .error f) :
    (t.deleteIds table column ids).2 = t := by
  rw [deleteIds] at hf ⊢
  split
  · rfl
  · next hnone =>
    rw [hnone] at hf
    dsimp only at hf
    rw [changing] at hf ⊢
    cases hu : t.find? table with
    | none => rfl
    | some u =>
      rw [hu] at hf
      cases hf

/-- Any other call that fails leaves all as it is. -/
theorem call_eq_of_error (hf : (call r t).1 = .error f)
    (hr : ∀ table idColumn id patch, r ≠ .updateById table idColumn id patch) :
    (call r t).2 = t := by
  cases r with
  | updateById table idColumn id patch => exact absurd rfl (hr table idColumn id patch)
  | repoint table column source target => exact (repoint_eq_error hf).2
  | deleteIds table column ids => exact deleteIds_eq_of_error hf
  | deleteWhere table column value => exact deleteIds_eq_of_error hf
  | insertRow table row => exact insertRow_eq_of_error hf
  | _ => rfl

/-- A call that fails leaves no trace, unless it is an update that is half done. Any other call that
fails leaves all as it is. -/
theorem call_error_untouched_iff (t : Tables) (r : Request) :
    (((∃ f, (call r t).1 = .error f) → t.Untouched (call r t).2) ↔ ¬ t.Torn r) ∧
    ∀ f, (call r t).1 = .error f →
      (∀ table idColumn id patch, r ≠ .updateById table idColumn id patch) → (call r t).2 = t := by
  refine ⟨?_, fun f hf hr => call_eq_of_error hf hr⟩
  by_cases hr : ∀ table idColumn id patch, r ≠ .updateById table idColumn id patch
  · refine iff_of_true ?_ fun htorn => ?_
    · rintro ⟨f, hf⟩
      rw [call_eq_of_error hf hr]
      exact .refl t
    · cases htorn with
      | refused => exact hr _ _ _ _ rfl
      | untriggered => exact hr _ _ _ _ rfl
  · simp only [not_forall, not_not] at hr
    obtain ⟨table, idColumn, id, patch, rfl⟩ := hr
    exact updateById_untouched_iff t table idColumn id patch

end Tables

namespace TornSample

/-- Two holdings of one region, of which no two may have one code. -/
def tables : Tables where
  clock := (Instant.ofEpoch? 86400 0).get rfl
  tables := [("holdings", {
    columns := ["id", "region_id", "code"]
    unique := ["code"]
    rows := [[("code", .str "a"), ("id", .str "h1"), ("region_id", .str "r1")],
      [("code", .str "b"), ("id", .str "h2"), ("region_id", .str "r1")]] })]

/-- One code for the holdings of the region. -/
def recode : Request := .updateById "holdings" "region_id" "r1" [("code", .str "c")]

end TornSample

/-- The second holding is refused after the first one got the code, which it keeps. -/
theorem call_error_untouched_iff_sample :
    (∃ f, (Tables.call TornSample.recode TornSample.tables).1 = .error f) ∧
    ¬ TornSample.tables.Untouched (Tables.call TornSample.recode TornSample.tables).2 := by
  have hfirst : ∀ u, TornSample.tables.find? "holdings" = some u →
      u.Stops [("code", .str "c")] (Tables.placesOf u "region_id" "r1") [0] := by
    rintro u hu
    cases hu
    refine ⟨⟨1, by decide +kernel, _, rfl, by decide +kernel⟩, ?_⟩
    rw [← List.nil_append [0], Table.passes_append_singleton]
    refine ⟨Table.passes_nil _ _, ?_⟩
    rintro ⟨row, hrow, hclash⟩
    cases hrow
    revert hclash
    decide +kernel
  have htorn : TornSample.tables.Torn TornSample.recode := by
    refine .refused rfl (hfirst _ rfl) List.mem_cons_self rfl fun hsame => ?_
    exact absurd (congrArg (Row.text? · "code") hsame) (by decide +kernel)
  obtain ⟨hiff, -⟩ := Tables.call_error_untouched_iff TornSample.tables TornSample.recode
  exact ⟨⟨_, rfl⟩, fun huntouched => hiff.mp (fun _ => huntouched) htorn⟩

end RegistryDedup
