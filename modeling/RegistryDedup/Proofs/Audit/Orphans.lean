import RegistryDedup.Audit.Orphans
import RegistryDedup.Proofs.Store.Truthful
import RegistryDedup.Proofs.Text.ByteOrder

/-!
# What is orphaned

An audit of tables in memory finds all references to nothing, and only those. It compares a
reference with an id as a move does, by their texts. A string says itself, numbers and truth values
say how they are written, and anything else refers to nothing.

- `Json.Says`, `Row.Says`: the text of a cell.
- `Tables.Resolves`: a reference to an entity.
- `run_findOrphans`: the reports of an audit in which no call fails.
- `Audited`: what such reports say.
- `findOrphans_audited`: an audit in which no call fails has such reports, and changes nothing.
-/

namespace RegistryDedup

open Text Interface.Environment

/-! ## References -/

/-- A scalar says its text. Null, arrays and objects say nothing. -/
inductive Json.Says : Json → String → Prop
  | str (s : String) : Says (.str s) s
  | num (n : Number) : Says (.num n) (String.ofList n.text)
  | true : Says (.bool true) "true"
  | false : Says (.bool false) "false"

theorem Json.text?_eq_some_iff {value : Json} {text : String} :
    value.text? = some text ↔ value.Says text := by
  constructor
  · intro h
    unfold Json.text? at h
    split at h
    · cases h
      exact .str _
    · cases h
      exact .num _
    · cases h
      exact .true
    · cases h
      exact .false
    · cases h
  · intro h
    cases h <;> rfl

/-- A row says a text in a column. -/
def Row.Says (row : Row) (column text : String) : Prop :=
  ∃ value, Fields.get? row column = some value ∧ value.Says text

theorem Row.text?_eq_some_iff {row : Row} {column text : String} :
    row.text? column = some text ↔ row.Says column text := by
  rw [Row.text?, Option.bind_eq_some_iff]
  exact exists_congr fun value => and_congr_right fun _ => Json.text?_eq_some_iff

namespace Tables

variable {t : Tables} {table : EntityTable} {d : Dependent} {id text : String}

/-- A text is the id of an entity. -/
def Resolves (t : Tables) (table : EntityTable) (id : String) : Prop :=
  ∃ row ∈ t.rows table.table, row.Says table.idColumn id

/-- The texts of a column. -/
def values (t : Tables) (table column : String) : List String :=
  sortedTexts ((t.rows table).filterMap (·.text? column))

theorem mem_values {column : String} {name : String} :
    text ∈ t.values name column ↔ ∃ row ∈ t.rows name, row.Says column text := by
  rw [values, mem_sortedTexts, List.mem_filterMap]
  simp only [Row.text?_eq_some_iff]

/-- The ids of the entities. -/
def ids (t : Tables) (table : EntityTable) : List String :=
  ((t.rows table.table).filterMap (Row.entity? table)).map (·.id)

theorem mem_ids : id ∈ t.ids table ↔ t.Resolves table id := by
  have hid : ∀ row : Row, (Row.entity? table row).map (·.id) = row.text? table.idColumn := by
    intro row
    rw [Row.entity?]
    cases row.text? table.idColumn <;> rfl
  rw [ids, List.map_filterMap, List.mem_filterMap]
  simp only [hid, Row.text?_eq_some_iff]
  exact Iff.rfl

theorem fetchEntities_eq_ok {entities : List Entity} (h : t.fetchEntities table = .ok entities) :
    entities.map (·.id) = t.ids table := by
  obtain ⟨u, hu, hentities⟩ := reading_eq_ok.mp h
  rw [ids, rows_of_find? hu, ← Except.ok.inj hentities]

theorem distinctValues_eq_ok {column name : String} {found : List String}
    (h : t.distinctValues name column = .ok found) : found = t.values name column := by
  obtain ⟨u, hu, hfound⟩ := reading_eq_ok.mp h
  rw [values, rows_of_find? hu, ← Except.ok.inj hfound]

/-- The report on a dependent. -/
def orphanReport (t : Tables) (table : EntityTable) (d : Dependent) : OrphanReport :=
  ⟨d.table, d.column, (t.values d.table d.column).filter fun v => !(t.ids table).contains v⟩

/-- The texts of a dependent to which no entity belongs. -/
theorem mem_orphanReport : text ∈ (t.orphanReport table d).dangling ↔
    (∃ row ∈ t.rows d.table, row.Says d.column text) ∧ ¬ t.Resolves table text := by
  rw [orphanReport, List.mem_filter, mem_values, Bool.not_eq_true', ← Bool.not_eq_true,
    List.contains_iff_mem, mem_ids]

/-- They are in ascending order of their bytes, none of them twice. -/
theorem ascending_orphanReport (t : Tables) (table : EntityTable) (d : Dependent) :
    (t.orphanReport table d).dangling.Pairwise fun a b =>
      Utf8.encode a.toList < Utf8.encode b.toList :=
  ((pairwise_sortedTexts _).filter _).imp Utf8.encode_lt_encode_iff.mpr

end Tables

/-! ## Audits -/

variable {policy : RetryPolicy} {h : Transcript} {t t' : Tables} {table : EntityTable}
  {dependents : List Dependent} {reply : Reply (List OrphanReport)}

theorem truthful_auditDependents
    (hvalues : ∀ d ∈ dependents, ∃ values, t.distinctValues d.table d.column = .ok values)
    (hy : (auditDependents policy (t.ids table) dependents).Yields h reply)
    (hf : Tables.truthful.Follows t h t') :
    t' = t ∧ reply = .ok (dependents.map (t.orphanReport table)) := by
  induction dependents generalizing h reply t' with
  | nil =>
    obtain ⟨rfl, rfl⟩ := hy
    exact ⟨hf, rfl⟩
  | cons d dependents ih =>
    obtain ⟨⟨values, hd⟩, hrest⟩ := List.forall_mem_cons.mp hvalues
    rw [auditDependents, Program.bind_eq, Program.yields_bind] at hy
    obtain ⟨first, h₁, h₂, rfl, hcall, hy⟩ := hy
    obtain ⟨u, hf₁, hf₂⟩ := follows_append.mp hf
    obtain ⟨hfirst, hu, -⟩ := truthful_calling hcall hf₁
    obtain rfl : u = t := hu
    obtain rfl : first = .ok values := hfirst.trans hd
    obtain ⟨second, h₃, h₄, rfl, haudit, hy⟩ := Program.yields_bind.mp hy
    obtain ⟨v, hf₃, hf₄⟩ := follows_append.mp hf₂
    obtain ⟨rfl, rfl⟩ := ih hrest haudit hf₃
    obtain ⟨rfl, rfl⟩ := hy
    refine ⟨hf₄, ?_⟩
    rw [Tables.distinctValues_eq_ok hd]
    rfl

/-- An audit in which no call fails has a report for each dependent, and changes nothing. -/
theorem truthful_findOrphans
    (hfetch : ∃ entities, t.fetchEntities table = .ok entities)
    (hvalues : ∀ d ∈ dependents, ∃ values, t.distinctValues d.table d.column = .ok values)
    (hy : (findOrphans policy table dependents).Yields h reply)
    (hf : Tables.truthful.Follows t h t') :
    t' = t ∧ reply = .ok (dependents.map (t.orphanReport table)) := by
  obtain ⟨entities, hentities⟩ := hfetch
  rw [findOrphans, Program.bind_eq, Program.yields_bind] at hy
  obtain ⟨first, h₁, h₂, rfl, hcall, hy⟩ := hy
  obtain ⟨u, hf₁, hf₂⟩ := follows_append.mp hf
  obtain ⟨hfirst, hu, -⟩ := truthful_calling hcall hf₁
  obtain rfl : u = t := hu
  obtain rfl : first = .ok entities := hfirst.trans hentities
  dsimp only at hy
  rw [Tables.fetchEntities_eq_ok hentities] at hy
  exact truthful_auditDependents hvalues hy hf₂

/-- What the reports of an audit say: there is one for each dependent. It has the texts of the
dependent that are the id of no entity, in ascending order of their bytes and none of them twice.
There are none in any report just where every reference is one to an entity. -/
structure Audited (t : Tables) (table : EntityTable) (dependents : List Dependent)
    (reports : List OrphanReport) : Prop where
  each : reports.map (fun r => (⟨r.table, r.column⟩ : Dependent)) = dependents
  ascending : ∀ r ∈ reports, r.dangling.Pairwise fun a b =>
    Utf8.encode a.toList < Utf8.encode b.toList
  dangling : ∀ r ∈ reports, ∀ id, id ∈ r.dangling ↔
    (∃ row ∈ t.rows r.table, row.Says r.column id) ∧
      ∀ row ∈ t.rows table.table, ¬ row.Says table.idColumn id
  clean : (∀ r ∈ reports, r.dangling = []) ↔
    ∀ d ∈ dependents, ∀ row ∈ t.rows d.table, ∀ id, row.Says d.column id → t.Resolves table id

theorem audited_orphanReports (t : Tables) (table : EntityTable) (dependents : List Dependent) :
    Audited t table dependents (dependents.map (t.orphanReport table)) where
  each := by
    rw [List.map_map]
    exact List.map_id _
  ascending := List.forall_mem_map.mpr fun d _ => t.ascending_orphanReport table d
  dangling := List.forall_mem_map.mpr fun d _ id => by
    rw [Tables.mem_orphanReport, Tables.Resolves]
    simp only [not_exists, not_and]
    exact Iff.rfl
  clean := by
    rw [List.forall_mem_map]
    refine forall₂_congr fun d _ => ?_
    simp only [List.eq_nil_iff_forall_not_mem, Tables.mem_orphanReport, not_and, not_not]
    exact ⟨fun hall row hrow id hid => hall id ⟨row, hrow, hid⟩,
      fun hall id ⟨row, hrow, hid⟩ => hall row hrow id hid⟩

/-- An audit of tables in memory in which no call fails has reports, and they say just what is
orphaned. The tables stay as they are. -/
theorem findOrphans_audited {w : World Tables} (policy : RetryPolicy)
    (hfetch : ∃ entities, w.state.fetchEntities table = .ok entities)
    (hvalues : ∀ d ∈ dependents, ∃ values,
      w.state.distinctValues d.table d.column = .ok values) :
    ∃ reports,
      (World.perform Tables.store (findOrphans policy table dependents) w).1 = .ok reports ∧
      (World.perform Tables.store (findOrphans policy table dependents) w).2.state = w.state ∧
      Audited w.state table dependents reports := by
  obtain ⟨hstate, hreply⟩ := truthful_findOrphans hfetch hvalues
    (Program.yields_transcript (World.answer Tables.store) (findOrphans policy table dependents) w)
    (Program.follows_transcript World.state truthful_answer _ w)
  exact ⟨_, hreply, hstate, audited_orphanReports _ _ _⟩

namespace OrphanSample

/-- Two regions, the second of which has a number for an id, and projects in them and elsewhere. -/
def tables : Tables where
  clock := (Instant.ofEpoch? 259200 0).get rfl
  tables := [
    ("regions", { columns := ["id", "name"]
                  rows := [[("id", .str "r1")], [("id", .num (.int 7))]] }),
    ("projects", { columns := ["id", "region_id"]
                   rows := [[("region_id", .str "9")], [("region_id", .str "7")],
                     [("region_id", .null)], [("region_id", .num (.int 10))], [],
                     [("region_id", .bool true)], [("region_id", .str "10")]] })]

/-- The regions. -/
def regions : EntityTable := ⟨"regions", "id", "name", none⟩

/-- The projects. -/
def projects : List Dependent := [⟨"projects", "region_id"⟩]

/-- The tables, and no file. -/
def world : World Tables :=
  ⟨tables, ⟨"/", []⟩, tables.clock, 1⟩

end OrphanSample

/-- A number and a string of the same text are one reference, and the reports have their bytes in
order. -/
theorem findOrphans_audited_sample : ∃ reports,
    (World.perform Tables.store (findOrphans {} OrphanSample.regions OrphanSample.projects)
      OrphanSample.world).1 = .ok reports ∧
    reports = [⟨"projects", "region_id", ["10", "9", "true"]⟩] ∧
    Audited OrphanSample.tables OrphanSample.regions OrphanSample.projects reports := by
  have hvalues : ∀ d ∈ OrphanSample.projects, ∃ values,
      OrphanSample.world.state.distinctValues d.table d.column = .ok values :=
    List.forall_mem_singleton.mpr ⟨_, rfl⟩
  obtain ⟨reports, hresult, -, haudited⟩ :=
    @findOrphans_audited OrphanSample.regions _ OrphanSample.world {} ⟨_, rfl⟩ hvalues
  have hreports : (World.perform Tables.store
      (findOrphans {} OrphanSample.regions OrphanSample.projects) OrphanSample.world).1.toOption =
      some [⟨"projects", "region_id", ["10", "9", "true"]⟩] := by
    decide +kernel
  rw [hresult] at hreports
  exact ⟨reports, hresult, Option.some.inj hreports, haudited⟩

end RegistryDedup
