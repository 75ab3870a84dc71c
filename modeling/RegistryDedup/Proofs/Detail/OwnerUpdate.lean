import RegistryDedup.Detail.OwnerUpdate
import RegistryDedup.Proofs.Store.Truthful

/-!
# The detail of an updated row

A row is updated after its details were deleted, and a detail is inserted unless a trigger has added
one. An insert that is refused because it would repeat a text counts as one that came after the
trigger. Which column the text is in is not looked at, and that is where an owner can be left
without a detail.

- `UpdateCourse`: the ways to go through an update that comes to its end, with the tables that each
  of them leaves.
- `updateOwner_unowned_iff`: an owner is left without a detail just where the insert was refused,
  and then the text that it would have repeated is in a column other than that of the owner.
-/

namespace RegistryDedup

open Interface.Environment

variable {policy : RetryPolicy} {update : RowUpdate} {detail : DetailTable} {template : Row}
  {outcome : OwnerUpdateOutcome} {h : Transcript} {t t' : Tables}

/-! ## The row that is inserted -/

/-- The detail that is inserted is one of its owner, also where the owner and the time of creation
are in one column. -/
theorem text?_detailRow (detail : DetailTable) (owner : String) (time : Instant) (template : Row) :
    (detailRow detail owner time template).text? detail.ownerColumn = some owner := by
  have howned : (Row.set template detail.ownerColumn (.str owner)).text? detail.ownerColumn =
      some owner := by
    rw [Row.text?_set, if_pos rfl]
    rfl
  rw [detailRow]
  split
  · exact howned
  · next hmissing =>
    have hne : detail.ownerColumn ≠ detail.createdColumn := by
      intro heq
      rw [← heq, Row.get?_set, if_pos rfl] at hmissing
      exact hmissing rfl
    rw [Row.text?_set, if_neg hne]
    exact howned

/-- The text that a row would repeat is in a column without repetition, and in another row. -/
theorem clash?_eq_some {u : Table} {row : Row} {column value : String}
    (hclash : u.clash? row none = some (column, value)) :
    column ∈ u.unique ∧ row.text? column = some value ∧
      ∃ other ∈ u.rows, other.text? column = some value := by
  obtain ⟨c, hc, hfound⟩ := List.exists_of_findSome?_eq_some hclash
  cases htext : row.text? c with
  | none =>
    rw [htext] at hfound
    cases hfound
  | some text =>
    rw [htext] at hfound
    dsimp only at hfound
    split at hfound
    · next hholds =>
      cases hfound
      refine ⟨hc, htext, ?_⟩
      obtain ⟨⟨other, i⟩, hmem, hhas⟩ := List.any_eq_true.mp hholds
      rw [Bool.and_eq_true] at hhas
      exact ⟨other, (List.mem_zipIdx' hmem).2 ▸ List.getElem_mem _, Row.has_iff.mp hhas.2⟩
    · cases hfound

/-! ## The course of an update -/

/-- The insert of a row was refused, because it would repeat a text in a column. -/
def InsertRefused (h : Transcript) (table : String) (row : Row) (column value : String) : Prop :=
  ⟨Action.call (.insertRow table row),
    Attempt.answered (.error (.duplicateValue table column value))⟩ ∈ h

/-- What is not asked is not refused. -/
theorem not_insertRefused (hh : ∀ e ∈ h, ∀ table row, e.1 ≠ .call (.insertRow table row))
    (table : String) (row : Row) (column value : String) :
    ¬ InsertRefused h table row column value :=
  fun hrefused => hh _ hrefused table row rfl

theorem insertRefused_append {h₁ h₂ : Transcript} {table : String} {row : Row}
    {column value : String} : InsertRefused (h₁ ++ h₂) table row column value ↔
      InsertRefused h₁ table row column value ∨ InsertRefused h₂ table row column value :=
  List.mem_append

/-- The ways to go through an update that comes to its end. -/
inductive UpdateCourse (detail : DetailTable) (owner : String) (template : Row) (h : Transcript)
    (t : Tables) : DetailSource → Prop where
  /-- The owner has a detail, and no insert was refused. -/
  | owned {source : DetailSource}
      (hrow : ∃ row ∈ t.rows detail.table, row.text? detail.ownerColumn = some owner)
      (hfine : ∀ row column value, ¬ InsertRefused h detail.table row column value) :
      UpdateCourse detail owner template h t source
  /-- The owner had no detail, and the insert of one was refused. -/
  | refused {u : Table} {time : Instant} {column value : String}
      (hnone : ∀ row ∈ t.rows detail.table, row.text? detail.ownerColumn ≠ some owner)
      (hu : t.find? detail.table = some u)
      (hclash : u.clash? (detailRow detail owner time template) none = some (column, value))
      (hrefused :
        InsertRefused h detail.table (detailRow detail owner time template) column value) :
      UpdateCourse detail owner template h t .trigger

/-- What the course of an update is does not depend on calls that insert nothing. -/
theorem UpdateCourse.append {h' : Transcript} {owner : String} {source : DetailSource}
    (hcourse : UpdateCourse detail owner template h' t source)
    (hh : ∀ e ∈ h, ∀ table row, e.1 ≠ .call (.insertRow table row)) :
    UpdateCourse detail owner template (h ++ h') t source := by
  cases hcourse with
  | owned hrow hfine =>
    refine .owned hrow fun row column value hrefused => ?_
    rcases insertRefused_append.mp hrefused with hrefused | hrefused
    · exact not_insertRefused hh _ _ _ _ hrefused
    · exact hfine _ _ _ hrefused
  | refused hnone hu hclash hrefused =>
    exact .refused hnone hu hclash (insertRefused_append.mpr (.inr hrefused))

/-- A call that is no insert. -/
theorem not_insert_of_calling {r : Request} {operation : String}
    {reply : Reply r.Answer} (hy : (Run.calling policy operation r).Yields h reply)
    (hr : ∀ table row, r ≠ .insertRow table row) :
    ∀ e ∈ h, ∀ table row, e.1 ≠ .call (.insertRow table row) := by
  intro e he table row heq
  have hcall : e.1 = .call r := Run.only_calling.yields hy e he
  rw [hcall] at heq
  exact hr table row (Action.call.inj heq)

theorem yields_insertDetail {removed : Nat}
    (hnone : ∀ row ∈ t.rows detail.table, row.text? detail.ownerColumn ≠ some update.id)
    (hy : (insertDetail policy update.id detail template removed).Yields h (.ok outcome))
    (hf : Tables.truthful.Follows t h t') :
    UpdateCourse detail update.id template h t' outcome.source := by
  obtain ⟨(time : Instant), rest, rfl, hy⟩ := hy
  obtain ⟨u, hnow, hf⟩ := hf
  obtain rfl : u = t := hnow
  change ((Run.insertRow policy "insert_detail" detail.table
    (detailRow detail update.id time template)).bind _).Yields rest
    (Except.ok outcome : Reply OwnerUpdateOutcome) at hy
  obtain ⟨reply, h₁, h₂, rfl, hinsert, hy⟩ := Program.yields_bind.mp hy
  obtain ⟨v, hf, hlast⟩ := follows_append.mp hf
  obtain ⟨hreply, hv, hsome, hall⟩ := truthful_calling hinsert hf
  dsimp only [Tables.call, Tables.insertRow] at hreply hv hall
  rcases Tables.insert_cases u detail.table (detailRow detail update.id time template) with
    ⟨after, heq, hrow⟩ | heq | ⟨w, column, value, hw, hclash, heq⟩
  · -- The row that was added is a detail of the owner.
    rw [heq] at hreply hv hall
    dsimp only at hreply hv hall
    rw [hreply] at hy
    obtain ⟨rfl, hout⟩ := hy
    obtain rfl := hlast
    refine .owned ⟨_, ?_, text?_detailRow detail update.id time template⟩ ?_
    · rw [hv]
      exact hrow
    · intro row column value hrefused
      rcases List.mem_cons.mp hrefused with hmem | hmem
      · cases hmem
      · rw [List.append_nil] at hmem
        cases hall _ hmem
  · rw [heq] at hreply
    dsimp only at hreply
    rw [hreply] at hy
    cases hy.2
  · rw [heq] at hreply hv hall
    dsimp only at hreply hv hall
    rw [hreply] at hy
    obtain ⟨rfl, hout⟩ := hy
    obtain rfl := hlast
    cases hout
    subst hv
    refine .refused hnone hw hclash (List.mem_cons_of_mem _ ?_)
    obtain ⟨e, he⟩ := List.exists_mem_of_ne_nil h₁ hsome
    rw [List.append_nil]
    exact hall e he ▸ he

theorem yields_updateAndRestore {removed : Nat}
    (hy : (updateAndRestore policy update detail template removed).Yields h (.ok outcome))
    (hf : Tables.truthful.Follows t h t') :
    UpdateCourse detail update.id template h t' outcome.source := by
  change ((Run.updateById policy "update_dependent" update.table update.idColumn update.id
    update.patch).bind _).Yields h (Except.ok outcome : Reply OwnerUpdateOutcome) at hy
  obtain ⟨updated, h₁, rest, rfl, hupdate, hy⟩ := Program.yields_bind.mp hy
  obtain ⟨u, -, hf⟩ := follows_append.mp hf
  refine UpdateCourse.append ?_ (not_insert_of_calling hupdate nofun)
  match updated, hy with
  | .error e, hy => cases hy.2
  | .ok 0, hy => cases hy.2
  | .ok (n + 1), hy =>
    change ((Run.countReferences policy "count_details" detail.table detail.ownerColumn
      update.id).bind _).Yields rest (Except.ok outcome : Reply OwnerUpdateOutcome) at hy
    obtain ⟨counted, h₂, h₃, rfl, hcount, hy⟩ := Program.yields_bind.mp hy
    obtain ⟨v, hf, hlast⟩ := follows_append.mp hf
    refine UpdateCourse.append ?_ (not_insert_of_calling hcount nofun)
    obtain ⟨hreply, hv, -⟩ := truthful_calling hcount hf
    obtain rfl : v = u := hv
    dsimp only [Tables.call] at hreply
    -- What was counted is whether the owner has a detail.
    match counted, hy with
    | .error e, hy => cases hy.2
    | .ok 0, hy =>
      have hzero := Tables.countReferences_eq_ok hreply.symm
      refine yields_insertDetail ?_ hy hlast
      intro row hrow htext
      rw [eq_comm, List.countP_eq_zero] at hzero
      exact hzero row hrow (Row.has_iff.mpr htext)
    | .ok (m + 1), hy =>
      obtain ⟨rfl, hout⟩ := hy
      cases hout
      obtain rfl := hlast
      have hsome := Tables.countReferences_eq_ok hreply.symm
      have hpos : 0 < (t'.rows detail.table).countP (·.has detail.ownerColumn update.id) := by
        omega
      obtain ⟨row, hrow, hhas⟩ := List.countP_pos_iff.mp hpos
      exact .owned ⟨row, hrow, Row.has_iff.mp hhas⟩ fun _ _ _ hrefused => by cases hrefused

theorem yields_updateOwner
    (hy : (updateOwner policy update detail template).Yields h (.ok outcome))
    (hf : Tables.truthful.Follows t h t') :
    UpdateCourse detail update.id template h t' outcome.source := by
  change ((Run.deleteWhere policy "delete_details" detail.table detail.ownerColumn
    update.id).bind _).Yields h (Except.ok outcome : Except Trouble OwnerUpdateOutcome) at hy
  obtain ⟨deleted, h₁, rest, rfl, hdelete, hy⟩ := Program.yields_bind.mp hy
  obtain ⟨u, -, hf⟩ := follows_append.mp hf
  refine UpdateCourse.append ?_ (not_insert_of_calling hdelete nofun)
  cases deleted with
  | error e => cases hy.2
  | ok removed =>
    change ((updateAndRestore policy update detail template removed).bind _).Yields rest _ at hy
    obtain ⟨restored, h₂, h₃, rfl, hrestore, hy⟩ := Program.yields_bind.mp hy
    obtain ⟨v, hf, hlast⟩ := follows_append.mp hf
    cases restored with
    | error e =>
      dsimp only at hy
      split at hy <;> cases hy.2
    | ok restored =>
      obtain ⟨rfl, hout⟩ := hy
      cases hout
      obtain rfl := hlast
      rw [List.append_nil]
      exact yields_updateAndRestore hrestore hf

/-! ## Owners without a detail -/

/-- On tables in memory, an update that comes to its end leaves an owner without a detail just where
the insert of one was refused. What that detail would have repeated is not the owner: it is the text
of another column, in a row that is not a detail of this owner. Of a trigger, which is what such an
update reports, there is no trace. -/
theorem updateOwner_unowned_iff
    (hy : (updateOwner policy update detail template).Yields h (.ok outcome))
    (hf : Tables.truthful.Follows t h t') :
    (∀ row ∈ t'.rows detail.table, row.text? detail.ownerColumn ≠ some update.id) ↔
      outcome.source = .trigger ∧ ∃ u time column value, t'.find? detail.table = some u ∧
        column ∈ u.unique ∧ column ≠ detail.ownerColumn ∧
        (detailRow detail update.id time template).text? column = some value ∧
        (∃ other ∈ u.rows, other.text? column = some value) ∧
        InsertRefused h detail.table (detailRow detail update.id time template) column value := by
  have hcourse := yields_updateOwner hy hf
  generalize outcome.source = source at hcourse ⊢
  constructor
  · intro hnone
    cases hcourse with
    | owned hrow hfine =>
      obtain ⟨row, hmem, htext⟩ := hrow
      exact absurd htext (hnone row hmem)
    | @refused u time column value _ hu hclash hrefused =>
      obtain ⟨hunique, htext, other, hother, hheld⟩ := clash?_eq_some hclash
      refine ⟨rfl, u, time, column, value, hu, hunique, ?_, htext, ⟨other, hother, hheld⟩, hrefused⟩
      -- In the column of the owner the detail could only repeat the owner, who has no detail.
      rintro rfl
      rw [text?_detailRow] at htext
      cases htext
      rw [Tables.rows_of_find? hu] at hnone
      exact hnone other hother hheld
  · rintro ⟨-, u, time, column, value, -, -, -, -, -, hrefused⟩
    cases hcourse with
    | owned hrow hfine => exact absurd hrefused (hfine _ _ _)
    | refused hnone _ _ _ => exact hnone

namespace OwnerSample

/-- Two holdings with their institutions, whose ids may not occur twice. -/
def tables : Tables where
  clock := (Instant.ofEpoch? 0 0).get rfl
  tables := [
    ("holdings", {
      columns := ["id", "status"]
      rows := [[("id", .str "h1"), ("status", .str "open")],
        [("id", .str "h2"), ("status", .str "open")]] }),
    ("institutions", {
      columns := ["id", "holding_id", "created_at"]
      unique := ["id"]
      rows := [[("holding_id", .str "h1"), ("id", .str "i1")],
        [("holding_id", .str "h2"), ("id", .str "i2")]] })]

/-- The institutions of the holdings. -/
def institutions : DetailTable := ⟨"institutions", "id", "holding_id", "created_at"⟩

/-- The first holding verified. -/
def verified : RowUpdate := ⟨"holdings", "id", "h1", [("status", .str "verified")]⟩

/-- A template with the id of the other holding's institution. -/
def taken : Row := [("id", .str "i2")]

/-- The update of the first holding. -/
def program : Run (Except Trouble OwnerUpdateOutcome) :=
  updateOwner { maxAttempts := 1 } verified institutions taken

/-- The tables, and no file. -/
def world : World Tables :=
  ⟨tables, ⟨"/", []⟩, tables.clock, 1⟩

/-- What the update asks. -/
def transcript : Transcript :=
  program.transcript (World.answer Tables.store) world

/-- The tables after the update. -/
def after : Tables :=
  (program.run (World.answer Tables.store) world).2.state

end OwnerSample

/-- The first holding has lost its institution, since the template has the id of another one. -/
theorem updateOwner_unowned_iff_sample :
    OwnerSample.program.Yields OwnerSample.transcript (.ok ⟨1, .trigger⟩) ∧
    (OwnerSample.after.rows "institutions").map (·.text? "holding_id") = [some "h2"] ∧
    ((∀ row ∈ OwnerSample.after.rows "institutions", row.text? "holding_id" ≠ some "h1") ↔
      DetailSource.trigger = .trigger ∧ ∃ u time column value,
        OwnerSample.after.find? "institutions" = some u ∧ column ∈ u.unique ∧
        column ≠ "holding_id" ∧
        (detailRow OwnerSample.institutions "h1" time OwnerSample.taken).text? column =
          some value ∧
        (∃ other ∈ u.rows, other.text? column = some value) ∧
        InsertRefused OwnerSample.transcript "institutions"
          (detailRow OwnerSample.institutions "h1" time OwnerSample.taken) column value) := by
  have hresult : (OwnerSample.program.run (World.answer Tables.store) OwnerSample.world).1 =
      .ok ⟨1, .trigger⟩ := by rfl
  have hyields := Program.yields_transcript (World.answer Tables.store) OwnerSample.program
    OwnerSample.world
  rw [hresult] at hyields
  refine ⟨hyields, by decide +kernel, ?_⟩
  exact updateOwner_unowned_iff hyields
    (Program.follows_transcript World.state truthful_answer _ OwnerSample.world)

end RegistryDedup
