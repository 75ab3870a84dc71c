import RegistryDedup.Proofs.Detail.OwnerUpdate
import RegistryDedup.Proofs.Store.Growth
import RegistryDedup.Proofs.Store.Struck

/-!
# What an update of an owner leaves alone

The details of an owner are deleted before the owner is updated. From then on rows are only added,
but for the patch of the owner itself: by triggers, where the owner has no detail, and by the insert
at the end, once a count has found none. So the owner cannot get two details, wherever the update
fails.

- `Tables.Restored`: what the second part of an update may do to tables.
- `struck_updateAndRestore`: the second part does nothing else, behind any schedule of faults.
- `updateOwner_details`: what a whole update leaves of the rows that were there.
-/

namespace RegistryDedup

open Interface.Environment

variable {policy : RetryPolicy} {update : RowUpdate} {detail : DetailTable} {template : Row}
  {h : Transcript} {t t' : Tables} {may : String → Prop} {removed : Nat}

/-! ## After the details were deleted -/

/-- The rows of the owner were patched, and then rows were added. -/
def Tables.Restored (may : String → Prop) (update : RowUpdate) (detail : DetailTable)
    (t t' : Tables) : Prop :=
  ∃ mid, Tables.Patched update.table update.idColumn update.id t mid ∧
    Tables.Grown may detail update.id mid t'

/-- An owner without details gets at most one. -/
theorem struck_insertDetail {reply : Reply OwnerUpdateOutcome} (hmay : may detail.table)
    (hnone : ∀ row ∈ t.rows detail.table, ¬ row.has detail.ownerColumn update.id)
    (hy : (insertDetail policy update.id detail template removed).Yields h reply)
    (hf : Tables.struck.Follows t h t') : Tables.Grown may detail update.id t t' := by
  obtain ⟨(time : Instant), rest, rfl, hy⟩ := hy
  obtain ⟨u, hnow, hf⟩ := hf
  obtain rfl : u = t := hnow
  change ((Run.insertRow policy "insert_detail" detail.table
    (detailRow detail update.id time template)).bind _).Yields rest reply at hy
  obtain ⟨inserted, h₁, h₂, rfl, hinsert, hy⟩ := Program.yields_bind.mp hy
  obtain ⟨v, hf, hlast⟩ := follows_append.mp hf
  have hend : h₂ = [] := by
    match inserted, hy with
    | .ok (), hy => exact hy.1
    | .error e, hy =>
      dsimp only at hy
      split at hy <;> exact hy.1
  subst hend
  obtain rfl := hlast
  rcases struck_calling (by simp) hinsert hf with ⟨-, rfl⟩ | ⟨-, rfl⟩
  · exact .insertRow hmay fun _ => hnone
  · exact .refl _

/-- The second part of an update restores the details, wherever it fails. -/
theorem struck_updateAndRestore {reply : Reply OwnerUpdateOutcome} (hmay : may detail.table)
    (htriggers : ∀ trigger ∈ t.triggers, trigger.ownerTable = update.table →
      may trigger.detail.table ∧ (trigger.detail.table = detail.table → trigger.detail = detail))
    (hy : (updateAndRestore policy update detail template removed).Yields h reply)
    (hf : Tables.struck.Follows t h t') : Tables.Restored may update detail t t' := by
  change ((Run.updateById policy "update_dependent" update.table update.idColumn update.id
    update.patch).bind _).Yields h reply at hy
  obtain ⟨updated, h₁, rest, rfl, hupdate, hy⟩ := Program.yields_bind.mp hy
  obtain ⟨u, hf, hrest⟩ := follows_append.mp hf
  have hu : Tables.Restored may update detail t u := by
    rcases struck_calling (by simp) hupdate hf with ⟨-, rfl⟩ | ⟨-, rfl⟩
    · exact Tables.exists_patched_updateById htriggers update.patch
    · exact ⟨u, .refl u, .refl u⟩
  match updated, hy with
  | .error e, hy =>
    obtain ⟨rfl, -⟩ := hy
    obtain rfl := hrest
    exact hu
  | .ok 0, hy =>
    obtain ⟨rfl, -⟩ := hy
    obtain rfl := hrest
    exact hu
  | .ok (n + 1), hy =>
    change ((Run.countReferences policy "count_details" detail.table detail.ownerColumn
      update.id).bind _).Yields rest reply at hy
    obtain ⟨counted, h₂, h₃, rfl, hcount, hy⟩ := Program.yields_bind.mp hy
    obtain ⟨v, hf, hlast⟩ := follows_append.mp hrest
    -- A count changes nothing, and a number that it gives is the right one.
    have hcounted : v = u ∧ ∀ m, counted = .ok m →
        m = (u.rows detail.table).countP (·.has detail.ownerColumn update.id) := by
      rcases struck_calling (by simp) hcount hf with ⟨hreply, rfl⟩ | ⟨⟨f, herror⟩, rfl⟩
      · refine ⟨rfl, fun m hm => ?_⟩
        rw [hreply] at hm
        exact Tables.countReferences_eq_ok hm
      · refine ⟨rfl, fun m hm => ?_⟩
        rw [herror] at hm
        cases hm
    obtain ⟨rfl, hnumber⟩ := hcounted
    match counted, hy, hnumber with
    | .error e, hy, _ =>
      obtain ⟨rfl, -⟩ := hy
      obtain rfl := hlast
      exact hu
    | .ok 0, hy, hnumber =>
      have hnone := List.countP_eq_zero.mp (hnumber 0 rfl).symm
      obtain ⟨mid, hpatched, hgrown⟩ := hu
      exact ⟨mid, hpatched, hgrown.trans (struck_insertDetail hmay hnone hy hlast)⟩
    | .ok (m + 1), hy, _ =>
      obtain ⟨rfl, -⟩ := hy
      obtain rfl := hlast
      exact hu

/-! ## Whole updates -/

/-- The details of an owner were deleted. -/
def DetailsDeleted (h : Transcript) (detail : DetailTable) (owner : String) : Prop :=
  ∃ n : Nat, ⟨Action.call (.deleteWhere detail.table detail.ownerColumn owner),
    Attempt.answered (.ok n)⟩ ∈ h

/-- A table to which an update may add details. -/
def MayGrow (triggers : List DetailTrigger) (update : RowUpdate) (detail : DetailTable)
    (name : String) : Prop :=
  name = detail.table ∨
    ∃ trigger ∈ triggers, trigger.ownerTable = update.table ∧ trigger.detail.table = name

/-- An update deletes the details of its owner and then restores them, as far as it gets, or it
changes nothing. -/
theorem struck_updateOwner {result : Except Trouble OwnerUpdateOutcome}
    (htriggers : ∀ trigger ∈ t.triggers,
      trigger.detail.table = detail.table → trigger.detail = detail)
    (hy : (updateOwner policy update detail template).Yields h result)
    (hf : Tables.struck.Follows t h t') :
    (DetailsDeleted h detail update.id ∧
      ∃ u, (∀ name, u.rows name = if name = detail.table then
          (t.rows detail.table).filter fun row => !row.has detail.ownerColumn update.id
        else t.rows name) ∧
        Tables.Restored (MayGrow t.triggers update detail) update detail u t') ∨
      ¬ DetailsDeleted h detail update.id ∧ t' = t := by
  change ((Run.deleteWhere policy "delete_details" detail.table detail.ownerColumn
    update.id).bind _).Yields h result at hy
  obtain ⟨deleted, h₁, rest, rfl, hdelete, hy⟩ := Program.yields_bind.mp hy
  obtain ⟨u, hf, hrest⟩ := follows_append.mp hf
  have hanswered := Run.exists_answered_iff hdelete
  have hcall := struck_calling (by simp) hdelete hf
  dsimp only [Tables.call] at hcall
  cases deleted with
  | error e =>
    -- What was answered with a failure has changed nothing, whether or not the tables were asked.
    obtain ⟨rfl, -⟩ := hy
    obtain rfl := hrest
    refine .inr ⟨?_, ?_⟩
    · rintro ⟨n, hmem⟩
      rw [List.append_nil] at hmem
      obtain ⟨m, hm⟩ := hanswered.mp ⟨n, hmem⟩
      cases hm
    · rcases hcall with ⟨hreply, rfl⟩ | ⟨-, rfl⟩
      · rcases Tables.deleteIds_cases t detail.table detail.ownerColumn update.id with
          ⟨-, n, hok⟩ | ⟨f, hsame⟩
        · rw [hok] at hreply
          cases hreply
        · rw [hsame]
      · rfl
  | ok removed =>
    obtain ⟨n, hn⟩ := hanswered.mpr ⟨removed, rfl⟩
    refine .inl ⟨⟨n, List.mem_append_left _ hn⟩, u, ?_⟩
    rcases hcall with ⟨hreply, rfl⟩ | ⟨⟨f, hfailed⟩, -⟩
    · rcases Tables.deleteIds_cases t detail.table detail.ownerColumn update.id with
        ⟨hallowed, -⟩ | ⟨f, hsame⟩
      · refine ⟨Tables.rows_deleteIds hallowed _, ?_⟩
        change ((updateAndRestore policy update detail template removed).bind _).Yields rest _ at hy
        obtain ⟨restored, h₂, h₃, rfl, hrestore, hy⟩ := Program.yields_bind.mp hy
        obtain ⟨v, hf, hlast⟩ := follows_append.mp hrest
        have hend : h₃ = [] := by
          cases restored with
          | ok outcome => exact hy.1
          | error e =>
            dsimp only at hy
            split at hy <;> exact hy.1
        subst hend
        obtain rfl := hlast
        refine struck_updateAndRestore (.inl rfl) (fun trigger hmem htable => ?_) hrestore hf
        rw [Tables.triggers_deleteIds] at hmem
        exact ⟨.inr ⟨trigger, hmem, htable, rfl⟩, htriggers trigger hmem⟩
      · rw [hsame] at hreply
        cases hreply
    · cases hfailed

/-- An update leaves all details of other owners and all other rows of its table as they are, behind
any schedule of faults and wherever it fails. Once the details of its own owner were deleted, the
owner ends up with at most one, and until then nothing is changed. All other tables are at most
added to, by triggers. -/
theorem updateOwner_details {result : Except Trouble OwnerUpdateOutcome}
    (htable : update.table ≠ detail.table)
    (htriggers : ∀ trigger ∈ t.triggers,
      trigger.detail.table = detail.table → trigger.detail = detail)
    (hy : (updateOwner policy update detail template).Yields h result)
    (hf : Tables.struck.Follows t h t') :
    (DetailsDeleted h detail update.id →
      (t'.rows detail.table).countP (·.has detail.ownerColumn update.id) ≤ 1) ∧
    (¬ DetailsDeleted h detail update.id → ∀ name, t'.rows name = t.rows name) ∧
    ((t.rows detail.table).filter fun row => !row.has detail.ownerColumn update.id).Sublist
      (t'.rows detail.table) ∧
    ((t.rows update.table).filter fun row => !row.has update.idColumn update.id).Sublist
      (t'.rows update.table) ∧
    ∀ name, name ≠ detail.table → name ≠ update.table →
      t.rows name <+: t'.rows name ∧
        (t'.rows name ≠ t.rows name → ∃ trigger ∈ t.triggers,
          trigger.ownerTable = update.table ∧ trigger.detail.table = name) := by
  rcases struck_updateOwner htriggers hy hf with
    ⟨hdeleted, u, hu, mid, hpatched, hgrown⟩ | ⟨hnot, rfl⟩
  · have hdetails : mid.rows detail.table =
        (t.rows detail.table).filter fun row => !row.has detail.ownerColumn update.id := by
      rw [hpatched.elsewhere _ htable.symm, hu, if_pos rfl]
    have hnone : (mid.rows detail.table).countP (·.has detail.ownerColumn update.id) = 0 := by
      rw [hdetails, List.countP_eq_zero]
      intro row hrow hhas
      rw [List.mem_filter, hhas] at hrow
      cases hrow.2
    refine ⟨fun _ => hgrown.single (by omega), fun hnot => absurd hdeleted hnot, ?_, ?_, ?_⟩
    · rw [← hdetails]
      exact (hgrown.before _).sublist
    · have hkept := hpatched.rows.sublist
      rw [hu, if_neg htable] at hkept
      exact hkept.trans (hgrown.before _).sublist
    · intro name hdetail hupdate
      have hsame : mid.rows name = t.rows name := by
        rw [hpatched.elsewhere _ hupdate, hu, if_neg hdetail]
      rw [← hsame]
      refine ⟨hgrown.before name, fun hne => ?_⟩
      by_contra hnot
      refine hne (hgrown.elsewhere name ?_)
      rintro (heq | htrigger)
      · exact hdetail heq
      · exact hnot htrigger
  · exact ⟨fun hdeleted => absurd hdeleted hnot, fun _ _ => rfl, List.filter_sublist,
      List.filter_sublist, fun name _ _ => ⟨List.prefix_rfl, fun hne => absurd rfl hne⟩⟩

namespace OwnerSample

/-- The holdings with a trigger that gives each of them an institution. -/
def triggering : Tables :=
  { tables with triggers := [⟨"holdings", institutions⟩] }

/-- The first attempt to update a holding is struck. -/
def struckWorld : World (Faulty Tables) where
  state :=
    { inner := triggering
      faults := [⟨"update_by_id", .reported .transient "connection lost", 0, 1⟩] }
  directory := ⟨"/", []⟩
  clock := tables.clock
  process := 1

/-- The first holding verified, with another attempt for each call. -/
def retrying : Run (Except Trouble OwnerUpdateOutcome) :=
  updateOwner { maxAttempts := 2 } verified institutions taken

/-- What this update asks. -/
def struckTranscript : Transcript :=
  retrying.transcript (World.answer (Faulty.store Tables.store)) struckWorld

/-- The tables after this update. -/
def struckEnd : Tables :=
  (retrying.run (World.answer (Faulty.store Tables.store)) struckWorld).2.state.inner

end OwnerSample

/-- The trigger has given the first holding another institution. -/
theorem updateOwner_details_sample :
    OwnerSample.retrying.Yields OwnerSample.struckTranscript (.ok ⟨1, .trigger⟩) ∧
    (OwnerSample.struckEnd.rows "institutions").map (·.text? "id") =
      [some "i2", some "auto-1"] ∧
    DetailsDeleted OwnerSample.struckTranscript OwnerSample.institutions "h1" ∧
    (OwnerSample.struckEnd.rows "institutions").countP (·.has "holding_id" "h1") ≤ 1 ∧
    ((OwnerSample.tables.rows "institutions").filter fun row =>
      !row.has "holding_id" "h1").Sublist (OwnerSample.struckEnd.rows "institutions") ∧
    ((OwnerSample.tables.rows "holdings").filter fun row => !row.has "id" "h1").Sublist
      (OwnerSample.struckEnd.rows "holdings") := by
  have hresult : (OwnerSample.retrying.run (World.answer (Faulty.store Tables.store))
      OwnerSample.struckWorld).1 = .ok ⟨1, .trigger⟩ := by rfl
  have hyields := Program.yields_transcript (World.answer (Faulty.store Tables.store))
    OwnerSample.retrying OwnerSample.struckWorld
  rw [hresult] at hyields
  have htriggers : ∀ trigger ∈ OwnerSample.triggering.triggers,
      trigger.detail.table = OwnerSample.institutions.table →
        trigger.detail = OwnerSample.institutions := by
    intro trigger hmem _
    rw [List.mem_singleton.mp hmem]
  have hdeleted : DetailsDeleted OwnerSample.struckTranscript OwnerSample.institutions "h1" :=
    ⟨1, .head _⟩
  obtain ⟨hsingle, -, hdetails, hrows, -⟩ := updateOwner_details (by decide) htriggers hyields
    (Program.follows_transcript (·.state.inner) struck_answer _ OwnerSample.struckWorld)
  exact ⟨hyields, by decide +kernel, hdeleted, hsingle hdeleted, hdetails, hrows⟩

end RegistryDedup
