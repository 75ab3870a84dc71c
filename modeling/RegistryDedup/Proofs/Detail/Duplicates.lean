import RegistryDedup.Detail.Dedupe
import RegistryDedup.Proofs.Merge.Choice
import RegistryDedup.Proofs.Name.Grouping
import RegistryDedup.Store.Row

/-!
# Which details are stale

A record is stale if its owner has a newer one. Where no id comes up twice, the stale records are
just those that are found to be deleted, and each owner has one record that is not stale.

- `DetailRecord.rank`: what makes a record newer than another.
- `DetailRecord.Stale`, `DetailRecord.exists_newest`: each stale record has a newer one that is not
  stale. Records that are gone make no difference to the others as long as only stale ones are gone
  (`stale_iff_of_kept`).
- `extractBest_lastNewest`, `rank_le_of_extractBest`: the record that is split from the others.
- `mem_staleIds`, `duplicateDetails_eq_nil`: what is found to be deleted.
- `mem_duplicateOwners`: the owners that are found have more than one record.
-/

namespace RegistryDedup

variable {records kept rest : List DetailRecord} {r keep : DetailRecord} {owner id : String}

theorem olderCreated_iff (a b : Option Instant) :
    olderCreated a b = true ↔ createdOrFirst a < createdOrFirst b := by
  rcases b with _ | b
  · refine iff_of_false ?_ not_lt_bot
    cases a <;> exact Bool.false_ne_true
  · rcases a with _ | a
    · exact iff_of_true rfl (WithBot.bot_lt_coe _)
    · exact decide_eq_true_iff.trans WithBot.coe_lt_coe.symm

namespace DetailRecord

/-- The later a record was created the newer it is, and then the greater its id is. -/
def rank (r : DetailRecord) : WithBot Int ×ₗ String :=
  toLex (createdOrFirst r.created, r.id)

theorem isOlder_iff (a b : DetailRecord) : a.isOlder b = true ↔ a.rank < b.rank := by
  have hnot : olderCreated b.created a.created = false ↔
      createdOrFirst a.created ≤ createdOrFirst b.created := by
    rw [← Bool.not_eq_true, olderCreated_iff, not_lt]
  rw [isOlder, rank, rank, Prod.Lex.toLex_lt_toLex]
  simp only [Bool.or_eq_true, Bool.and_eq_true, Bool.not_eq_true', decide_eq_true_eq,
    olderCreated_iff, hnot]
  constructor
  · rintro (hlt | ⟨hle, hid⟩)
    · exact .inl hlt
    · exact hle.lt_or_eq.imp_right fun heq => ⟨heq, hid⟩
  · exact Or.imp_right fun ⟨heq, hid⟩ => ⟨heq.le, hid⟩

/-- A record whose owner has a newer one. -/
def Stale (records : List DetailRecord) (r : DetailRecord) : Prop :=
  ∃ other ∈ records, other.owner = r.owner ∧ r.isOlder other = true

instance (records : List DetailRecord) (r : DetailRecord) : Decidable (r.Stale records) :=
  inferInstanceAs (Decidable (∃ other ∈ records, _))

/-- A stale record has a newer one that is not stale. -/
theorem Stale.exists_newest (hr : r.Stale records) :
    ∃ newest ∈ records, newest.owner = r.owner ∧ r.isOlder newest = true ∧
      ¬ newest.Stale records := by
  obtain ⟨other, hmem, howner, hother⟩ := hr
  have hne : (recordsOf r.owner records).toFinset.Nonempty := by
    refine ⟨other, List.mem_toFinset.mpr (List.mem_filter.mpr ⟨hmem, ?_⟩)⟩
    rw [howner, beq_self_eq_true]
  obtain ⟨newest, hnewest, hmax⟩ := Finset.exists_max_image _ rank hne
  have hin : ∀ {x}, x ∈ (recordsOf r.owner records).toFinset ↔ x ∈ records ∧ x.owner = r.owner := by
    simp [recordsOf]
  rw [hin] at hnewest
  refine ⟨newest, hnewest.1, hnewest.2, ?_, ?_⟩
  · rw [isOlder_iff] at hother ⊢
    exact hother.trans_le (hmax other (hin.mpr ⟨hmem, howner⟩))
  · rintro ⟨last, hlast, hsame, holder⟩
    rw [isOlder_iff] at holder
    exact holder.not_ge (hmax last (hin.mpr ⟨hlast, hsame.trans hnewest.2⟩))

/-- Each owner of a record has one that is not stale. -/
theorem exists_fresh (hr : r ∈ records) :
    ∃ newest ∈ records, newest.owner = r.owner ∧ ¬ newest.Stale records := by
  by_cases hstale : r.Stale records
  · obtain ⟨newest, hmem, howner, -, hfresh⟩ := hstale.exists_newest
    exact ⟨newest, hmem, howner, hfresh⟩
  · exact ⟨r, hr, rfl, hstale⟩

/-- Records that are gone make no difference to the others as long as only stale ones are gone. -/
theorem stale_iff_of_kept (hkept : kept ⊆ records)
    (hgone : ∀ r ∈ records, ¬ r.Stale records → r ∈ kept) : r.Stale kept ↔ r.Stale records := by
  constructor
  · rintro ⟨other, hmem, hother⟩
    exact ⟨other, hkept hmem, hother⟩
  · intro hr
    obtain ⟨newest, hmem, howner, holder, hfresh⟩ := hr.exists_newest
    exact ⟨newest, hgone newest hmem hfresh, howner, holder⟩

/-- Of two records of an owner with different ids one is stale. -/
theorem stale_or_stale {s : DetailRecord} (hr : r ∈ records) (hs : s ∈ records)
    (howner : r.owner = s.owner) (hid : r.id ≠ s.id) : r.Stale records ∨ s.Stale records := by
  have hrank : r.rank ≠ s.rank := fun heq => hid (Prod.mk.inj (toLex_inj.mp heq)).2
  rcases hrank.lt_or_gt with hlt | hlt
  · exact .inl ⟨s, hs, howner.symm, (isOlder_iff _ _).mpr hlt⟩
  · exact .inr ⟨r, hr, howner, (isOlder_iff _ _).mpr hlt⟩

end DetailRecord

/-! ## What is found -/

/-- Of the newest records the last one is split from the others. -/
theorem extractBest_lastNewest
    (h : extractBest (fun a b => !a.isOlder b) records = some (keep, rest)) :
    FirstBest (fun a b => !a.isOlder b) records keep rest := by
  refine extractBest_firstBest_of_trans (fun a b c => ?_) (fun a b c => ?_) h
  · simp only [Bool.not_eq_true', ← Bool.not_eq_true, DetailRecord.isOlder_iff, not_lt]
    exact fun hab hbc => hbc.trans hab
  · simp only [Bool.not_eq_false', DetailRecord.isOlder_iff]
    exact lt_trans

/-- No record is newer than the one that is split from them. -/
theorem rank_le_of_extractBest
    (h : extractBest (fun a b => !a.isOlder b) records = some (keep, rest)) :
    ∀ r ∈ rest, r.rank ≤ keep.rank := by
  obtain ⟨front, back, -, rfl, hfront, hback⟩ := extractBest_lastNewest h
  intro r hr
  rcases List.mem_append.mp hr with hr | hr
  · have hnewer := hfront r hr
    rwa [Bool.not_eq_true', ← Bool.not_eq_true, DetailRecord.isOlder_iff, not_lt] at hnewer
  · have holder := hback r hr
    rw [Bool.not_eq_false', DetailRecord.isOlder_iff] at holder
    exact holder.le

/-- Of records with different ids the newest is split from the others. -/
theorem extractBest_newest (hids : (records.map (·.id)).Nodup)
    (h : extractBest (fun a b => !a.isOlder b) records = some (keep, rest)) :
    ∀ r ∈ rest, r.isOlder keep = true := by
  obtain ⟨front, back, rfl, hrest⟩ := extractBest_eq_some h
  have hkeep : keep.id ∉ rest.map (·.id) := by
    have hperm : (front ++ keep :: back).Perm (keep :: rest) := hrest ▸ List.perm_middle
    rw [(hperm.map (·.id)).nodup_iff, List.map_cons, List.nodup_cons] at hids
    exact hids.1
  intro r hr
  have hne : r.rank ≠ keep.rank := by
    intro heq
    have hid : r.id = keep.id := (Prod.mk.inj (toLex_inj.mp heq)).2
    exact hkeep (hid ▸ List.mem_map_of_mem hr)
  exact (DetailRecord.isOlder_iff _ _).mpr ((rank_le_of_extractBest h r hr).lt_of_ne hne)

theorem mem_recordsOf : r ∈ recordsOf owner records ↔ r ∈ records ∧ r.owner = owner := by
  rw [recordsOf, List.mem_filter, beq_iff_eq]

theorem splitNewest_eq_some {d : DetailDuplicate} : splitNewest owner records = some d ↔
    extractBest (fun a b => !a.isOlder b) records = some (d.keep, d.stale) ∧ d.owner = owner ∧
      d.stale ≠ [] := by
  rw [splitNewest]
  cases hbest : extractBest (fun a b => !a.isOlder b) records with
  | none => simp
  | some best =>
    obtain ⟨keep, stale⟩ := best
    dsimp only
    constructor
    · intro hsplit
      split at hsplit
      · cases hsplit
      · next hne =>
        cases hsplit
        exact ⟨rfl, rfl, fun hnil => hne (List.isEmpty_iff.mpr hnil)⟩
    · rintro ⟨heq, rfl, hne⟩
      cases heq
      rw [if_neg fun hempty => hne (List.isEmpty_iff.mp hempty)]

/-- What is found is the newest record of an owner, if the owner has others. -/
theorem mem_duplicateDetails {d : DetailDuplicate} : d ∈ duplicateDetails records ↔
    extractBest (fun a b => !a.isOlder b) (recordsOf d.owner records) = some (d.keep, d.stale) ∧
      d.stale ≠ [] := by
  rw [duplicateDetails, List.mem_filterMap]
  constructor
  · rintro ⟨owner, -, hsplit⟩
    obtain ⟨hbest, rfl, hne⟩ := splitNewest_eq_some.mp hsplit
    exact ⟨hbest, hne⟩
  · rintro ⟨hbest, hne⟩
    refine ⟨d.owner, ?_, splitNewest_eq_some.mpr ⟨hbest, rfl, hne⟩⟩
    obtain ⟨front, back, hsplit, -⟩ := extractBest_eq_some hbest
    have hkeep : d.keep ∈ recordsOf d.owner records := by simp [hsplit]
    rw [mem_recordsOf] at hkeep
    rw [ownersOf, List.mem_eraseDups, List.mem_map]
    exact ⟨d.keep, hkeep⟩

/-- What is kept of an owner and what is stale are all its records. -/
theorem keep_cons_stale_perm {d : DetailDuplicate} (hd : d ∈ duplicateDetails records) :
    (d.keep :: d.stale).Perm (recordsOf d.owner records) := by
  obtain ⟨front, back, hrecords, hstale⟩ := extractBest_eq_some (mem_duplicateDetails.mp hd).1
  rw [hrecords, hstale]
  exact List.perm_middle.symm

/-- What is stale of an owner is in the order of its records. -/
theorem stale_sublist {d : DetailDuplicate} (hd : d ∈ duplicateDetails records) :
    d.stale.Sublist (recordsOf d.owner records) := by
  obtain ⟨front, back, hrecords, hstale⟩ := extractBest_eq_some (mem_duplicateDetails.mp hd).1
  rw [hrecords, hstale]
  exact (List.sublist_cons_self _ _).append_left front

/-- Records are the newest of them and those that are older. -/
theorem newest_spec (hids : (records.map (·.id)).Nodup)
    (hbest : extractBest (fun a b => !a.isOlder b) records = some (keep, rest)) :
    (∀ r, r ∈ records ↔ r = keep ∨ r ∈ rest) ∧ ∀ r ∈ rest, r.rank < keep.rank := by
  obtain ⟨front, back, hrecords, hrest⟩ := extractBest_eq_some hbest
  refine ⟨fun r => ?_, fun r hr => ?_⟩
  · rw [hrecords, hrest, List.mem_append, List.mem_cons, List.mem_append]
    tauto
  · exact (DetailRecord.isOlder_iff _ _).mp (extractBest_newest hids hbest r hr)

/-- The ids that are found to be deleted are those of the stale records. -/
theorem mem_staleIds (hids : (records.map (·.id)).Nodup) :
    id ∈ staleIds (duplicateDetails records) ↔ ∃ r ∈ records, r.Stale records ∧ r.id = id := by
  have hof : ∀ owner, ((recordsOf owner records).map (·.id)).Nodup :=
    fun owner => hids.sublist (List.filter_sublist.map _)
  simp only [staleIds, List.mem_flatMap, List.mem_map, mem_duplicateDetails]
  constructor
  · rintro ⟨d, ⟨hbest, -⟩, r, hr, rfl⟩
    obtain ⟨hmem, hstale⟩ := newest_spec (hof d.owner) hbest
    have hkeep := (hmem d.keep).mpr (.inl rfl)
    have hr' := (hmem r).mpr (.inr hr)
    rw [mem_recordsOf] at hkeep hr'
    refine ⟨r, hr'.1, ⟨d.keep, hkeep.1, hkeep.2.trans hr'.2.symm, ?_⟩, rfl⟩
    exact (DetailRecord.isOlder_iff _ _).mpr (hstale r hr)
  · rintro ⟨r, hr, ⟨other, hother, howner, holder⟩, rfl⟩
    have hr' : r ∈ recordsOf r.owner records := mem_recordsOf.mpr ⟨hr, rfl⟩
    have hother' : other ∈ recordsOf r.owner records := mem_recordsOf.mpr ⟨hother, howner⟩
    rw [DetailRecord.isOlder_iff] at holder
    obtain ⟨keep, stale, hbest⟩ : ∃ keep stale,
        extractBest (fun a b => !a.isOlder b) (recordsOf r.owner records) = some (keep, stale) := by
      cases hbest : extractBest (fun a b => !a.isOlder b) (recordsOf r.owner records) with
      | none => rw [extractBest_eq_none.mp hbest] at hr'; cases hr'
      | some best => exact ⟨best.1, best.2, rfl⟩
    obtain ⟨hmem, hstale⟩ := newest_spec (hof r.owner) hbest
    -- A record that is older than another is not the newest of its owner.
    have hin : r ∈ stale := by
      refine ((hmem r).mp hr').resolve_left ?_
      rintro rfl
      rcases (hmem other).mp hother' with rfl | hin
      · exact lt_irrefl _ holder
      · exact lt_asymm holder (hstale other hin)
    exact ⟨⟨r.owner, keep, stale⟩, ⟨hbest, List.ne_nil_of_mem hin⟩, r, hin, rfl⟩

/-! ## Owners that are found -/

/-- Owners are found in the order in which they first come up, and none is found twice. -/
theorem duplicateOwners_sublist (records : List DetailRecord) :
    ((duplicateDetails records).map (·.owner)).Sublist (ownersOf records) := by
  rw [duplicateDetails]
  induction ownersOf records with
  | nil => exact .slnil
  | cons owner owners ih =>
    rw [List.filterMap_cons]
    cases hsplit : splitNewest owner (recordsOf owner records) with
    | none => exact ih.cons _
    | some d =>
      have howner : d.owner = owner := (splitNewest_eq_some.mp hsplit).2.1
      rw [List.map_cons, howner]
      exact ih.cons_cons _

theorem nodup_duplicateOwners (records : List DetailRecord) :
    ((duplicateDetails records).map (·.owner)).Nodup :=
  (nodup_eraseDups _).sublist (duplicateOwners_sublist records)

/-- The owners that are found are those with more than one record. -/
theorem mem_duplicateOwners : owner ∈ (duplicateDetails records).map (·.owner) ↔
    1 < (recordsOf owner records).length := by
  have hlength : ∀ {d : DetailDuplicate},
      extractBest (fun a b => !a.isOlder b) (recordsOf owner records) = some (d.keep, d.stale) →
        (recordsOf owner records).length = d.stale.length + 1 := by
    intro d hbest
    obtain ⟨front, back, hsplit, hrest⟩ := extractBest_eq_some hbest
    rw [hsplit, hrest, List.length_append, List.length_append, List.length_cons, Nat.add_assoc]
  rw [List.mem_map]
  constructor
  · rintro ⟨d, hd, rfl⟩
    obtain ⟨hbest, hne⟩ := mem_duplicateDetails.mp hd
    have hpos := List.length_pos_of_ne_nil hne
    rw [hlength hbest]
    omega
  · intro hseveral
    cases hbest : extractBest (fun a b => !a.isOlder b) (recordsOf owner records) with
    | none =>
      rw [extractBest_eq_none.mp hbest, List.length_nil] at hseveral
      exact absurd hseveral (Nat.not_lt_zero 1)
    | some best =>
      let d : DetailDuplicate := ⟨owner, best.1, best.2⟩
      have hne : d.stale ≠ [] := by
        intro hnil
        have hone := hlength (d := d) hbest
        rw [hnil, List.length_nil] at hone
        omega
      exact ⟨d, mem_duplicateDetails.mpr ⟨hbest, hne⟩, rfl⟩

/-- No id is found to be deleted twice. -/
theorem nodup_staleIds (hids : (records.map (·.id)).Nodup) :
    (staleIds (duplicateDetails records)).Nodup := by
  rw [staleIds, List.nodup_flatMap]
  constructor
  · intro d hd
    exact hids.sublist (((stale_sublist hd).trans List.filter_sublist).map _)
  · refine (List.pairwise_map.mp (nodup_duplicateOwners records)).imp_of_mem ?_
    intro d e hd he hne id hid hid'
    obtain ⟨r, hr, rfl⟩ := List.mem_map.mp hid
    obtain ⟨s, hs, heq⟩ := List.mem_map.mp hid'
    have hr' := mem_recordsOf.mp ((stale_sublist hd).subset hr)
    have hs' := mem_recordsOf.mp ((stale_sublist he).subset hs)
    have hsame : s = r := List.inj_on_of_nodup_map hids hs'.1 hr'.1 heq
    rw [hsame] at hs'
    exact hne (hr'.2.symm.trans hs'.2)

/-- No owner is found to have several records just where no record is stale. -/
theorem duplicateDetails_eq_nil (hids : (records.map (·.id)).Nodup) :
    duplicateDetails records = [] ↔ ∀ r ∈ records, ¬ r.Stale records := by
  constructor
  · intro hnil r hr hstale
    have hmem := (mem_staleIds hids).mpr ⟨r, hr, hstale, rfl⟩
    rw [hnil] at hmem
    cases hmem
  · intro hfresh
    refine List.eq_nil_iff_forall_not_mem.mpr fun d hd => ?_
    -- An owner is found only with stale records.
    obtain ⟨r, hr⟩ := List.exists_mem_of_ne_nil _ (mem_duplicateDetails.mp hd).2
    have hid : r.id ∈ staleIds (duplicateDetails records) :=
      List.mem_flatMap.mpr ⟨d, hd, List.mem_map_of_mem hr⟩
    obtain ⟨stale, hmem, hstale, -⟩ := (mem_staleIds hids).mp hid
    exact hfresh stale hmem hstale

end RegistryDedup
