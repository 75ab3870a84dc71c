import RegistryDedup.Proofs.Detail.Duplicates
import RegistryDedup.Proofs.Merge.Ranking

/-!
# The newest record of each owner

An owner with several records is found once, with the newest of them and the others in their order.
Records of an owner that have the same rank are the same record, so the order in which records are
read makes no difference to what is kept.

- `mem_kept`: what is kept of an owner is known by its rank.
- `FindsNewest`: owners with several records, each split into its newest record and the others.
- `duplicateDetails_newest`: this is what is found, and what is kept does not depend on the order.
-/

namespace RegistryDedup

variable {records records' : List DetailRecord} {d : DetailDuplicate} {owner : String}

/-- Records of an owner with one rank are the same record. -/
theorem DetailRecord.eq_of_rank {r s : DetailRecord} (howner : r.owner = s.owner)
    (hrank : r.rank = s.rank) : r = s := by
  obtain ⟨hcreated, hid⟩ := Prod.mk.inj (toLex_inj.mp hrank)
  obtain ⟨id, owner, created⟩ := r
  obtain rfl : id = s.id := hid
  obtain rfl : owner = s.owner := howner
  obtain rfl : created = s.created := createdOrFirst_injective hcreated
  rfl

theorem keep_mem (hd : d ∈ duplicateDetails records) : d.keep ∈ recordsOf d.owner records :=
  (keep_cons_stale_perm hd).mem_iff.mp List.mem_cons_self

/-- No record of an owner is newer than the one that is kept. -/
theorem rank_le_keep (hd : d ∈ duplicateDetails records) :
    ∀ r ∈ recordsOf d.owner records, r.rank ≤ d.keep.rank := by
  intro r hr
  rcases List.mem_cons.mp ((keep_cons_stale_perm hd).mem_iff.mpr hr) with rfl | hr
  · exact le_rfl
  · exact rank_le_of_extractBest (mem_duplicateDetails.mp hd).1 r hr

/-- What is kept of an owner with several records is the newest of them. -/
theorem mem_kept {keep : DetailRecord} :
    (owner, keep) ∈ (duplicateDetails records).map (fun d => (d.owner, d.keep)) ↔
      1 < (recordsOf owner records).length ∧ keep ∈ recordsOf owner records ∧
        ∀ r ∈ recordsOf owner records, r.rank ≤ keep.rank := by
  rw [List.mem_map]
  constructor
  · rintro ⟨d, hd, heq⟩
    obtain ⟨rfl, rfl⟩ := Prod.mk.inj heq
    exact ⟨mem_duplicateOwners.mp (List.mem_map_of_mem hd), keep_mem hd, rank_le_keep hd⟩
  · rintro ⟨hseveral, hkeep, hnewest⟩
    obtain ⟨d, hd, rfl⟩ := List.mem_map.mp (mem_duplicateOwners.mpr hseveral)
    -- Of two newest records of one owner neither is newer, and then they are the same.
    have hrank : d.keep.rank = keep.rank :=
      le_antisymm (hnewest _ (keep_mem hd)) (rank_le_keep hd _ hkeep)
    have howner : d.keep.owner = keep.owner :=
      (mem_recordsOf.mp (keep_mem hd)).2.trans (mem_recordsOf.mp hkeep).2.symm
    exact ⟨d, hd, by rw [DetailRecord.eq_of_rank howner hrank]⟩

/-- The same record of each owner is kept, in whatever order the records are read. -/
theorem kept_perm (hperm : records.Perm records') :
    ((duplicateDetails records).map fun d => (d.owner, d.keep)).Perm
      ((duplicateDetails records').map fun d => (d.owner, d.keep)) := by
  have hnodup : ∀ records, ((duplicateDetails records).map fun d => (d.owner, d.keep)).Nodup := by
    intro records
    refine List.Nodup.of_map Prod.fst ?_
    rw [List.map_map]
    exact nodup_duplicateOwners records
  refine (List.perm_ext_iff_of_nodup (hnodup _) (hnodup _)).mpr ?_
  rintro ⟨owner, keep⟩
  have hof : (recordsOf owner records).Perm (recordsOf owner records') := hperm.filter _
  rw [mem_kept, mem_kept, hof.length_eq, hof.mem_iff]
  simp only [hof.mem_iff]

/-- Owners with several records, each with its newest record and its others. -/
structure FindsNewest (records : List DetailRecord) (found : List DetailDuplicate) : Prop where
  once : (found.map (·.owner)).Nodup
  owners : ∀ owner, owner ∈ found.map (·.owner) ↔ 2 ≤ (records.map (·.owner)).count owner
  /-- The owners are in the order in which they first come up. -/
  order : (found.map (·.owner)).Pairwise (Precedes (records.map (·.owner)))
  /-- No record of an owner is lost, and none is found twice. -/
  all : ∀ d ∈ found, (d.keep :: d.stale).Perm (records.filter (·.owner == d.owner))
  staleOrder : ∀ d ∈ found, d.stale.Sublist records
  /-- A record is no newer than another if it was not created later and, of those of one time, has
  no greater id. An unknown time comes first. -/
  newest : ∀ d ∈ found, ∀ r ∈ d.stale,
    toLex (createdOrFirst r.created, r.id) ≤ toLex (createdOrFirst d.keep.created, d.keep.id)

/-- Each owner with several records is found once, with its newest record and its others in their
order. With the records in another order the same owners are found, and the same record of each is
kept. -/
theorem duplicateDetails_newest (records : List DetailRecord) :
    FindsNewest records (duplicateDetails records) ∧
      ∀ records', records.Perm records' →
        ((duplicateDetails records).map fun d => (d.owner, d.keep)).Perm
          ((duplicateDetails records').map fun d => (d.owner, d.keep)) := by
  refine ⟨?found, fun records' hperm => kept_perm hperm⟩
  have hcount : ∀ owner,
      (records.map (·.owner)).count owner = (recordsOf owner records).length := by
    intro owner
    rw [recordsOf, ← List.countP_eq_length_filter, List.count, List.countP_map]
    rfl
  exact {
    once := nodup_duplicateOwners records
    owners := fun owner => by rw [mem_duplicateOwners, hcount, Nat.lt_iff_add_one_le]
    order := (pairwise_eraseDups _).sublist (duplicateOwners_sublist records)
    all := fun d hd => keep_cons_stale_perm hd
    staleOrder := fun d hd => (stale_sublist hd).trans List.filter_sublist
    newest := fun d hd => rank_le_of_extractBest (mem_duplicateDetails.mp hd).1 }

namespace NewestSample

/-- Two holdings with several institutions each, and one with a single one. -/
def institutions : List DetailRecord :=
  [⟨"i1", "h1", RankingSample.morningOf 7 (by decide)⟩, ⟨"j1", "h2", none⟩, ⟨"i2", "h1", none⟩,
    ⟨"i3", "h1", RankingSample.morningOf 7 (by decide)⟩, ⟨"k1", "h3", none⟩, ⟨"j2", "h2", none⟩]

end NewestSample

/-- Of institutions of one time the greatest id is kept, from whichever end they are read. -/
theorem duplicateDetails_newest_sample :
    (duplicateDetails NewestSample.institutions).map
        (fun d => (d.owner, d.keep.id, d.stale.map (·.id))) =
      [("h1", "i3", ["i1", "i2"]), ("h2", "j2", ["j1"])] ∧
    FindsNewest NewestSample.institutions (duplicateDetails NewestSample.institutions) ∧
    NewestSample.institutions.Perm NewestSample.institutions.reverse ∧
    ((duplicateDetails NewestSample.institutions).map fun d => (d.owner, d.keep)).Perm
      ((duplicateDetails NewestSample.institutions.reverse).map fun d => (d.owner, d.keep)) := by
  obtain ⟨hfound, hkept⟩ := duplicateDetails_newest NewestSample.institutions
  have hperm := (List.reverse_perm NewestSample.institutions).symm
  exact ⟨by decide +kernel, hfound, hperm, hkept _ hperm⟩

end RegistryDedup
