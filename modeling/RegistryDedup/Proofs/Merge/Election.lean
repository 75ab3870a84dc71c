import RegistryDedup.Proofs.Merge.Choice
import RegistryDedup.Proofs.Merge.Counting
import RegistryDedup.Proofs.Merge.Safety

/-!
# The survivor that some tables elect

The tables at some time settle which member of each group is kept. It stays the choice for whoever
chooses later, from fewer members and by later counts, as long as its own references have become no
fewer and those of the others no more.

- `Elects`: the selection of a group by the tables of the start. Each candidate has one
  (`exists_elects`), each key has just one (`Elects.unique`), and no survivor is the loser of
  another (`Elects.keep_ne`).
- `totalOf_le`, `le_totalOf`: what counts made at different times say, compared with the tables of
  the start.
- `Elects.again`: the same choice later.
-/

namespace RegistryDedup

variable {s : Settings} {g g' : DuplicateGroup} {sel sel' : Selection} {start : Tables}
  {counts : List RefCount} {results results' : List CountResult} {ids : List String} {id : String}

/-! ## The choice of the start -/

/-- A count as the tables of the start answer it. -/
def CountJob.reading (start : Tables) (job : CountJob) : CountResult :=
  ⟨job, .ok (start.references job.dependent job.id)⟩

/-- The references of any entities can be told. -/
theorem exists_countsOf (s : Settings) (start : Tables) (ids : List String) :
    ∃ counts, CountsOf s start ids counts := by
  let results := (countJobs ids s.dependents).map (CountJob.reading start)
  have hresults : ∀ r ∈ results, r.reply = .ok (start.references r.job.dependent r.job.id) := by
    rintro r hr
    obtain ⟨job, -, rfl⟩ := List.mem_map.mp hr
    rfl
  have honce : results.map (·.job) = countJobs ids s.dependents := by
    rw [List.map_map]
    exact List.map_id _
  exact ⟨_, countsOf_foldl hresults (honce ▸ .refl _)⟩

/-- The selection of a group by the tables of the start. -/
structure Elects (s : Settings) (start : Tables) (g : DuplicateGroup) (sel : Selection) :
    Prop where
  candidate : g ∈ (Grouping.build s.normalizer (s.entities start)).candidates
  chosen : ∃ counts, CountsOf s start g.ids counts ∧ select s.policy g.members counts = some sel

theorem exists_elects (hg : g ∈ (Grouping.build s.normalizer (s.entities start)).candidates) :
    ∃ sel, Elects s start g sel := by
  obtain ⟨counts, hcounts⟩ := exists_countsOf s start g.ids
  obtain ⟨sel, hsel⟩ := exists_select s.policy counts (Grouping.members_ne_nil hg)
  exact ⟨sel, hg, counts, hcounts, hsel⟩

namespace Elects

/-- Each key has one selection. -/
theorem unique (he : Elects s start g sel) (he' : Elects s start g' sel') (hkey : g.key = g'.key) :
    g = g' ∧ sel = sel' := by
  have hmembers : g.members = g'.members := by
    rw [(Grouping.mem_candidates.mp he.candidate).2.1,
      (Grouping.mem_candidates.mp he'.candidate).2.1, hkey]
  obtain rfl : g = g' := by
    cases g
    cases g'
    cases hkey
    cases hmembers
    rfl
  obtain ⟨counts, hcounts, hsel⟩ := he.chosen
  obtain ⟨counts', hcounts', hsel'⟩ := he'.chosen
  obtain rfl := hcounts.unique hcounts'
  exact ⟨rfl, Option.some.inj (hsel.symm.trans hsel')⟩

/-- So a survivor can be named by its key. -/
theorem exists_survivor (s : Settings) (start : Tables) :
    ∃ survivor : String → String, ∀ g sel, Elects s start g sel → sel.keep.id = survivor g.key := by
  have hone : ∀ key, ∃ id, ∀ g sel, Elects s start g sel → g.key = key → sel.keep.id = id := by
    intro key
    by_cases hsome : ∃ g sel, Elects s start g sel ∧ g.key = key
    · obtain ⟨g, sel, he, rfl⟩ := hsome
      exact ⟨sel.keep.id, fun g' sel' he' hkey => by rw [(he'.unique he hkey).2]⟩
    · exact ⟨"", fun g sel he hkey => absurd ⟨g, sel, he, hkey⟩ hsome⟩
  choose survivor hsurvivor using hone
  exact ⟨survivor, fun g sel he => hsurvivor g.key g sel he rfl⟩

/-- The members are the one that is kept and the losers. -/
theorem mem_members (he : Elects s start g sel) {e : Entity} :
    e ∈ g.members ↔ e = sel.keep ∨ e ∈ sel.losers := by
  obtain ⟨counts, -, hsel⟩ := he.chosen
  exact mem_members_iff hsel

/-- Tables are fit for the merge of a group that they elect a survivor for. -/
theorem groupStart (hs : s.Foreign) (hdistinct : DistinctIds s start)
    (he : Elects s start g sel) : GroupStart s g sel start := by
  obtain ⟨counts, -, hsel⟩ := he.chosen
  obtain ⟨hkey, hids, hresolve⟩ := candidates_resolve hdistinct he.candidate
  have hperm := select_ids_perm hsel
  exact {
    foreign := hs
    distinct := hdistinct
    named := hkey
    keep_resolves := hresolve _ (hperm.mem_iff.mpr List.mem_cons_self)
    loser_resolves := fun l hl => hresolve l (hperm.mem_iff.mpr (List.mem_cons_of_mem _ hl))
    keep_spared := keep_not_mem_loserIds hsel hids }

/-- No survivor is among the losers of any group. -/
theorem keep_ne (hs : s.Foreign) (hdistinct : DistinctIds s start) (he : Elects s start g sel)
    (he' : Elects s start g' sel') {l : String} (hl : l ∈ sel'.loserIds) : sel.keep.id ≠ l := by
  rintro rfl
  have hstart := he.groupStart hs hdistinct
  have hstart' := he'.groupStart hs hdistinct
  have hkey := hdistinct.key_unique hstart.keep_resolves (hstart'.loser_resolves _ hl)
  obtain ⟨rfl, rfl⟩ := he.unique he' hkey
  exact hstart.keep_spared hl

/-- Settings with the same policy that work on the same tables elect the same. -/
theorem of_agrees {s' : Settings} (ha : s.Agrees s') (hpolicy : s'.policy = s.policy)
    (he : Elects s' start g sel) : Elects s start g sel := by
  obtain ⟨hg, counts, hcounts, hsel⟩ := he
  refine ⟨?_, counts, ?_, hpolicy ▸ hsel⟩
  · rwa [Settings.normalizer, Settings.entities, ha.qualifiers, ha.entity, ← Settings.normalizer,
      ← Settings.entities] at hg
  · refine { ids := hcounts.ids, total := ?_, perTable := ?_, keys := ?_ }
    · simpa only [Settings.referencesTo, ha.dependents] using hcounts.total
    · simpa only [Settings.referencesIn, ha.dependents] using hcounts.perTable
    · simpa only [ha.dependents] using hcounts.keys

end Elects

/-! ## Counts made at different times -/

theorem countJob_place {dependents : List Dependent} {job : CountJob}
    (hjob : job ∈ countJobs ids dependents) : ids[job.place]? = some job.id := by
  obtain ⟨⟨id, place⟩, hid, hjob⟩ := List.mem_flatMap.mp hjob
  obtain ⟨d, hd, rfl⟩ := List.mem_map.mp hjob
  exact List.mem_zipIdx_iff_getElem?.mp hid

/-- Results of the same counts of which those for one place have grown. -/
theorem foldl_addAt_le {place : Nat}
    (hle : List.Forall₂ (fun r r' => r.job = r'.job ∧ ∃ n n', r.reply = .ok n ∧ r'.reply = .ok n' ∧
      (r.job.place = place → n ≤ n')) results results') {c c' : RefCount}
    (hc : c.total ≤ c'.total) :
    (results.foldl (addAt place) c).total ≤ (results'.foldl (addAt place) c').total := by
  induction hle generalizing c c' with
  | nil => exact hc
  | cons hfirst _ ih =>
    obtain ⟨hjob, n, n', hn, hn', hle⟩ := hfirst
    refine ih ?_
    rw [addAt, addAt, hn, hn', ← hjob]
    dsimp only
    split
    · next hplace => exact Nat.add_le_add hc (hle hplace)
    · exact hc

/-- The counts of a group have one entry for each member. -/
theorem totalOf_foldl {dependents : List Dependent} (hids : ids.Nodup) {place : Nat}
    (hid : ids[place]? = some id) :
    totalOf (results.foldl addCount (noReferences ids dependents)) id =
      (results.foldl (addAt place) ⟨id, 0, Tally.zeros (dependents.map (·.table))⟩).total := by
  have hget := getElem?_foldl_addCount results (noReferences ids dependents)
  have hall : (results.foldl addCount (noReferences ids dependents)).map (·.id) = ids := by
    refine List.ext_getElem? fun place => ?_
    rw [List.getElem?_map, hget, noReferences, List.getElem?_map, Option.map_map, Option.map_map]
    refine (congrArg (Option.map · _) (funext fun id => ?_)).trans Option.map_id'
    rw [Function.comp_apply, Function.comp_apply, foldl_addAt_id]
  have hat := hget place
  rw [noReferences, List.getElem?_map, hid, Option.map_some, Option.map_some] at hat
  set counts := results.foldl addCount (noReferences ids dependents) with hcounts
  have hmem := List.mem_of_getElem? hat
  have hcounted : id ∈ counts.map (·.id) := hall ▸ List.mem_of_getElem? hid
  obtain ⟨c, hcmem, hcid, htotal⟩ := exists_mem_totalOf hcounted
  have hsame : c = results.foldl (addAt place) ⟨id, 0, Tally.zeros (dependents.map (·.table))⟩ := by
    refine List.inj_on_of_nodup_map (hall.symm ▸ hids) hcmem hmem ?_
    rw [hcid, foldl_addAt_id]
  rw [htotal, hsame]

/-- What the tables of the start answer to the same counts. -/
theorem totalOf_reading (start : Tables)
    (honce : (results.map (·.job)).Perm (countJobs ids s.dependents))
    {place : Nat} (hplace : ids[place]? = some id) :
    ((results.map (·.job.reading start)).foldl (addAt place)
      ⟨id, 0, Tally.zeros (s.dependents.map (·.table))⟩).total = s.referencesTo start id := by
  have hjobs : (results.map (·.job.reading start)).map (·.job) = results.map (·.job) := by
    rw [List.map_map]
    rfl
  have hcounts : CountsOf s start ids
      ((results.map (·.job.reading start)).foldl addCount (noReferences ids s.dependents)) := by
    refine countsOf_foldl (fun r hr => ?_) (hjobs ▸ honce)
    obtain ⟨r', -, rfl⟩ := List.mem_map.mp hr
    rfl
  have hget := getElem?_foldl_addCount (results.map (·.job.reading start))
    (noReferences ids s.dependents) place
  rw [noReferences, List.getElem?_map, hplace, Option.map_some, Option.map_some] at hget
  have htotal := hcounts.total _ (List.mem_of_getElem? hget)
  rwa [foldl_addAt_id] at htotal

section Totals

variable (hids : ids.Nodup) (hid : id ∈ ids)
  (honce : (results.map (·.job)).Perm (countJobs ids s.dependents))
include hids hid honce

/-- Counts of which none has found more than the start has tell no more. -/
theorem totalOf_le (hresults : ∀ r ∈ results, ∃ n, r.reply = .ok n ∧
      (r.job.id = id → n ≤ start.references r.job.dependent r.job.id)) :
    totalOf (results.foldl addCount (noReferences ids s.dependents)) id ≤
      s.referencesTo start id := by
  obtain ⟨place, hplace⟩ := List.getElem?_of_mem hid
  rw [totalOf_foldl hids hplace, ← totalOf_reading start honce hplace]
  refine foldl_addAt_le ?_ (Nat.le_refl _)
  rw [List.forall₂_map_right_iff, List.forall₂_same]
  intro r hr
  obtain ⟨n, hn, hle⟩ := hresults r hr
  refine ⟨rfl, n, _, hn, rfl, fun heq => hle ?_⟩
  have hjob := countJob_place (honce.mem_iff.mp (List.mem_map_of_mem hr))
  rw [heq, hplace] at hjob
  exact (Option.some.inj hjob).symm

/-- Counts of which none has found less than the start has tell no less. -/
theorem le_totalOf (hresults : ∀ r ∈ results, ∃ n, r.reply = .ok n ∧
      (r.job.id = id → start.references r.job.dependent r.job.id ≤ n)) :
    s.referencesTo start id ≤
      totalOf (results.foldl addCount (noReferences ids s.dependents)) id := by
  obtain ⟨place, hplace⟩ := List.getElem?_of_mem hid
  rw [totalOf_foldl hids hplace, ← totalOf_reading start honce hplace]
  refine foldl_addAt_le ?_ (Nat.le_refl _)
  rw [List.forall₂_map_left_iff, List.forall₂_same]
  intro r hr
  obtain ⟨n, hn, hle⟩ := hresults r hr
  refine ⟨rfl, _, n, rfl, hn, fun heq => hle ?_⟩
  have hjob := countJob_place (honce.mem_iff.mp (List.mem_map_of_mem hr))
  change ids[r.job.place]? = _ at hjob
  rw [show r.job.place = place from heq, hplace] at hjob
  exact (Option.some.inj hjob).symm

end Totals

/-! ## The same choice later -/

/-- A member that is preferred stays so where its references have become no fewer and those of the
other no more. -/
theorem prefers_later {counts counts' : List RefCount} {a b : Entity}
    (ha : totalOf counts a.id ≤ totalOf counts' a.id)
    (hb : totalOf counts' b.id ≤ totalOf counts b.id) :
    (prefers .mostReferenced counts a b = true → prefers .mostReferenced counts' a b = true) ∧
    (prefers .mostReferenced counts b a = false →
      prefers .mostReferenced counts' b a = false) := by
  simp only [prefers, Bool.or_eq_true, decide_eq_true_eq, Bool.and_eq_true, beq_iff_eq,
    Bool.or_eq_false_iff, decide_eq_false_iff_not, Bool.and_eq_false_iff, beq_eq_false_iff_ne]
  constructor
  · rintro (hlt | ⟨heq, hearlier⟩)
    · exact .inl (by omega)
    · by_cases hmore : totalOf counts' b.id < totalOf counts' a.id
      · exact .inl hmore
      · exact .inr ⟨by omega, hearlier⟩
  · rintro ⟨hle, hrest⟩
    refine ⟨by omega, ?_⟩
    rcases hrest with hne | hlater
    · exact .inl (by omega)
    · exact .inr hlater

/-- Who chooses later, from fewer members, chooses the same. -/
theorem Elects.again (he : Elects s start g sel) {p : Entity → Bool} (hp : p sel.keep = true)
    (hkeep : s.policy.needsCounts = true → s.referencesTo start sel.keep.id ≤
      totalOf counts sel.keep.id)
    (hlosers : s.policy.needsCounts = true → ∀ e ∈ sel.losers, p e = true →
      totalOf counts e.id ≤ s.referencesTo start e.id)
    (hselect : select s.policy (g.members.filter p) counts = some sel') :
    sel'.keep = sel.keep ∧ sel'.losers = sel.losers.filter p := by
  obtain ⟨counts₀, hcounts, hsel⟩ := he.chosen
  have hbest := (select_firstBest hsel).filter hp
  have hlater : FirstBest (prefers s.policy counts) (g.members.filter p) sel.keep
      (sel.losers.filter p) := by
    cases hpolicy : s.policy with
    | mostRecent =>
      rw [hpolicy] at hbest
      exact hbest
    | mostReferenced =>
      have hneeds : s.policy.needsCounts = true := by rw [hpolicy]; rfl
      have htotal : ∀ e ∈ g.members, totalOf counts₀ e.id = s.referencesTo start e.id :=
        fun e hmem => hcounts.totalOf_eq (List.mem_map_of_mem hmem)
      have hboth : ∀ e ∈ sel.losers.filter p,
          (prefers .mostReferenced counts₀ sel.keep e = true →
            prefers .mostReferenced counts sel.keep e = true) ∧
          (prefers .mostReferenced counts₀ e sel.keep = false →
            prefers .mostReferenced counts e sel.keep = false) := by
        intro e hmem
        obtain ⟨hmem, hpe⟩ := List.mem_filter.mp hmem
        refine prefers_later ?_ ?_
        · rw [htotal _ (he.mem_members.mpr (.inl rfl))]
          exact hkeep hneeds
        · rw [htotal e (he.mem_members.mpr (.inr hmem))]
          exact hlosers hneeds e hmem hpe
      rw [hpolicy] at hbest
      exact hbest.mono (fun e hmem => (hboth e hmem).1) fun e hmem => (hboth e hmem).2
  exact (select_firstBest hselect).unique hlater

end RegistryDedup
