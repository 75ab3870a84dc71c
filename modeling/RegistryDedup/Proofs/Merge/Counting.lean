import Mathlib.Data.List.Nodup
import RegistryDedup.Proofs.Merge.Course
import RegistryDedup.Proofs.Merge.Survivor
import RegistryDedup.Proofs.Store.Redirect
import RegistryDedup.Proofs.Store.Tally
import RegistryDedup.Proofs.Store.Truthful

/-!
# What counting finds

The counts of a group come in any order and are added up by the place of their member. On tables in
memory each of them is the number of rows that refer to the member, so that the order does not
matter and each member gets the sum over the dependents.

- `Settings.referencesTo`, `Settings.referencesIn`: the references to an entity, in all and in one
  table.
- `CountsOf`: counts that tell the references of some entities.
- `truthful_countsFor`: what a group is told. The count fails just where one of its calls is set up
  to fail.
-/

namespace RegistryDedup

open Interface.Environment

variable {s : Settings} {g : DuplicateGroup} {policy : RetryPolicy} {h : Transcript}
  {t t' : Tables}

/-! ## References -/

/-- How many references lead to an entity. -/
def Settings.referencesTo (s : Settings) (t : Tables) (id : String) : Nat :=
  (s.dependents.map fun d => t.references d id).sum

/-- How many references of one table lead to an entity. -/
def Settings.referencesIn (s : Settings) (t : Tables) (table id : String) : Nat :=
  ((s.dependents.filter (·.table = table)).map fun d => t.references d id).sum

/-- Sums over two lists can be taken in either order. -/
theorem sum_map_sum_comm {α β : Type} (f : α → β → Nat) (xs : List α) (ys : List β) :
    (xs.map fun x => (ys.map (f x)).sum).sum = (ys.map fun y => (xs.map (f · y)).sum).sum := by
  induction xs with
  | nil => simp
  | cons x xs ih =>
    rw [List.map_cons, List.sum_cons, ih, ← List.sum_map_add]
    rfl

/-- Counts that tell the references of some entities. -/
structure CountsOf (s : Settings) (t : Tables) (ids : List String) (counts : List RefCount) :
    Prop where
  ids : counts.map (·.id) = ids
  total : ∀ c ∈ counts, c.total = s.referencesTo t c.id
  perTable : ∀ c ∈ counts, ∀ table, c.perTable.get table = s.referencesIn t table c.id
  /-- The tables of the dependents come up in their order, also those without a reference. -/
  keys : ∀ c ∈ counts,
    c.perTable.map (·.1) = (Tally.zeros (s.dependents.map (·.table))).map (·.1)

/-- A count of some entities and dependents is set up to fail. -/
def CountFails (s : Settings) (t : Tables) (ids : List String) : Prop :=
  ∃ d ∈ s.dependents, ∃ id ∈ ids, (d.table, id) ∈ t.failingCounts

/-- All tables of some settings are there. -/
structure Present (s : Settings) (t : Tables) : Prop where
  entity : (t.find? s.entity.table).isSome
  dependents : ∀ d ∈ s.dependents, (t.find? d.table).isSome

/-! ## Sums over counts -/

/-- The outcome of one count added to the counts of the member at a place. -/
def addAt (place : Nat) (c : RefCount) (r : CountResult) : RefCount :=
  match r.reply with
  | .ok n => if r.job.place = place then c.plus r.job.dependent.table n else c
  | .error _ => c

/-- Each member gets the counts that are for its place. -/
theorem getElem?_foldl_addCount (results : List CountResult) (counts : List RefCount)
    (place : Nat) :
    (results.foldl addCount counts)[place]? =
      counts[place]?.map fun c => results.foldl (addAt place) c := by
  induction results generalizing counts with
  | nil => simp
  | cons r results ih =>
    have hfirst : (addCount counts r)[place]? = counts[place]?.map (addAt place · r) := by
      rw [addCount]
      unfold addAt
      cases r.reply with
      | error f => simp
      | ok n =>
        dsimp only
        rw [List.getElem?_modify]
        split <;> simp_all
    rw [List.foldl_cons, ih, hfirst, Option.map_map]
    rfl

theorem foldl_addAt_id (results : List CountResult) (place : Nat) (c : RefCount) :
    (results.foldl (addAt place) c).id = c.id := by
  induction results generalizing c with
  | nil => rfl
  | cons r results ih =>
    rw [List.foldl_cons, ih, addAt]
    cases r.reply with
    | error f => rfl
    | ok n =>
      dsimp only
      split <;> rfl

/-- Counts in tables that are there bring no new table. -/
theorem keys_foldl_addAt {results : List CountResult} (place : Nat) {c : RefCount}
    (h : ∀ r ∈ results, r.job.dependent.table ∈ c.perTable.map (·.1)) :
    (results.foldl (addAt place) c).perTable.map (·.1) = c.perTable.map (·.1) := by
  induction results generalizing c with
  | nil => rfl
  | cons r results ih =>
    rw [List.forall_mem_cons] at h
    have hfirst : (addAt place c r).perTable.map (·.1) = c.perTable.map (·.1) := by
      rw [addAt]
      cases r.reply with
      | error f => rfl
      | ok n =>
        dsimp only
        split
        · exact (Tally.keys_add _ n c.perTable).trans (if_pos h.1)
        · rfl
    rw [List.foldl_cons, ih fun r hr => hfirst ▸ h.2 r hr, hfirst]

/-- The references that a count finds, if it is for a place and in one of some tables. -/
def CountJob.found (t : Tables) (sel : String → Bool) (place : Nat) (job : CountJob) : Nat :=
  if job.place = place ∧ sel job.dependent.table then t.references job.dependent job.id else 0

/-- The number that a count adds, if it is for a place and in one of some tables. -/
def CountResult.adds (sel : String → Bool) (place : Nat) (r : CountResult) : Nat :=
  match r.reply with
  | .ok n => if r.job.place = place ∧ sel r.job.dependent.table then n else 0
  | .error _ => 0

/-- What is added up table by table is the sum of what the counts add. -/
theorem foldl_addAt_adds (f : RefCount → Nat) (sel : String → Bool)
    (hf : ∀ c table n, f (c.plus table n) = f c + if sel table then n else 0)
    (results : List CountResult) (place : Nat) (c : RefCount) :
    f (results.foldl (addAt place) c) =
      f c + (results.map (CountResult.adds sel place)).sum := by
  induction results generalizing c with
  | nil => rfl
  | cons r results ih =>
    rw [List.foldl_cons, ih, List.map_cons, List.sum_cons, ← Nat.add_assoc]
    congr 1
    rw [addAt, CountResult.adds]
    cases r.reply with
    | error e => rfl
    | ok n =>
      dsimp only
      by_cases hplace : r.job.place = place
      · simp only [hplace, if_true, hf, true_and]
      · simp only [hplace, if_false, false_and, Nat.add_zero]

/-- Where the counts are answered by the tables, it is the sum of what they find there. -/
theorem foldl_addAt_sum {f : RefCount → Nat} {sel : String → Bool}
    (hf : ∀ c table n, f (c.plus table n) = f c + if sel table then n else 0)
    {results : List CountResult}
    (hresults : ∀ r ∈ results, r.reply = .ok (t.references r.job.dependent r.job.id))
    (place : Nat) (c : RefCount) :
    f (results.foldl (addAt place) c) =
      f c + ((results.map (·.job)).map (CountJob.found t sel place)).sum := by
  have hfound : results.map (CountResult.adds sel place) =
      (results.map (·.job)).map (CountJob.found t sel place) := by
    rw [List.map_map]
    refine List.map_congr_left fun r hr => ?_
    rw [CountResult.adds, hresults r hr]
    rfl
  rw [foldl_addAt_adds f sel hf, hfound]

/-- Of the members with their places only the one at a place counts. -/
theorem sum_zipIdx_ite {α : Type} (f : α → Nat) (xs : List α) (first place : Nat) :
    ((xs.zipIdx first).map fun x => if x.2 = first + place then f x.1 else 0).sum =
      (xs[place]?.map f).getD 0 := by
  induction xs generalizing first place with
  | nil => rfl
  | cons x xs ih =>
    rw [List.zipIdx_cons, List.map_cons, List.sum_cons]
    cases place with
    | zero =>
      have hrest : ((xs.zipIdx (first + 1)).map fun x => if x.2 = first + 0 then f x.1 else 0) =
          (xs.zipIdx (first + 1)).map fun _ => 0 := by
        refine List.map_congr_left fun y hy => if_neg ?_
        have hle := (List.mem_zipIdx hy).1
        omega
      rw [hrest]
      simp
    | succ place =>
      have hne : first ≠ first + (place + 1) := by omega
      have hshift : first + (place + 1) = first + 1 + place := by omega
      rw [if_neg hne, Nat.zero_add, hshift, ih, List.getElem?_cons_succ]

/-- The counts of a group that are for one place find the references to the member there. -/
theorem sum_found_countJobs (ids : List String) (dependents : List Dependent)
    (sel : String → Bool) {place : Nat} {id : String} (hid : ids[place]? = some id) :
    ((countJobs ids dependents).map (CountJob.found t sel place)).sum =
      ((dependents.filter fun d => sel d.table).map fun d => t.references d id).sum := by
  have hmember : ∀ x : String × Nat,
      ((dependents.map fun d => (⟨x.2, x.1, d⟩ : CountJob)).map (CountJob.found t sel place)).sum =
        if x.2 = 0 + place then
          ((dependents.filter fun d => sel d.table).map fun d => t.references d x.1).sum
        else 0 := by
    rintro ⟨other, p⟩
    rw [Nat.zero_add]
    induction dependents with
    | nil => simp
    | cons d dependents ih =>
      rw [List.map_cons, List.map_cons, List.sum_cons, ih, CountJob.found]
      by_cases hp : p = place
      · by_cases hsel : sel d.table = true
        · simp [hp, hsel]
        · simp [hp, hsel]
      · simp [hp]
  rw [countJobs, List.map_flatMap, List.flatMap, List.sum_flatten, List.map_map]
  refine (congrArg List.sum (List.map_congr_left fun x _ => hmember x)).trans ?_
  have hsum := sum_zipIdx_ite
    (fun id => ((dependents.filter fun d => sel d.table).map fun d => t.references d id).sum)
    ids 0 place
  rwa [hid] at hsum

/-! ## The counts of a group -/

/-- A count is answered by the tables, whatever its place in the order. -/
theorem truthful_gathered {jobs : List CountJob} {results : List CountResult}
    (hg : Gathered policy jobs h results) (hh : ∀ e ∈ h, e.1.Quiet)
    (hf : Tables.truthful.Follows t h t') :
    ∀ r ∈ results, r.reply =
      t.countReferences r.job.dependent.table r.job.dependent.column r.job.id := by
  intro r hr
  obtain ⟨x, hx, hreply⟩ := hg.answered r hr
  have hanswer := hf.answers (fun e he _ _ => truthful_quiet (hh e he)) _ hx
  obtain ⟨hx, -⟩ := hanswer
  change x = Attempt.answered (t.countReferences _ _ _) at hx
  rw [← hreply, hx]
  rfl

/-- A count on a table that is there fails just where it is set up to. -/
theorem Tables.countReferences_eq (hu : (t.find? table).isSome) (column id : String) :
    t.countReferences table column id =
      if (table, id) ∈ t.failingCounts then .error (.countInterrupted table column id)
      else .ok ((t.rows table).countP (·.has column id)) := by
  obtain ⟨u, hu⟩ := Option.isSome_iff_exists.mp hu
  rw [countReferences, reading, hu, rows_of_find? hu]
  simp

/-- There is a count for each member and each dependent. -/
theorem exists_countJob {ids : List String} {dependents : List Dependent} {id : String}
    {d : Dependent} (hid : id ∈ ids) (hd : d ∈ dependents) :
    ∃ job ∈ countJobs ids dependents, job.id = id ∧ job.dependent = d := by
  obtain ⟨place, hplace, rfl⟩ := List.getElem_of_mem hid
  refine ⟨⟨place, ids[place], d⟩, List.mem_flatMap.mpr ⟨(ids[place], place), ?_, ?_⟩, rfl, rfl⟩
  · exact List.mem_zipIdx_iff_getElem?.mpr (List.getElem?_eq_getElem hplace)
  · exact List.mem_map_of_mem hd

/-- Where no count fails, the counts of a group tell its references. -/
theorem countsOf_foldl {results : List CountResult} {ids : List String}
    (hresults : ∀ r ∈ results, r.reply = .ok (t.references r.job.dependent r.job.id))
    (honce : (results.map (·.job)).Perm (countJobs ids s.dependents)) :
    CountsOf s t ids (results.foldl addCount (noReferences ids s.dependents)) := by
  have hget := getElem?_foldl_addCount results (noReferences ids s.dependents)
  -- Any measure that is added up table by table is the sum over the dependents.
  have hmeasure : ∀ (f : RefCount → Nat) (sel : String → Bool),
      (∀ c table n, f (c.plus table n) = f c + if sel table then n else 0) →
      (∀ id, f ⟨id, 0, Tally.zeros (s.dependents.map (·.table))⟩ = 0) →
      ∀ c ∈ results.foldl addCount (noReferences ids s.dependents), f c =
        ((s.dependents.filter fun d => sel d.table).map fun d => t.references d c.id).sum := by
    intro f sel hf hzero c hc
    obtain ⟨place, hplace⟩ := List.getElem?_of_mem hc
    rw [hget, noReferences, List.getElem?_map, Option.map_map] at hplace
    obtain ⟨id, hid, rfl⟩ := Option.map_eq_some_iff.mp hplace
    rw [Function.comp_apply, foldl_addAt_id, foldl_addAt_sum hf hresults, hzero, Nat.zero_add,
      (honce.map _).sum_eq, sum_found_countJobs ids s.dependents sel hid]
  refine { ids := ?_, total := ?_, perTable := ?_, keys := ?_ }
  · refine List.ext_getElem? fun place => ?_
    rw [List.getElem?_map, hget, noReferences, List.getElem?_map, Option.map_map, Option.map_map]
    refine (congrArg (Option.map · _) (funext fun id => ?_)).trans Option.map_id'
    rw [Function.comp_apply, Function.comp_apply, foldl_addAt_id]
  · intro c hc
    have htotal := hmeasure RefCount.total (fun _ => true)
      (fun c table n => by rw [if_pos rfl]; rfl) (fun id => rfl) c hc
    rwa [List.filter_true] at htotal
  · intro c hc table
    have htable := hmeasure (fun c => c.perTable.get table) (fun n => n = table)
      (fun c other n => ?_) (fun id => Tally.get_zeros _ _) c hc
    · exact htable
    · rw [RefCount.plus, Tally.get_add]
      simp [eq_comm]
  · intro c hc
    obtain ⟨place, hplace⟩ := List.getElem?_of_mem hc
    rw [hget, noReferences, List.getElem?_map, Option.map_map] at hplace
    obtain ⟨id, -, rfl⟩ := Option.map_eq_some_iff.mp hplace
    refine keys_foldl_addAt place fun r hr => ?_
    have hjob := mem_countJobs (honce.mem_iff.mp (List.mem_map_of_mem hr))
    rw [Tally.keys_zeros, List.mem_eraseDups]
    exact List.mem_map_of_mem hjob.2

/-- The references of some entities can be told in one way only. -/
theorem CountsOf.unique {ids : List String} {counts counts' : List RefCount}
    (hc : CountsOf s t ids counts) (hc' : CountsOf s t ids counts') : counts = counts' := by
  have heq : ∀ c ∈ counts, ∀ c' ∈ counts', c.id = c'.id → c = c' := by
    intro c hmem c' hmem' hid
    have htotal : c.total = c'.total := by rw [hc.total c hmem, hc'.total c' hmem', hid]
    have htally : c.perTable = c'.perTable := by
      refine Tally.ext_of_get ((hc.keys c hmem).trans (hc'.keys c' hmem').symm) ?_ fun table => ?_
      · rw [hc.keys c hmem]
        exact Tally.nodup_keys_zeros _
      · rw [hc.perTable c hmem, hc'.perTable c' hmem', hid]
    cases c
    cases c'
    cases hid
    cases htotal
    cases htally
    rfl
  have hids : counts.map (·.id) = counts'.map (·.id) := hc.ids.trans hc'.ids.symm
  have hlen : counts.length = counts'.length := by simpa using congrArg List.length hids
  refine List.ext_getElem hlen fun place hplace hplace' => ?_
  refine heq _ (List.getElem_mem _) _ (List.getElem_mem _) ?_
  have hat := congrArg (·[place]?) hids
  simpa [hplace, hplace'] using hat

/-- A count that tells the references of some entities has those of each. -/
theorem CountsOf.totalOf_eq {ids : List String} {counts : List RefCount}
    (hc : CountsOf s t ids counts) {id : String} (hid : id ∈ ids) :
    totalOf counts id = s.referencesTo t id := by
  rw [← hc.ids] at hid
  obtain ⟨c, hmem, rfl, htotal⟩ := exists_mem_totalOf hid
  rw [htotal, hc.total c hmem]

/-- What a group is told of its references. -/
inductive Counted (s : Settings) (g : DuplicateGroup) (t : Tables) :
    Except CountFailure (List RefCount) → Prop where
  /-- The policy does not look at them. -/
  | needless (hneeds : s.policy.needsCounts = false) : Counted s g t (.ok [])
  | told {counts : List RefCount} (hneeds : s.policy.needsCounts = true)
      (hfine : ¬ CountFails s t g.ids) (hcounts : CountsOf s t g.ids counts) :
      Counted s g t (.ok counts)
  | failed {failure : CountFailure} (hneeds : s.policy.needsCounts = true)
      (hfails : CountFails s t g.ids) (htransient : failure.failure.isRetryable) :
      Counted s g t (.error failure)

/-- Counts that the policy looks at tell the references. -/
theorem Counted.countsOf {counts : List RefCount} (hc : Counted s g t (.ok counts))
    (hneeds : s.policy.needsCounts = true) : CountsOf s t g.ids counts := by
  cases hc with
  | needless hneedless => cases hneeds.symm.trans hneedless
  | told _ _ hcounts => exact hcounts

/-- Two counts of a group on the same tables tell the same, or both fail. -/
theorem Counted.agree {result result' : Except CountFailure (List RefCount)}
    (hc : Counted s g t result) (hc' : Counted s g t result') :
    (∃ counts, result = .ok counts ∧ result' = .ok counts) ∨
    ∃ failure failure', result = .error failure ∧ result' = .error failure' ∧
      failure.failure.isRetryable = failure'.failure.isRetryable := by
  cases hc with
  | needless hneedless =>
    cases hc' with
    | needless => exact .inl ⟨[], rfl, rfl⟩
    | told hneeds => cases hneedless.symm.trans hneeds
    | failed hneeds => cases hneedless.symm.trans hneeds
  | told hneeds hfine hcounts =>
    cases hc' with
    | needless hneedless => cases hneedless.symm.trans hneeds
    | told _ _ hcounts' => exact .inl ⟨_, rfl, congrArg Except.ok (hcounts'.unique hcounts)⟩
    | failed _ hfails => exact absurd hfails hfine
  | failed hneeds hfails htransient =>
    cases hc' with
    | needless hneedless => cases hneedless.symm.trans hneeds
    | told _ hfine => exact absurd hfails hfine
    | failed _ _ htransient' =>
      exact .inr ⟨_, _, rfl, rfl, htransient.trans htransient'.symm⟩

theorem truthful_countsFor (hp : Present s t) {result : Except CountFailure (List RefCount)}
    (hy : (countsFor s g).Yields h result) (hf : Tables.truthful.Follows t h t') :
    t' = t ∧ Counted s g t result := by
  have hquiet : ∀ e ∈ h, e.1.Quiet := fun e he => ((only_countsFor s g).yields hy e he).quiet
  refine ⟨hf.unchanged fun e he _ _ => truthful_quiet (hquiet e he), ?_⟩
  rw [countsFor] at hy
  split at hy
  · next hneeds =>
    rw [countGroup, Program.bind_eq, Program.yields_bind] at hy
    obtain ⟨results, h₁, h₂, rfl, hgather, rfl, rfl⟩ := hy
    have hg := yields_gatherAll (Nat.lt_of_lt_of_le Nat.zero_lt_one (Nat.le_max_right _ _)) hgather
    rw [List.append_nil] at hf hquiet
    have htruth : ∀ r ∈ results, r.reply =
        if (r.job.dependent.table, r.job.id) ∈ t.failingCounts then
          .error (.countInterrupted r.job.dependent.table r.job.dependent.column r.job.id)
        else .ok (t.references r.job.dependent r.job.id) := by
      intro r hr
      have hjob := mem_countJobs (hg.once.mem_iff.mp (List.mem_map_of_mem hr))
      rw [truthful_gathered hg hquiet hf r hr,
        Tables.countReferences_eq (hp.dependents _ hjob.2), Tables.references]
    cases hsum : sumCounts g.ids s.dependents results with
    | error failure =>
      obtain ⟨r, hr, hfail⟩ := exists_failed_of_sumCounts hsum
      have hjob := mem_countJobs (hg.once.mem_iff.mp (List.mem_map_of_mem hr))
      rw [htruth r hr] at hfail
      split at hfail
      · next hfails =>
        -- A count that is set up to fail is worth another attempt.
        have htransient := congrArg Failure.isRetryable (Except.error.inj hfail).symm
        exact .failed hneeds ⟨_, hjob.2, _, hjob.1, hfails⟩ (htransient.trans rfl)
      · cases hfail
    | ok counts =>
      have hfine : ∀ r ∈ results, (r.job.dependent.table, r.job.id) ∉ t.failingCounts := by
        intro r hr hfails
        obtain ⟨failure, herror⟩ :=
          sumCounts_eq_error.mpr ⟨r, hr, _, (htruth r hr).trans (if_pos hfails)⟩
        rw [herror] at hsum
        cases hsum
      refine .told hneeds ?_ ?_
      · rintro ⟨d, hd, id, hid, hfails⟩
        obtain ⟨job, hjob, rfl, rfl⟩ := exists_countJob hid hd
        obtain ⟨r, hr, rfl⟩ := List.mem_map.mp (hg.once.mem_iff.mpr hjob)
        exact hfine r hr hfails
      · rw [sumCounts] at hsum
        split at hsum
        · cases hsum
        · cases hsum
          refine countsOf_foldl (fun r hr => ?_) hg.once
          rw [htruth r hr, if_neg (hfine r hr)]
  · next hneeds =>
    obtain ⟨-, rfl⟩ := hy
    exact .needless (by simpa using hneeds)

end RegistryDedup
