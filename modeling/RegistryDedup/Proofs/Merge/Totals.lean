import Mathlib.Algebra.BigOperators.Group.Finset.Sigma
import Mathlib.Algebra.Order.BigOperators.Group.List
import Mathlib.Algebra.Order.Group.Nat
import Mathlib.Data.Fintype.BigOperators
import Mathlib.Data.List.FinRange
import Mathlib.Data.List.ProdSigma
import RegistryDedup.Proofs.Merge.Counting
import RegistryDedup.Proofs.Merge.Flights
import RegistryDedup.Proofs.Merge.Order

/-!
# The totals of a group

A group has one count for each pair of a member and a dependent. They are told apart by the places
of the two, since an id or a dependent may come up more than once. The counts are done in any order,
and what the group is told is the same in all of them.

- `CountPair`: the pairs, with their counts.
- `refCounts`: the references of the members, by the number that was found for each pair.
- `foldl_outcome`: the outcomes of all pairs add up to them in any order.
- `foldl_outcome_lt`: no number on the way is bigger than the totals that come out.
- `CountsDone`, `exists_countsDone`: what the pairs ask, and the order in which they are done.
- `CountsTold`, `countsTold_sumCounts`: what the group is told.
- `countGroup_totals`: all of it for the counts of a group.
-/

namespace RegistryDedup

/-- A member of a group and a dependent, by their places. -/
abbrev CountPair (ids : List String) (dependents : List Dependent) :=
  Fin ids.length × Fin dependents.length

variable {ids : List String} {dependents : List Dependent} {policy : RetryPolicy} {h : Transcript}

namespace CountPair

/-- The count of a pair. -/
def job (pair : CountPair ids dependents) : CountJob :=
  ⟨pair.1, ids[pair.1], dependents[pair.2]⟩

/-- The outcome of the count of a pair. -/
def outcome (reply : CountPair ids dependents → Reply Nat) (pair : CountPair ids dependents) :
    CountResult :=
  ⟨pair.job, reply pair⟩

/-- All pairs: member by member, and for each member dependent by dependent. -/
def all (ids : List String) (dependents : List Dependent) : List (CountPair ids dependents) :=
  List.finRange ids.length ×ˢ List.finRange dependents.length

theorem mem_all (pair : CountPair ids dependents) : pair ∈ all ids dependents :=
  List.mem_product.mpr ⟨List.mem_finRange _, List.mem_finRange _⟩

theorem nodup_all : (all ids dependents).Nodup :=
  (List.nodup_finRange _).product (List.nodup_finRange _)

/-- The counts of a group are those of its pairs. -/
theorem map_job_all : (all ids dependents).map job = countJobs ids dependents := by
  have hmembers : ids.zipIdx = (List.finRange ids.length).map fun i => (ids[i], i.val) := by
    refine List.ext_getElem (by simp) fun place hplace _ => ?_
    simp
  have hdependents : ∀ i : Fin ids.length,
      (List.finRange dependents.length).map (fun j => job (i, j)) =
        dependents.map fun d => (⟨i, ids[i], d⟩ : CountJob) := by
    intro i
    refine List.ext_getElem (by simp) fun place hplace _ => ?_
    simp [job]
  rw [countJobs, hmembers, List.flatMap_map, all]
  show (List.flatMap _ _).map job = _
  rw [List.map_flatMap]
  refine List.flatMap_congr fun i _ => ?_
  rw [List.map_map]
  exact hdependents i

end CountPair

/-! ## What the counts come to -/

variable {found : CountPair ids dependents → Nat} {reply : CountPair ids dependents → Reply Nat}
  {order : List (CountPair ids dependents)}

/-- The references of a member table by table, in the order in which the tables first come up: for
each table what was found for the member in all dependents of that table. -/
def tableCounts (found : CountPair ids dependents → Nat) (i : Fin ids.length) : Tally :=
  (dependents.map (·.table)).eraseDups.map fun table =>
    (table, ∑ j with dependents[j].table = table, found (i, j))

/-- The references of the members, in their order. -/
def refCounts (found : CountPair ids dependents → Nat) : List RefCount :=
  (List.finRange ids.length).map fun i =>
    ⟨ids[i], ((tableCounts found i).map (·.2)).sum, tableCounts found i⟩

/-- A sum over all pairs is the same in any order in which they are done. -/
theorem sum_map_of_perm_all (horder : order.Perm (CountPair.all ids dependents))
    (f : CountPair ids dependents → Nat) : (order.map f).sum = ∑ i, ∑ j, f (i, j) := by
  have hnodup : order.Nodup := horder.nodup_iff.mpr CountPair.nodup_all
  have hall : order.toFinset = Finset.univ :=
    Finset.eq_univ_of_forall fun pair =>
      List.mem_toFinset.mpr (horder.mem_iff.mpr (CountPair.mem_all pair))
  rw [← List.sum_toFinset f hnodup, hall, Fintype.sum_prod_type]

/-- What the pairs of a member add to its references in some tables. -/
theorem sum_adds_outcome (horder : order.Perm (CountPair.all ids dependents))
    (hreply : ∀ pair, reply pair = .ok (found pair)) (sel : String → Bool) (i : Fin ids.length) :
    ((order.map (CountPair.outcome reply)).map (CountResult.adds sel i)).sum =
      ∑ j with sel dependents[j].table, found (i, j) := by
  have hadds : ∀ pair : CountPair ids dependents,
      (CountPair.outcome reply pair).adds sel i =
        if pair.1 = i then if sel dependents[pair.2].table then found pair else 0 else 0 := by
    intro pair
    rw [CountResult.adds, CountPair.outcome, hreply]
    simp only [CountPair.job, Fin.val_inj, ite_and]
  rw [List.map_map, sum_map_of_perm_all horder]
  simp only [Function.comp_apply, hadds]
  rw [Finset.sum_comm, Finset.sum_filter]
  refine Finset.sum_congr rfl fun j _ => ?_
  rw [Finset.sum_ite_eq' Finset.univ i, if_pos (Finset.mem_univ i)]

/-- The total of a member is the sum over its tables, whatever was added to it. -/
theorem total_foldl_addAt {c : RefCount} (hc : c.total = (c.perTable.map (·.2)).sum)
    (results : List CountResult) (place : Nat) :
    (results.foldl (addAt place) c).total =
      ((results.foldl (addAt place) c).perTable.map (·.2)).sum := by
  have hsum := foldl_addAt_adds (fun c => (c.perTable.map (·.2)).sum) (fun _ => true)
    (fun c table n => Tally.sum_add table n c.perTable) results place c
  rw [foldl_addAt_adds RefCount.total (fun _ => true) fun c table n => rfl, hc]
  exact hsum.symm

/-- The total of a member only grows. -/
theorem total_foldl_addAt_le {front results : List CountResult} (hfront : front <+: results)
    (place : Nat) (c : RefCount) :
    (front.foldl (addAt place) c).total ≤ (results.foldl (addAt place) c).total := by
  obtain ⟨back, rfl⟩ := hfront
  rw [List.foldl_append,
    foldl_addAt_adds RefCount.total (fun _ => true) (fun c table n => rfl) back]
  omega

/-- The references of a member before anything was added. -/
def noCount (dependents : List Dependent) (i : Fin ids.length) : RefCount :=
  ⟨ids[i], 0, Tally.zeros (dependents.map (·.table))⟩

theorem getElem?_noReferences (dependents : List Dependent) (i : Fin ids.length) :
    (noReferences ids dependents)[i.val]? = some (noCount dependents i) := by
  rw [noReferences, List.getElem?_map, List.getElem?_eq_getElem i.isLt]
  rfl

/-- The pairs add to the tables of their dependents and to no other ones. -/
theorem keys_foldl_outcome (order : List (CountPair ids dependents))
    (reply : CountPair ids dependents → Reply Nat) (i : Fin ids.length) :
    ((order.map (CountPair.outcome reply)).foldl (addAt i) (noCount dependents i)).perTable.map
      (·.1) = (dependents.map (·.table)).eraseDups := by
  rw [keys_foldl_addAt i, noCount, Tally.keys_zeros]
  intro r hr
  obtain ⟨pair, -, rfl⟩ := List.mem_map.mp hr
  rw [noCount, Tally.keys_zeros, List.mem_eraseDups]
  exact List.mem_map_of_mem (List.getElem_mem pair.2.isLt)

/-- A member gets for each table what was found for its pairs there, in whatever order they are
done. -/
theorem perTable_foldl_outcome (horder : order.Perm (CountPair.all ids dependents))
    (hreply : ∀ pair, reply pair = .ok (found pair)) (i : Fin ids.length) :
    ((order.map (CountPair.outcome reply)).foldl (addAt i) (noCount dependents i)).perTable =
      tableCounts found i := by
  have hkeys := keys_foldl_outcome order reply i
  refine Tally.ext_of_get ?_ (hkeys ▸ nodup_eraseDups _) fun table => ?_
  · rw [hkeys, tableCounts, List.map_map]
    exact (List.map_id _).symm
  · rw [foldl_addAt_adds (fun c => c.perTable.get table) (fun n => n = table),
      sum_adds_outcome horder hreply, noCount, Tally.get_zeros, Nat.zero_add, tableCounts,
      Tally.get_map]
    · simp only [decide_eq_true_eq]
      split
      · rfl
      · next hnone =>
        -- No dependent has a table that is not among the tables.
        refine Finset.sum_eq_zero fun j hj => absurd ?_ hnone
        rw [List.mem_eraseDups, ← (Finset.mem_filter.mp hj).2]
        exact List.mem_map_of_mem (List.getElem_mem j.isLt)
    · intro c other n
      rw [RefCount.plus, Tally.get_add]
      simp [eq_comm]

theorem foldl_addAt_outcome (horder : order.Perm (CountPair.all ids dependents))
    (hreply : ∀ pair, reply pair = .ok (found pair)) (i : Fin ids.length) :
    (order.map (CountPair.outcome reply)).foldl (addAt i) (noCount dependents i) =
      ⟨ids[i], ((tableCounts found i).map (·.2)).sum, tableCounts found i⟩ := by
  have hid := foldl_addAt_id (order.map (CountPair.outcome reply)) i (noCount dependents i)
  have htotal := total_foldl_addAt (c := noCount dependents i) (Tally.sum_zeros _).symm
    (order.map (CountPair.outcome reply)) i
  have htally := perTable_foldl_outcome horder hreply i
  rw [htally] at htotal
  show _ = (⟨(noCount dependents i).id, _, _⟩ : RefCount)
  rw [← hid, ← htotal, ← htally]

/-- In whatever order the pairs are done, their numbers add up to the same references. -/
theorem foldl_outcome (horder : order.Perm (CountPair.all ids dependents))
    (hreply : ∀ pair, reply pair = .ok (found pair)) :
    (order.map (CountPair.outcome reply)).foldl addCount (noReferences ids dependents) =
      refCounts found := by
  refine List.ext_getElem? fun place => ?_
  rw [getElem?_foldl_addCount, refCounts, List.getElem?_map]
  by_cases hplace : place < ids.length
  · have hmember := foldl_addAt_outcome horder hreply ⟨place, hplace⟩
    have hat := getElem?_noReferences dependents ⟨place, hplace⟩
    rw [show (noReferences ids dependents)[place]? = _ from hat, Option.map_some,
      List.getElem?_eq_getElem (by simpa using hplace), List.getElem_finRange]
    exact congrArg some hmember
  · rw [List.getElem?_eq_none (by simpa [noReferences] using hplace),
      List.getElem?_eq_none (by simpa using hplace)]
    rfl

/-- Where the totals that come out stay below a bound, so does every number on the way: a total is
the sum of its tables at all times, and it only grows. -/
theorem foldl_outcome_lt {bound : Nat} (horder : order.Perm (CountPair.all ids dependents))
    (hreply : ∀ pair, reply pair = .ok (found pair))
    (hbound : ∀ c ∈ refCounts found, c.total < bound) {front : List (CountPair ids dependents)}
    (hfront : front <+: order) :
    ∀ c ∈ (front.map (CountPair.outcome reply)).foldl addCount (noReferences ids dependents),
      c.total < bound ∧ ∀ entry ∈ c.perTable, entry.2 < bound := by
  intro c hc
  obtain ⟨place, hplace⟩ := List.getElem?_of_mem hc
  rw [getElem?_foldl_addCount, Option.map_eq_some_iff] at hplace
  obtain ⟨start, hstart, rfl⟩ := hplace
  have hlt : place < ids.length := by
    have hlt := (List.getElem?_eq_some_iff.mp hstart).1
    rwa [noReferences, List.length_map] at hlt
  obtain rfl : noCount dependents ⟨place, hlt⟩ = start :=
    Option.some.inj ((getElem?_noReferences dependents ⟨place, hlt⟩).symm.trans hstart)
  have hend : ((order.map (CountPair.outcome reply)).foldl (addAt place)
      (noCount dependents ⟨place, hlt⟩)).total < bound := by
    rw [foldl_addAt_outcome horder hreply ⟨place, hlt⟩]
    exact hbound _ (List.mem_map_of_mem (List.mem_finRange _))
  have htotal := Nat.lt_of_le_of_lt
    (total_foldl_addAt_le (hfront.map _) place (noCount dependents ⟨place, hlt⟩)) hend
  refine ⟨htotal, fun entry hentry => Nat.lt_of_le_of_lt ?_ htotal⟩
  rw [total_foldl_addAt (Tally.sum_zeros _).symm]
  exact List.le_sum_of_mem (List.mem_map_of_mem hentry)

/-! ## The counts of a group -/

/-- What was asked for the pairs of a group, and the order in which they were done. -/
structure CountsDone (policy : RetryPolicy) (h : Transcript)
    (joint : Action.interface.Joint (CountPair ids dependents))
    (order : List (CountPair ids dependents)) (reply : CountPair ids dependents → Reply Nat) :
    Prop where
  /-- Nothing is asked but for the pairs. -/
  asked : joint.map (·.2) = withoutPicks h
  /-- A pair is done with its last attempt. -/
  ordered : order = (joint.map (·.1)).dedup
  /-- For each pair one call is made, with its attempts. -/
  own : ∀ pair : CountPair ids dependents,
    (Run.calling policy "count_refs" pair.job.request).Yields (partOf pair joint) (reply pair)
  /-- Each pair is done once. -/
  once : order.Perm (CountPair.all ids dependents)

/-- A list in which each name comes up once is known by what it has for each of them. -/
theorem eq_map_of_nodup {ι α : Type} {done : List (ι × α)} (hnodup : (done.map (·.1)).Nodup)
    {value : ι → α} (hvalue : ∀ i ∈ done.map (·.1), (i, value i) ∈ done) :
    done.map (·.2) = (done.map (·.1)).map value := by
  rw [List.map_map]
  refine List.map_congr_left fun e he => ?_
  have hmem := hvalue e.1 (List.mem_map_of_mem he)
  have hsame : e = (e.1, value e.1) := List.inj_on_of_nodup_map hnodup he hmem rfl
  exact congrArg Prod.snd hsame

/-- However the counts of a group are mixed, each of them belongs to a pair. -/
theorem exists_countsDone {window : Nat} (hwindow : 0 < window) {results : List CountResult}
    (hy : (gatherAll policy window (countJobs ids dependents)).Yields h results) :
    ∃ (joint : Action.interface.Joint (CountPair ids dependents))
      (order : List (CountPair ids dependents)) (reply : CountPair ids dependents → Reply Nat),
      CountsDone policy h joint order reply ∧ results = order.map (CountPair.outcome reply) := by
  set jobs := (CountPair.all ids dependents).map fun pair => (pair, CountPair.job pair) with hjobs
  have hnames : jobs.map (·.1) = CountPair.all ids dependents := by
    rw [hjobs, List.map_map]
    exact List.map_id _
  have hcounts : jobs.map (·.2) = countJobs ids dependents := by
    rw [hjobs, List.map_map]
    exact CountPair.map_job_all
  rw [← hcounts] at hy
  obtain ⟨joint, done, hparts, rfl⟩ :=
    exists_parts_gatherAll hwindow (hnames ▸ CountPair.nodup_all) hy
  have honce : (done.map (·.1)).Perm (CountPair.all ids dependents) := by
    refine hparts.once.trans ?_
    rw [List.map_map]
    exact hnames ▸ List.Perm.refl _
  have hends : ∀ pair : CountPair ids dependents, ∃ reply : Reply Nat,
      (pair, ⟨pair.job, reply⟩) ∈ done ∧
      (Run.calling policy "count_refs" pair.job.request).Yields (partOf pair joint) reply :=
    fun pair => hparts.ends _
      (List.mem_map_of_mem (List.mem_map_of_mem (CountPair.mem_all pair)))
  choose reply hdone hown using hends
  refine ⟨joint, done.map (·.1), reply, ⟨hparts.asked, hparts.ordered, hown, honce⟩, ?_⟩
  exact eq_map_of_nodup (honce.nodup_iff.mpr CountPair.nodup_all) fun pair _ => hdone pair

/-! ## What the group is told -/

theorem CountPair.failure?_outcome_eq_none {pair : CountPair ids dependents} :
    (outcome reply pair).failure? = none ↔ ∃ n, reply pair = .ok n := by
  rw [CountResult.failure?, outcome]
  cases reply pair <;> simp

theorem CountPair.failure?_outcome_eq_some {pair : CountPair ids dependents}
    {failure : CountFailure} : (outcome reply pair).failure? = some failure ↔
      ∃ f, reply pair = .error f ∧ failure = ⟨ids[pair.1], dependents[pair.2].table, f⟩ := by
  rw [CountResult.failure?, outcome]
  cases reply pair <;> simp [CountPair.job, eq_comm]

/-- What a group is told, by the replies to its pairs and the order in which they were done. -/
structure CountsTold (order : List (CountPair ids dependents))
    (reply : CountPair ids dependents → Reply Nat)
    (result : Except CountFailure (List RefCount)) : Prop where
  /-- There are counts just where every pair has its number. -/
  ok_iff : (∃ counts, result = .ok counts) ↔ ∀ pair, ∃ n, reply pair = .ok n
  /-- They are the exact sums, whatever the order. -/
  counts : ∀ found, (∀ pair, reply pair = .ok (found pair)) → result = .ok (refCounts found)
  /-- No sum on the way is too big for 64 bits unless a total is. -/
  fits : ∀ found, (∀ pair, reply pair = .ok (found pair)) →
    (∀ c ∈ refCounts found, c.total < 2 ^ 64) → ∀ front, front <+: order →
    ∀ c ∈ (front.map (CountPair.outcome reply)).foldl addCount (noReferences ids dependents),
      c.total < 2 ^ 64 ∧ ∀ entry ∈ c.perTable, entry.2 < 2 ^ 64
  /-- Otherwise it is told the failure of the first pair that failed. -/
  failed : ∀ failure, result = .error failure → ∃ front pair back f,
    order = front ++ pair :: back ∧ (∀ earlier ∈ front, ∃ n, reply earlier = .ok n) ∧
    reply pair = .error f ∧ failure = ⟨ids[pair.1], dependents[pair.2].table, f⟩

theorem countsTold_sumCounts (horder : order.Perm (CountPair.all ids dependents)) :
    CountsTold order reply
      (sumCounts ids dependents (order.map (CountPair.outcome reply))) := by
  have hnone : (order.map (CountPair.outcome reply)).findSome? CountResult.failure? = none ↔
      ∀ pair, ∃ n, reply pair = .ok n := by
    rw [List.findSome?_map, List.findSome?_eq_none_iff]
    refine forall_congr' fun pair => ?_
    simp only [horder.mem_iff, CountPair.mem_all, true_implies, Function.comp_apply]
    exact CountPair.failure?_outcome_eq_none
  -- Where every pair has its number, the outcomes are added up.
  have hsum : (∀ pair, ∃ n, reply pair = .ok n) →
      sumCounts ids dependents (order.map (CountPair.outcome reply)) =
        .ok ((order.map (CountPair.outcome reply)).foldl addCount
          (noReferences ids dependents)) := by
    intro hreply
    rw [sumCounts, hnone.mpr hreply]
  have hfound : ∀ found : CountPair ids dependents → Nat,
      (∀ pair, reply pair = .ok (found pair)) → ∀ pair, ∃ n, reply pair = .ok n :=
    fun found hreply pair => ⟨found pair, hreply pair⟩
  refine { ok_iff := ⟨?_, fun hreply => ⟨_, hsum hreply⟩⟩, counts := ?_, fits := ?_, failed := ?_ }
  · rintro ⟨counts, hok⟩
    rw [sumCounts] at hok
    rw [← hnone]
    split at hok
    · cases hok
    · assumption
  · intro found hreply
    rw [hsum (hfound found hreply), foldl_outcome horder hreply]
  · intro found hreply hbound front hfront
    exact foldl_outcome_lt horder hreply hbound hfront
  · intro failure herror
    rw [sumCounts] at herror
    split at herror
    · next first hfirst =>
      cases herror
      rw [List.findSome?_map, List.findSome?_eq_some_iff] at hfirst
      obtain ⟨front, pair, back, rfl, hfail, hfront⟩ := hfirst
      obtain ⟨f, hreply, hfailure⟩ := CountPair.failure?_outcome_eq_some.mp hfail
      exact ⟨front, pair, back, f, rfl,
        fun earlier he => CountPair.failure?_outcome_eq_none.mp (hfront earlier he),
        hreply, hfailure⟩
    · cases herror

/-- Counting the references of a group does not depend on the order in which its counts are done. It
makes one call for each pair of a member and a dependent, with the attempts of that call and nothing
else. If all of them have a number, the group is told the exact sums; otherwise it is told nothing
but the failure of one of them. From every point on the way it can come to an end. -/
theorem countGroup_totals (policy : RetryPolicy) (concurrency : Nat) (ids : List String)
    (dependents : List Dependent) :
    (∀ h, (countGroup policy concurrency ids dependents).Asks h → ∃ rest result,
      (countGroup policy concurrency ids dependents).Yields (h ++ rest) result) ∧
    ∀ h result, (countGroup policy concurrency ids dependents).Yields h result →
      ∃ (joint : Action.interface.Joint (CountPair ids dependents))
        (order : List (CountPair ids dependents)) (reply : CountPair ids dependents → Reply Nat),
        CountsDone policy h joint order reply ∧ CountsTold order reply result := by
  constructor
  · intro h hasks
    exact hasks.exists_yields Action.answer_nonempty
  · intro h result hy
    rw [countGroup, Program.bind_eq, Program.yields_bind] at hy
    obtain ⟨results, h, rest, rfl, hgather, rfl, rfl⟩ := hy
    obtain ⟨joint, order, reply, hdone, rfl⟩ :=
      exists_countsDone (Nat.lt_of_lt_of_le Nat.zero_lt_one (Nat.le_max_right _ _)) hgather
    rw [List.append_nil]
    exact ⟨joint, order, reply, hdone, countsTold_sumCounts hdone.once⟩

namespace Sample

/-- Projects that refer to regions in two columns, and a holding. -/
def countedTables : Tables where
  clock := instant
  tables := [
    ("projects", {
      columns := ["region_id", "old_id"]
      rows := [[("region_id", .str "r1"), ("old_id", .str "r2")],
        [("region_id", .str "r1"), ("old_id", .str "r1")]] }),
    ("holdings", {
      columns := ["region_id"]
      rows := [[("region_id", .str "r2")]] })]

/-- Of several calls in flight always the last goes on. -/
def lastFirst : (a : Action) → World (Faulty Tables) → a.Answer × World (Faulty Tables)
  | .pick others, w => (Fin.last others, w)
  | a, w => w.answer (Faulty.store Tables.store) a

/-- A member that comes up twice, and another one. -/
def countedIds : List String :=
  ["r1", "r2", "r1"]

/-- Two columns of one table, with another table in between. -/
def countedDependents : List Dependent :=
  [⟨"projects", "region_id"⟩, ⟨"holdings", "region_id"⟩, ⟨"projects", "old_id"⟩]

/-- Their counts, two of them in flight, with two attempts each. -/
def counting : Run (Except CountFailure (List RefCount)) :=
  countGroup { maxAttempts := 2 } 2 countedIds countedDependents

/-- Some attempts to count the holdings of the second member fail. -/
def lostCounts (times : Int) : List Fault :=
  [{ start := "count_refs holdings region_id r2", failure := .reported .transient "lost", times }]

/-- What is asked where some attempts fail. -/
def countingTranscript (times : Int) : Transcript :=
  counting.transcript lastFirst (faulty countedTables (lostCounts times))

def countingEnd (times : Int) : Except CountFailure (List RefCount) × World (Faulty Tables) :=
  counting.run lastFirst (faulty countedTables (lostCounts times))

end Sample

/-- One failed attempt delays a count until all others are done, and nothing else; a second one
fails the group. -/
theorem countGroup_totals_sample :
    ((Sample.countingEnd 1).2.state.log = ["count_refs holdings region_id r1",
      "count_refs projects old_id r1", "count_refs projects region_id r2",
      "count_refs holdings region_id r2 !transient", "count_refs projects region_id r1",
      "count_refs projects old_id r2", "count_refs projects region_id r1",
      "count_refs holdings region_id r1", "count_refs projects old_id r1",
      "count_refs holdings region_id r2"] ∧
    (Sample.countingEnd 1).1 = .ok [⟨"r1", 3, [("projects", 3), ("holdings", 0)]⟩,
      ⟨"r2", 2, [("projects", 1), ("holdings", 1)]⟩,
      ⟨"r1", 3, [("projects", 3), ("holdings", 0)]⟩] ∧
    (Sample.countingEnd 2).1 = .error ⟨"r2", "holdings", .reported .transient "lost"⟩) ∧
    ∃ (joint : Action.interface.Joint (CountPair Sample.countedIds Sample.countedDependents))
      (order : List (CountPair Sample.countedIds Sample.countedDependents))
      (reply : CountPair Sample.countedIds Sample.countedDependents → Reply Nat),
      CountsDone { maxAttempts := 2 } (Sample.countingTranscript 1) joint order reply ∧
      CountsTold order reply (Sample.countingEnd 1).1 := by
  constructor
  · decide +kernel
  · exact (countGroup_totals _ _ _ _).2 _ _ (Program.yields_transcript _ _ _)

end RegistryDedup
