import RegistryDedup.Proofs.Merge.Safety
import RegistryDedup.Proofs.Store.Shared

/-!
# Runs that meet no failure

A run on tables on which no call fails comes to its end, and then each key has one entity. Others
may work on the tables meanwhile, as long as they add no entity and leave the columns as they are:
what is gone is gone, so that a loser that another run has deleted is one less to delete.

- `Tables.reliable`: tables at the end of a line that does not fail.
- `Later`: tables after some more calls of merges. `Harmless` others leave such tables.
- `Ready`: tables on which no call of a merge fails. Later tables are so too.
- `amid_mergeGroup`: a group is merged to its end, and one of its members is left.
- `amid_mergeAll`: a run among others comes to its end, with nothing left to merge.
  `reliable_mergeAll` is the run by itself.
-/

namespace RegistryDedup

open Interface.Environment

variable {s : Settings} {run : String} {g : DuplicateGroup} {policy : RetryPolicy}
  {h : Transcript} {t t' t'' : Tables} {others : Tables → Tables → Prop}

/-! ## Tables at the end of a line that does not fail -/

/-- Tables at the end of a line that does not fail. No other run has the lock, and the journal can
be written. -/
def Tables.reliable : Action.interface.Environment Tables
  | .call r, t, x, t' => x = Attempt.answered (Tables.call r t).1 ∧ t' = (Tables.call r t).2
  | .acquireLock _, t, x, t' => x = Except.ok () ∧ t' = t
  | .openJournal _, t, x, t' => x = Except.ok () ∧ t' = t
  | .appendJournal _ _, t, x, t' => x = Except.ok () ∧ t' = t
  | .pick _, t, _, t' => t' = t
  | .now, t, _, t' => t' = t
  | .releaseLock _, t, _, t' => t' = t

theorem reliable_truthful (a : Action) (t : Tables) (x : Action.interface.Answer a) (t' : Tables)
    (he : Tables.reliable a t x t') : Tables.truthful a t x t' := by
  cases a with
  | acquireLock path => exact he.2
  | openJournal path => exact he.2
  | appendJournal path entry => exact he.2
  | _ => exact he

theorem reliable_unreliable (a : Action) (t : Tables) (x : Action.interface.Answer a) (t' : Tables)
    (he : Tables.reliable a t x t') : Tables.unreliable a t x t' := by
  cases a with
  | call r =>
    obtain ⟨rfl, rfl⟩ := he
    exact .truly
  | pick others => exact he
  | now => exact he
  | releaseLock path => exact he
  | acquireLock path => exact he.2
  | openJournal path => exact he.2
  | appendJournal path entry => exact he.2

/-- Such tables as a handler. Of several calls in flight the first one goes on. -/
def Tables.reliably : (a : Action) → Tables → Action.interface.Answer a × Tables
  | .call r, t => (Attempt.answered (Tables.call r t).1, (Tables.call r t).2)
  | .acquireLock _, t => (Except.ok (), t)
  | .openJournal _, t => (Except.ok (), t)
  | .appendJournal _ _, t => (Except.ok (), t)
  | .pick others, t => (⟨0, Nat.succ_pos others⟩, t)
  | .now, t => (t.clock, t)
  | .releaseLock _, t => ((), t)

theorem reliable_reliably (a : Action) (t : Tables) :
    Tables.reliable a t (Tables.reliably a t).1 (Tables.reliably a t).2 := by
  cases a with
  | call r => exact ⟨rfl, rfl⟩
  | pick others => rfl
  | now => rfl
  | releaseLock path => rfl
  | acquireLock path => exact ⟨rfl, rfl⟩
  | openJournal path => exact ⟨rfl, rfl⟩
  | appendJournal path entry => exact ⟨rfl, rfl⟩

/-- There is always an answer. -/
theorem exists_reliable (a : Action) (t : Tables) : ∃ x t', Tables.reliable a t x t' :=
  ⟨_, _, reliable_reliably a t⟩

/-! ## Later tables -/

/-- Tables after some more calls of merges: the columns are as they were, and no entity is new. -/
structure Later (s : Settings) (t t' : Tables) : Prop where
  alike : Tables.Alike t t'
  census : (s.census t').Sublist (s.census t)

namespace Later

theorem refl (s : Settings) (t : Tables) : Later s t t := ⟨.refl t, .refl _⟩

theorem trans (h : Later s t t') (h' : Later s t' t'') : Later s t t'' :=
  ⟨h.alike.trans h'.alike, h'.census.trans h.census⟩

/-- An entity that is there was there before. -/
theorem resolvesTo (h : Later s t t') {id key : String} (hto : ResolvesTo s t' id key) :
    ResolvesTo s t id key :=
  mem_census.mp (h.census.subset (mem_census.mpr hto))

theorem repoint (hs : s.Foreign) {d : Dependent} (hd : d ∈ s.dependents)
    (source target : String) : Later s t (t.repoint d.table d.column source target).2 :=
  ⟨Tables.alike_repoint _ _ _ _ _, by rw [census_repoint hs hd]⟩

theorem deleteIds (id : String) :
    Later s t (t.deleteIds s.entity.table s.entity.idColumn [id]).2 :=
  ⟨Tables.alike_deleteIds _ _ _ _, census_deleteIds id⟩

end Later

/-- Others that leave later tables. -/
def Harmless (s : Settings) (others : Tables → Tables → Prop) : Prop :=
  ∀ t t', others t t' → Later s t t'

theorem harmless_eq (s : Settings) : Harmless s Eq := by
  rintro t t' rfl
  exact .refl s t

/-! ## Tables on which no call fails -/

/-- Tables on which no call of a merge fails. -/
structure Ready (s : Settings) (t : Tables) : Prop where
  entity : (t.find? s.entity.table).isSome
  dependents : ∀ d ∈ s.dependents, (t.find? d.table).isSome
  failingCounts : t.failingCounts = []
  failingDeletes : t.failingDeletes = []

namespace Ready

theorem alike (hr : Ready s t) (ha : Tables.Alike t t') : Ready s t' := by
  have hfind : ∀ name, (t'.find? name).isSome = (t.find? name).isSome := by
    intro name
    have hcolumns := congrArg Option.isSome (ha.columns name)
    rwa [Tables.columns?, Tables.columns?, Option.isSome_map, Option.isSome_map] at hcolumns
  exact {
    entity := by rw [hfind]; exact hr.entity
    dependents := fun d hd => by rw [hfind]; exact hr.dependents d hd
    failingCounts := ha.failingCounts.trans hr.failingCounts
    failingDeletes := ha.failingDeletes.trans hr.failingDeletes }

theorem fetch (hr : Ready s t) : t.fetchEntities s.entity = .ok (s.entities t) := by
  obtain ⟨u, hu⟩ := Option.isSome_iff_exists.mp hr.entity
  rw [Tables.fetchEntities, Tables.reading, hu, Settings.entities, Tables.rows_of_find? hu]

theorem count (hr : Ready s t) {d : Dependent} (hd : d ∈ s.dependents) (id : String) :
    t.countReferences d.table d.column id = .ok (t.references d id) := by
  obtain ⟨u, hu⟩ := Option.isSome_iff_exists.mp (hr.dependents d hd)
  rw [Tables.countReferences, hr.failingCounts, Tables.reading, hu, Tables.references,
    Tables.rows_of_find? hu]
  rfl

theorem repoint (hr : Ready s t) {d : Dependent} (hd : d ∈ s.dependents) (source target : String) :
    ∃ n, (t.repoint d.table d.column source target).1 = .ok n := by
  obtain ⟨u, hu⟩ := Option.isSome_iff_exists.mp (hr.dependents d hd)
  rw [Tables.repoint, Tables.changing, hu]
  exact ⟨_, rfl⟩

theorem allowed (hr : Ready s t) (table id : String) : (table, id) ∉ t.failingDeletes := by
  rw [hr.failingDeletes]
  exact List.not_mem_nil

theorem delete (hr : Ready s t) (column id : String) :
    ∃ n, (t.deleteIds s.entity.table column [id]).1 = .ok n := by
  obtain ⟨u, hu⟩ := Option.isSome_iff_exists.mp hr.entity
  have hfind : ([id].find? fun id => t.failingDeletes.contains (s.entity.table, id)) = none := by
    simpa using hr.allowed s.entity.table id
  rw [Tables.deleteIds, hfind]
  dsimp only
  rw [Tables.changing, hu]
  exact ⟨_, rfl⟩

end Ready

/-! ## One group -/

section Amid

variable (hothers : Harmless s others)
include hothers

/-- A call that fails on no tables that are ready needs one attempt. -/
theorem amid_calling {operation : String} {r : Request} {reply : Reply r.Answer}
    (hcall : ∀ u, Ready s u → ∃ a, (Tables.call r u).1 = .ok a) (hr : Ready s t)
    (hy : (Run.calling policy operation r).Yields h reply)
    (hf : (Tables.reliable.amid others).Follows t h t') :
    ∃ u, Later s t u ∧ Ready s u ∧ reply = (Tables.call r u).1 ∧ t' = (Tables.call r u).2 := by
  have hready : ∀ u, others t u → Ready s u := fun u hu => hr.alike (hothers t u hu).alike
  obtain ⟨u, hu, hreply, ht⟩ := calling_amid (fun u hu => hcall u (hready u hu)) hy
    (hf.amid_mono reliable_truthful)
  exact ⟨u, hothers t u hu, hready u hu, hreply, ht⟩

/-- What changes nothing is answered on later tables, and leaves such tables. -/
theorem later_of_quiet (hquiet : ∀ e ∈ h, e.1.Quiet)
    (hf : (Tables.reliable.amid others).Follows t h t') :
    Later s t t' ∧ ∀ e ∈ h, ∃ u, Later s t u ∧ Tables.reliable e.1 u e.2 u := by
  have hkeep : ∀ e ∈ h, ∀ u u', Later s t u → Tables.reliable.amid others e.1 u e.2 u' →
      Later s t u' := by
    rintro e he u u' hu ⟨v, hv, hstep⟩
    obtain rfl := unreliable_quiet (hquiet e he) (reliable_unreliable _ _ _ _ hstep)
    exact hu.trans (hothers u _ hv)
  refine ⟨hf.keeps (.refl s t) hkeep, fun e he => ?_⟩
  obtain ⟨u, u', hu, v, hv, hstep⟩ := hf.keeps_answers (.refl s t) hkeep e he
  obtain rfl := unreliable_quiet (hquiet e he) (reliable_unreliable _ _ _ _ hstep)
  exact ⟨u', hu.trans (hothers u u' hv), hstep⟩

theorem amid_countsFor (hr : Ready s t) {result : Except CountFailure (List RefCount)}
    (hy : (countsFor s g).Yields h result) (hf : (Tables.reliable.amid others).Follows t h t') :
    (∃ counts, result = .ok counts) ∧ Later s t t' := by
  have hquiet : ∀ e ∈ h, e.1.Quiet := fun e he => ((only_countsFor s g).yields hy e he).quiet
  obtain ⟨hlater, hanswers⟩ := later_of_quiet hothers hquiet hf
  refine ⟨?_, hlater⟩
  rw [countsFor] at hy
  split at hy
  · rw [countGroup, Program.bind_eq, Program.yields_bind] at hy
    obtain ⟨results, h₁, h₂, rfl, hgather, rfl, rfl⟩ := hy
    have hg := yields_gatherAll (Nat.lt_of_lt_of_le Nat.zero_lt_one (Nat.le_max_right _ _)) hgather
    cases hsum : sumCounts g.ids s.dependents results with
    | ok counts => exact ⟨counts, rfl⟩
    | error failure =>
      -- A count that failed has an answer that no table gives.
      obtain ⟨r, hmem, f, hfail⟩ := sumCounts_eq_error.mp ⟨failure, hsum⟩
      obtain ⟨x, hx, hreply⟩ := hg.answered r hmem
      have hjob : r.job ∈ countJobs g.ids s.dependents :=
        hg.once.mem_iff.mp (List.mem_map_of_mem hmem)
      obtain ⟨u, hu, hanswer, -⟩ := hanswers _ (List.mem_append_left _ hx)
      change x = Attempt.answered (u.countReferences _ _ _) at hanswer
      rw [hanswer, (hr.alike hu.alike).count (mem_countJobs hjob).2, hfail] at hreply
      cases hreply
  · obtain ⟨-, rfl⟩ := hy
    exact ⟨[], rfl⟩

theorem amid_writeJournal {key : String} {selection : Selection} {reply : Except FileError Unit}
    (hy : (writeJournal s run key selection).Yields h reply)
    (hf : (Tables.reliable.amid others).Follows t h t') : reply = .ok () ∧ Later s t t' := by
  rw [writeJournal] at hy
  split at hy
  · obtain ⟨rfl, rfl⟩ := hy
    obtain rfl := hf
    exact ⟨rfl, .refl s _⟩
  · obtain ⟨time, _, rfl, x, _, rfl, rfl, rfl⟩ := hy
    obtain ⟨u, ⟨t₁, hfirst, hu⟩, v, ⟨t₂, hsecond, hx, hv⟩, rfl⟩ := hf
    obtain rfl : u = t₁ := hu
    obtain rfl : t' = t₂ := hv
    exact ⟨hx, (hothers _ _ hfirst).trans (hothers _ _ hsecond)⟩

theorem amid_repointDependent (hs : s.Foreign) (hr : Ready s t) {keep : String} {d : Dependent}
    (hd : d ∈ s.dependents) {losers : List String} {moved : Nat}
    {reply : Except RepointFailure Nat}
    (hy : (repointDependent policy keep d losers moved).Yields h reply)
    (hf : (Tables.reliable.amid others).Follows t h t') : (∃ n, reply = .ok n) ∧ Later s t t' := by
  induction losers generalizing h t moved with
  | nil =>
    obtain ⟨rfl, rfl⟩ := hy
    obtain rfl := hf
    exact ⟨⟨moved, rfl⟩, .refl s _⟩
  | cons l losers ih =>
    rw [repointDependent, Program.bind_eq, Program.yields_bind] at hy
    obtain ⟨first, h₁, h₂, rfl, hcall, hy⟩ := hy
    obtain ⟨v, hf, hf'⟩ := follows_append.mp hf
    obtain ⟨u, hu, hready, rfl, rfl⟩ :=
      amid_calling (r := .repoint d.table d.column l keep) hothers
        (fun u hu => hu.repoint hd l keep) hr hcall hf
    obtain ⟨n, hn⟩ := hready.repoint hd l keep
    have hv : Later s t (u.repoint d.table d.column l keep).2 := hu.trans (.repoint hs hd l keep)
    rw [show (Tables.call (.repoint d.table d.column l keep) u).1 = .ok n from hn] at hy
    obtain ⟨hok, hlater⟩ := ih (hr.alike hv.alike) hy hf'
    exact ⟨hok, hv.trans hlater⟩

theorem amid_repointFrom (hs : s.Foreign) (hr : Ready s t) {keep : String} {losers : List String}
    {dependents : List Dependent} (hdependents : dependents ⊆ s.dependents) {moved : Tally}
    {reply : Except RepointFailure Tally}
    (hy : (repointFrom policy keep losers dependents moved).Yields h reply)
    (hf : (Tables.reliable.amid others).Follows t h t') :
    (∃ tally, reply = .ok tally) ∧ Later s t t' := by
  induction dependents generalizing h t moved with
  | nil =>
    obtain ⟨rfl, rfl⟩ := hy
    obtain rfl := hf
    exact ⟨⟨moved, rfl⟩, .refl s _⟩
  | cons d dependents ih =>
    rw [repointFrom, Program.bind_eq, Program.yields_bind] at hy
    obtain ⟨first, h₁, h₂, rfl, hfirst, hy⟩ := hy
    obtain ⟨u, hf, hf'⟩ := follows_append.mp hf
    rw [List.cons_subset] at hdependents
    obtain ⟨⟨n, rfl⟩, hu⟩ := amid_repointDependent hothers hs hr hdependents.1 hfirst hf
    obtain ⟨hok, hlater⟩ := ih (hr.alike hu.alike) hdependents.2 hy hf'
    exact ⟨hok, hu.trans hlater⟩

/-- All losers are gone. -/
theorem amid_purgeFrom (hr : Ready s t) {losers : List String} {first outcome : PurgeOutcome}
    (hy : (purgeFrom policy s.entity losers first).Yields h outcome)
    (hf : (Tables.reliable.amid others).Follows t h t') :
    Later s t t' ∧ ∀ l ∈ losers, ∀ key, ¬ ResolvesTo s t' l key := by
  induction losers generalizing h t first with
  | nil =>
    obtain ⟨rfl, -⟩ := hy
    obtain rfl := hf
    exact ⟨.refl s _, by simp⟩
  | cons l losers ih =>
    rw [purgeFrom, Program.bind_eq, Program.yields_bind] at hy
    obtain ⟨reply, h₁, h₂, rfl, hcall, hy⟩ := hy
    obtain ⟨v, hf, hf'⟩ := follows_append.mp hf
    obtain ⟨u, hu, hready, -, rfl⟩ :=
      amid_calling (r := .deleteIds s.entity.table s.entity.idColumn [l]) hothers
        (fun u hu => hu.delete s.entity.idColumn l) hr hcall hf
    have hv : Later s t (u.deleteIds s.entity.table s.entity.idColumn [l]).2 :=
      hu.trans (.deleteIds l)
    obtain ⟨hlater, hgone⟩ := ih (hr.alike hv.alike) hy hf'
    refine ⟨hv.trans hlater, List.forall_mem_cons.mpr ⟨fun key hto => ?_, hgone⟩⟩
    have hto' := hlater.resolvesTo hto
    exact ((resolvesTo_deleteIds (hready.allowed _ _) l key).mp hto').2 rfl

theorem amid_mergePlanned (hs : s.Foreign) (hr : Ready s t) {key : String} {selection : Selection}
    {report : GroupReport} {outcome : GroupReport × Bool}
    (hc : PlannedCourse s (s.plan key selection) report h outcome)
    (hf : (Tables.reliable.amid others).Follows t h t') :
    outcome.2 = false ∧ Later s t t' ∧
      ∀ l ∈ selection.loserIds, ∀ key', ¬ ResolvesTo s t' l key' := by
  -- A store in memory has no transactions.
  have hmerge : ∀ {merging u reply},
      (Run.merge s.retry (s.plan key selection)).Yields merging reply →
      (Tables.reliable.amid others).Follows t merging u → reply = .ok none ∧ Later s t u := by
    intro merging u reply hmerging hf
    obtain ⟨v, hv, -, hreply, hu⟩ := amid_calling (r := .merge (s.plan key selection)) hothers
      (fun _ _ => ⟨none, rfl⟩) hr hmerging hf
    obtain rfl : u = v := hu
    exact ⟨hreply, hv⟩
  cases hc with
  | failed hmerging => cases (hmerge hmerging hf).1
  | merged hmerging => cases (hmerge hmerging hf).1
  | stepwise hmerging hsteps =>
    obtain ⟨u, hf, hf'⟩ := follows_append.mp hf
    obtain ⟨-, hu⟩ := hmerge hmerging hf
    have hready := hr.alike hu.alike
    cases hsteps with
    | stuck hmoves =>
      obtain ⟨⟨tally, hok⟩, -⟩ :=
        amid_repointFrom hothers hs hready (List.Subset.refl _) hmoves hf'
      cases hok
    | purged hmoves hdeletes =>
      obtain ⟨v, hf', hf''⟩ := follows_append.mp hf'
      obtain ⟨-, hv⟩ := amid_repointFrom hothers hs hready (List.Subset.refl _) hmoves hf'
      obtain ⟨hlater, hgone⟩ := amid_purgeFrom hothers (hready.alike hv.alike) hdeletes hf''
      exact ⟨rfl, (hu.trans hv).trans hlater, hgone⟩

/-- A group is merged to its end, and one of its members is left. -/
theorem amid_mergeGroup (hs : s.Foreign) (hr : Ready s t) (hwet : s.dryRun = false)
    (hmembers : g.members ≠ []) {outcome : Except Stop (GroupReport × Bool)}
    (hy : (mergeGroup s run g).Yields h outcome)
    (hf : (Tables.reliable.amid others).Follows t h t') :
    (∃ report, outcome = .ok (report, false)) ∧ Later s t t' ∧
      ∃ keep, ∀ id ∈ g.ids, ∀ key, ResolvesTo s t' id key → id = keep := by
  cases yields_mergeGroup hy with
  | uncounted hcounting =>
    obtain ⟨⟨counts, hok⟩, -⟩ := amid_countsFor hothers hr hcounting hf
    cases hok
  | @empty _ counts _ hselect =>
    obtain ⟨selection, hsome⟩ := exists_select s.policy counts hmembers
    cases hselect.symm.trans hsome
  | previewed _ _ hdry => cases hwet.symm.trans hdry
  | unwritten hcounting _ _ hwriting =>
    obtain ⟨u, hf, hf'⟩ := follows_append.mp hf
    cases (amid_writeJournal hothers hwriting hf').1
  | @planned _ _ _ _ selection outcome hcounting hselect _ hwriting hrest =>
    obtain ⟨u, hf, hf'⟩ := follows_append.mp hf
    obtain ⟨v, hf', hf''⟩ := follows_append.mp hf'
    obtain ⟨-, hu⟩ := amid_countsFor hothers hr hcounting hf
    obtain ⟨-, hv⟩ := amid_writeJournal hothers hwriting hf'
    have huv := hu.trans hv
    obtain ⟨hfinal, hlater, hgone⟩ :=
      amid_mergePlanned hothers hs (hr.alike huv.alike) hrest hf''
    refine ⟨⟨outcome.1, ?_⟩, huv.trans hlater, selection.keep.id, fun id hid key hto => ?_⟩
    · rw [← hfinal]
    · rcases List.mem_cons.mp ((select_ids_perm hselect).mem_iff.mp hid) with hkeep | hl
      · exact hkeep
      · exact absurd hto (hgone id hl key)

/-! ## All groups -/

/-- All groups are merged to their ends, and one member is left of each. -/
theorem amid_mergeGroups (hs : s.Foreign) (hr : Ready s t) (hwet : s.dryRun = false)
    {groups : List DuplicateGroup} (hgroups : ∀ g ∈ groups, g.members ≠ [])
    {partialOf : List GroupReport → Summary} {streak : Nat} {done : List GroupReport}
    {result : Except Stop (List GroupReport)}
    (hy : (mergeGroups s run partialOf groups streak done).Yields h result)
    (hf : (Tables.reliable.amid others).Follows t h t') :
    (∃ reports, result = .ok reports) ∧ Later s t t' ∧
      ∀ g ∈ groups, ∃ keep, ∀ id ∈ g.ids, ∀ key, ResolvesTo s t' id key → id = keep := by
  induction groups generalizing h t streak done with
  | nil =>
    obtain ⟨rfl, rfl⟩ := hy
    obtain rfl := hf
    exact ⟨⟨done, rfl⟩, .refl s _, by simp⟩
  | cons g groups ih =>
    rw [List.forall_mem_cons] at hgroups
    rw [mergeGroups, Program.bind_eq, Program.yields_bind] at hy
    obtain ⟨outcome, h₁, h₂, rfl, hgroup, hy⟩ := hy
    obtain ⟨u, hf, hf'⟩ := follows_append.mp hf
    obtain ⟨⟨report, rfl⟩, hu, keep, hkeep⟩ :=
      amid_mergeGroup hothers hs hr hwet hgroups.1 hgroup hf
    change (mergeGroups s run partialOf groups 0 (done ++ [report])).Yields h₂ result at hy
    obtain ⟨hok, hlater, hrest⟩ := ih (hr.alike hu.alike) hgroups.2 hy hf'
    refine ⟨hok, hu.trans hlater, ?_⟩
    refine List.forall_mem_cons.mpr ⟨⟨keep, fun id hid key hto => ?_⟩, hrest⟩
    -- The groups after this one add no entity.
    exact hkeep id hid key (hlater.resolvesTo hto)

end Amid

/-- Each key has one entity at most. -/
def OneEach (s : Settings) (t : Tables) : Prop :=
  ∀ id id' key, key ≠ "" → ResolvesTo s t id key → ResolvesTo s t id' key → id = id'

theorem OneEach.later (hone : OneEach s t) (hlater : Later s t t') : OneEach s t' :=
  fun id id' key hkey hto hto' =>
    hone id id' key hkey (hlater.resolvesTo hto) (hlater.resolvesTo hto')

theorem one_lt_length_of_mem {α : Type} {xs : List α} {a b : α} (ha : a ∈ xs) (hb : b ∈ xs)
    (hne : a ≠ b) : 1 < xs.length := by
  obtain ⟨i, hi, rfl⟩ := List.getElem_of_mem ha
  obtain ⟨j, hj, rfl⟩ := List.getElem_of_mem hb
  have hplace : i ≠ j := by
    rintro rfl
    exact hne rfl
  omega

/-- Two entities with one key make a candidate. -/
theorem exists_candidate {id id' key : String} (hkey : key ≠ "") (hto : ResolvesTo s t id key)
    (hto' : ResolvesTo s t id' key) (hne : id ≠ id') :
    ∃ g ∈ (Grouping.build s.normalizer (s.entities t)).candidates, id ∈ g.ids ∧ id' ∈ g.ids := by
  obtain ⟨e, he, rfl, hname⟩ := resolvesTo_iff_entities.mp hto
  obtain ⟨e', he', rfl, hname'⟩ := resolvesTo_iff_entities.mp hto'
  have hmem : e ∈ (s.entities t).filter fun e => s.normalizer.key e.name == key :=
    List.mem_filter.mpr ⟨he, beq_iff_eq.mpr hname⟩
  have hmem' : e' ∈ (s.entities t).filter fun e => s.normalizer.key e.name == key :=
    List.mem_filter.mpr ⟨he', beq_iff_eq.mpr hname'⟩
  have hlen := one_lt_length_of_mem hmem hmem' fun heq => hne (congrArg Entity.id heq)
  exact ⟨⟨key, _⟩, Grouping.mem_candidates.mpr ⟨hkey, rfl, hlen⟩, List.mem_map_of_mem hmem,
    List.mem_map_of_mem hmem'⟩

/-- Where each key has one entity, nothing is left to merge. -/
theorem residuals_of_oneEach (hdistinct : DistinctIds s t) (hone : OneEach s t) :
    (Grouping.build s.normalizer (s.entities t)).residuals = [] := by
  rw [Grouping.residuals, List.map_eq_nil_iff, List.eq_nil_iff_forall_not_mem]
  intro g hg
  obtain ⟨hkey, hids, hmembers⟩ := candidates_resolve hdistinct hg
  obtain ⟨-, -, hlen⟩ := Grouping.mem_candidates.mp hg
  have hlen' : 1 < g.ids.length := by rwa [DuplicateGroup.ids, List.length_map]
  have hfirst : g.ids[0] ∈ g.ids := List.getElem_mem _
  have hsecond : g.ids[1] ∈ g.ids := List.getElem_mem _
  have heq := hone _ _ g.key hkey (hmembers _ hfirst) (hmembers _ hsecond)
  exact absurd (hids.getElem_inj_iff.mp heq) Nat.zero_ne_one

/-! ## A whole run -/

/-- A run that came to its end, with nothing left to merge. -/
def Completes (s : Settings) (result : Except Stop Summary) (t : Tables) : Prop :=
  (∃ summary, result = .ok summary ∧ summary.exitCode = 0) ∧ OneEach s t

/-- Settings that pass their own check, and tables that have all that the settings name. -/
def Supports (s : Settings) (t : Tables) : Prop :=
  s.check = .ok () ∧ ∀ x ∈ s.tables, t.checkColumns x.1 x.2 = .ok ()

theorem checkColumns_alike (ha : Tables.Alike t t') (table : String) (columns : List String) :
    t'.checkColumns table columns = t.checkColumns table columns := by
  have hcolumns := ha.columns table
  rw [Tables.columns?, Tables.columns?] at hcolumns
  rw [Tables.checkColumns, Tables.reading, Tables.checkColumns, Tables.reading]
  cases hu : t.find? table with
  | none =>
    rw [hu, Option.map_none, Option.map_eq_none_iff] at hcolumns
    rw [hcolumns]
  | some u =>
    rw [hu] at hcolumns
    obtain ⟨u', hu', heq⟩ := Option.map_eq_some_iff.mp hcolumns
    rw [hu']
    simp only [heq]

theorem Supports.alike (hsup : Supports s t) (ha : Tables.Alike t t') : Supports s t' :=
  ⟨hsup.1, fun x hx => (checkColumns_alike ha _ _).trans (hsup.2 x hx)⟩

theorem isSome_of_checkColumns {table : String} {columns : List String}
    (hok : t.checkColumns table columns = .ok ()) : (t.find? table).isSome := by
  rw [Tables.checkColumns, Tables.reading] at hok
  cases hu : t.find? table with
  | none =>
    rw [hu] at hok
    cases hok
  | some u => rfl

/-- On tables that have all, no call fails unless it is set up to. -/
theorem Supports.ready (hsup : Supports s t) (hcounts : t.failingCounts = [])
    (hdeletes : t.failingDeletes = []) : Ready s t where
  entity := isSome_of_checkColumns (hsup.2 _ List.mem_cons_self)
  dependents d hd := by
    have hmem : (d.table, [d.column]) ∈ s.tables :=
      List.mem_cons_of_mem _ (List.mem_map_of_mem hd)
    exact isSome_of_checkColumns (hsup.2 _ hmem)
  failingCounts := hcounts
  failingDeletes := hdeletes

section Runs

variable {backend : String} {result : Except Stop Summary} (hothers : Harmless s others)
include hothers

theorem amid_mergeFetched (hs : s.Foreign) (hdistinct : DistinctIds s t) (hr : Ready s t)
    (hwet : s.dryRun = false) (hy : (mergeFetched s backend run).Yields h result)
    (hf : (Tables.reliable.amid others).Follows t h t') : Completes s result t' := by
  have hfetches : ∀ {v v' asked reply}, Ready s v →
      (Run.fetchEntities s.retry s.entity).Yields asked reply →
      (Tables.reliable.amid others).Follows v asked v' →
      reply = .ok (s.entities v') ∧ Later s v v' := by
    intro v v' asked reply hv hfetch hf
    obtain ⟨u, hu, hready, hreply, hv'⟩ := amid_calling (r := .fetchEntities s.entity) hothers
      (fun u hu => ⟨_, hu.fetch⟩) hv hfetch hf
    obtain rfl : v' = u := hv'
    exact ⟨hreply.trans hready.fetch, hu⟩
  rw [mergeFetched, Program.bind_eq, Program.yields_bind] at hy
  obtain ⟨reply, h₁, h₂, rfl, hfetch, hy⟩ := hy
  obtain ⟨u, hopening, hf⟩ := follows_append.mp hf
  obtain ⟨rfl, hu⟩ := hfetches hr hfetch hopening
  have hready := hr.alike hu.alike
  obtain ⟨reports, h₃, h₄, rfl, hgroups, hy⟩ := Program.yields_bind.mp hy
  obtain ⟨v, hmerging, hf⟩ := follows_append.mp hf
  obtain ⟨⟨reports, rfl⟩, hv, hleft⟩ := amid_mergeGroups hothers hs hready hwet
    (fun g hg => Grouping.members_ne_nil hg) hgroups hmerging
  have hone : OneEach s v := by
    intro id id' key hkey hto hto'
    by_contra hne
    obtain ⟨g, hg, hid, hid'⟩ :=
      exists_candidate hkey (hv.resolvesTo hto) (hv.resolvesTo hto') hne
    obtain ⟨keep, hkeep⟩ := hleft g hg
    exact hne ((hkeep id hid key hto).trans (hkeep id' hid' key hto').symm)
  -- The tables are looked at once more, and there is nothing to report.
  obtain ⟨residuals, h₅, h₆, rfl, hresiduals, hy⟩ := Program.yields_bind.mp hy
  rw [findResiduals, Program.bind_eq, Program.yields_bind] at hresiduals
  obtain ⟨reply, h₇, h₈, rfl, hfetch, hresiduals⟩ := hresiduals
  rw [List.append_assoc] at hf
  obtain ⟨w, hclosing, hend⟩ := follows_append.mp hf
  obtain ⟨rfl, hw⟩ := hfetches (hready.alike hv.alike) hfetch hclosing
  obtain ⟨rfl, rfl⟩ := hresiduals
  obtain ⟨rfl, rfl⟩ := hy
  obtain rfl := hend
  have hlater := (hu.trans hv).trans hw
  refine ⟨⟨_, rfl, ?_⟩, hone.later hw⟩
  rw [residuals_of_oneEach (hdistinct.of_sublist hlater.census) (hone.later hw)]
  rfl

theorem amid_mergeJournaled (hs : s.Foreign) (hdistinct : DistinctIds s t) (hr : Ready s t)
    (hwet : s.dryRun = false) (hy : (mergeJournaled s backend run).Yields h result)
    (hf : (Tables.reliable.amid others).Follows t h t') : Completes s result t' := by
  rw [mergeJournaled] at hy
  split at hy
  · exact amid_mergeFetched hothers hs hdistinct hr hwet hy hf
  · obtain ⟨x, rest, rfl, hy⟩ := hy
    obtain ⟨u, ⟨v, hv, rfl, rfl⟩, hf⟩ := hf
    have hlater := hothers _ _ hv
    exact amid_mergeFetched hothers hs (hdistinct.of_sublist hlater.census)
      (hr.alike hlater.alike) hwet hy hf

theorem amid_mergeLocked (hs : s.Foreign) (hdistinct : DistinctIds s t) (hr : Ready s t)
    (hwet : s.dryRun = false) (hy : (mergeLocked s backend run).Yields h result)
    (hf : (Tables.reliable.amid others).Follows t h t') : Completes s result t' := by
  rw [mergeLocked] at hy
  split at hy
  · exact amid_mergeJournaled hothers hs hdistinct hr hwet hy hf
  · obtain ⟨x, rest, rfl, hy⟩ := hy
    obtain ⟨u, ⟨v, hv, rfl, rfl⟩, hf⟩ := hf
    have hlater := hothers _ _ hv
    change ((mergeJournaled s backend run).bind _).Yields rest result at hy
    obtain ⟨inner, h₁, h₂, rfl, hinner, hrelease⟩ := Program.yields_bind.mp hy
    obtain ⟨_, _, rfl, rfl, rfl⟩ := hrelease
    obtain ⟨w, hmerging, _, ⟨x, hx, hreleased⟩, rfl⟩ := follows_append.mp hf
    obtain rfl : t' = x := hreleased
    obtain ⟨hok, hone⟩ := amid_mergeJournaled hothers hs (hdistinct.of_sublist hlater.census)
      (hr.alike hlater.alike) hwet hinner hmerging
    exact ⟨hok, hone.later (hothers _ _ hx)⟩

theorem amid_checkAll (hsup : Supports s t) (hr : Ready s t) {tables : List (String × List String)}
    (htables : tables ⊆ s.tables) {reply : Reply Unit}
    (hy : (checkAll policy tables).Yields h reply)
    (hf : (Tables.reliable.amid others).Follows t h t') : reply = .ok () ∧ Later s t t' := by
  induction tables generalizing h t with
  | nil =>
    obtain ⟨rfl, rfl⟩ := hy
    obtain rfl := hf
    exact ⟨rfl, .refl s _⟩
  | cons x tables ih =>
    rw [List.cons_subset] at htables
    rw [checkAll, Program.bind_eq, Program.yields_bind] at hy
    obtain ⟨first, h₁, h₂, rfl, hcall, hy⟩ := hy
    obtain ⟨v, hf, hf'⟩ := follows_append.mp hf
    have hfits : ∀ u, others t u → (Tables.call (.checkColumns x.1 x.2) u).1 = .ok () :=
      fun u hu => (hsup.alike (hothers t u hu).alike).2 x htables.1
    obtain ⟨u, hu, rfl, hv⟩ := calling_amid (r := .checkColumns x.1 x.2)
      (fun u hu => ⟨(), hfits u hu⟩) hcall (hf.amid_mono reliable_truthful)
    obtain rfl : v = u := hv
    have hlater := hothers t v hu
    rw [hfits v hu] at hy
    obtain ⟨hok, hrest⟩ :=
      ih (hsup.alike hlater.alike) (hr.alike hlater.alike) htables.2 hy hf'
    exact ⟨hok, hlater.trans hrest⟩

/-- A run without failures on tables that have all comes to its end, with nothing left to merge,
whatever others do. -/
theorem amid_mergeAll (hs : s.Foreign) (hdistinct : DistinctIds s t) (hsup : Supports s t)
    (hr : Ready s t) (hwet : s.dryRun = false) (hy : (mergeAll s backend run).Yields h result)
    (hf : (Tables.reliable.amid others).Follows t h t') : Completes s result t' := by
  rw [mergeAll, Program.bind_eq, Program.yields_bind] at hy
  obtain ⟨reply, h₁, h₂, rfl, hpreflight, hy⟩ := hy
  obtain ⟨u, hf, hf'⟩ := follows_append.mp hf
  rw [preflight, hsup.1] at hpreflight
  obtain ⟨rfl, hu⟩ := amid_checkAll hothers hsup hr (List.Subset.refl _) hpreflight hf
  exact amid_mergeLocked hothers hs (hdistinct.of_sublist hu.census) (hr.alike hu.alike) hwet hy hf'

end Runs

/-- A run without failures on tables that have all comes to its end, with nothing left to merge. -/
theorem reliable_mergeAll {backend : String} {result : Except Stop Summary} (hs : s.Foreign)
    (hdistinct : DistinctIds s t) (hsup : Supports s t) (hr : Ready s t) (hwet : s.dryRun = false)
    (hy : (mergeAll s backend run).Yields h result) (hf : Tables.reliable.Follows t h t') :
    Completes s result t' :=
  amid_mergeAll (harmless_eq s) hs hdistinct hsup hr hwet hy
    (hf.mono fun _ _ _ _ => amid_eq.mpr)

end RegistryDedup
