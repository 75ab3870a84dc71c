import RegistryDedup.Proofs.Merge.Reliable

/-!
# A run after one that was broken off

Whatever a run did before it failed or was stopped, another run that meets no failure brings the
merge to its end.

- `Merged`: the tables keep their references, and each key has one entity.
- `mergeAll_resumes`: a run without failures after any other run leaves merged tables, and says so.
-/

namespace RegistryDedup

open Interface.Environment

variable {s s' : Settings} {run : String} {h : Transcript} {t t' : Tables} {backend : String}

/-- Tables that keep their references, and have one entity for each key. The references to the
entities of a key lead to the one that is left. -/
structure Merged (s : Settings) (before after : Tables) : Prop where
  faithful : Faithful s before after
  single : ∀ id key, ResolvesTo s before id key → key ≠ "" →
    ∃ keep, (s.census after).filter (fun entry => entry.2 == key) = [(keep, key)]

theorem Merged.of_oneEach (hfaithful : Faithful s t t') (hdistinct : DistinctIds s t')
    (hone : OneEach s t') : Merged s t t' := by
  refine ⟨hfaithful, fun id key hto hkey => ?_⟩
  obtain ⟨keep, hkeep⟩ := hfaithful.named id key hto hkey
  refine ⟨keep, ?_⟩
  have hnodup : (s.census t').Nodup := by
    rw [DistinctIds, ← census_ids] at hdistinct
    exact hdistinct.of_map _
  have hall : ∀ entry ∈ (s.census t').filter (fun entry => entry.2 == key),
      entry = (keep, key) := by
    rintro ⟨id', key'⟩ hentry
    rw [List.mem_filter, beq_iff_eq] at hentry
    obtain ⟨hentry, rfl⟩ := hentry
    rw [hone id' keep key' hkey (mem_census.mp hentry) hkeep]
  have hmem : (keep, key) ∈ (s.census t').filter (fun entry => entry.2 == key) :=
    List.mem_filter.mpr ⟨mem_census.mpr hkeep, beq_self_eq_true key⟩
  have hreplicate := List.eq_replicate_of_mem hall
  have hlen : ((s.census t').filter (fun entry => entry.2 == key)).length ≤ 1 := by
    have hfilter := hnodup.filter (fun entry => entry.2 == key)
    rw [hreplicate] at hfilter
    exact List.nodup_replicate.mp hfilter
  have hpos := List.length_pos_of_mem hmem
  rw [hreplicate, Nat.le_antisymm hlen hpos]
  rfl

/-- A run that meets no failure, after another run that failed or was stopped at any point, comes to
its end and says so, and then the tables are merged. The runs may differ in all but the tables that
they work on and the keys. -/
theorem mergeAll_resumes {backend' run' : String} (hagrees : s.Agrees s') (hs : s.Foreign)
    (hdistinct : DistinctIds s t) (hsup : Supports s' t) (hcounts : t.failingCounts = [])
    (hdeletes : t.failingDeletes = []) (hwet : s'.dryRun = false)
    (ha : (mergeAll s backend run).Asks h) (hf : Tables.unreliable.Follows t h t') :
    (∃ rest result last, (mergeAll s' backend' run').Yields rest result ∧
      Tables.reliable.Follows t' rest last) ∧
    ∀ rest result last, (mergeAll s' backend' run').Yields rest result →
      Tables.reliable.Follows t' rest last →
      (∃ summary, result = .ok summary ∧ summary.exitCode = 0) ∧ Merged s t last := by
  -- The first run leaves the tables fit for the second, wherever it was stopped.
  have hfirst := (asks_mergeAll ha).faithful hs hdistinct hf
  have halike := (follows_mayAsk hs (asks_mergeAll ha).mayAsk hf).1
  have hs' := hagrees.foreign hs
  have hdistinct' := hagrees.distinctIds (hfirst.distinctIds hdistinct)
  refine ⟨Program.exists_follows exists_reliable _ _, fun rest result last hy hrest => ?_⟩
  obtain ⟨hok, hone⟩ := reliable_mergeAll hs' hdistinct' (hsup.alike halike)
    ((hsup.ready hcounts hdeletes).alike halike) hwet hy hrest
  have hsecond := hagrees.faithful
    ((asks_mergeAll hy.asks).faithful hs' hdistinct' (hrest.mono reliable_unreliable))
  have hfaithful := hfirst.trans hs hsecond
  refine ⟨hok, .of_oneEach hfaithful (hfaithful.distinctIds hdistinct) ?_⟩
  intro id id' key hkey hto hto'
  exact hone id id' key hkey ((hagrees.resolvesTo last id key).mpr hto)
    ((hagrees.resolvesTo last id' key).mpr hto')

/-- The run that is stopped after the project was moved is made good by one with another policy. -/
theorem mergeAll_resumes_sample :
    Sample.calls ((Sample.transcript Sample.tables).take 5) = ["check_columns regions id,name",
      "check_columns projects region_id", "fetch_entities regions", "merge FOO r1 r2",
      "repoint projects region_id r2 r1"] ∧
    ∃ stopped, Tables.unreliable.Follows Sample.tables ((Sample.transcript Sample.tables).take 5)
        stopped ∧
      (∃ rest result last, (mergeAll { Sample.settings with policy := .mostReferenced }
          "memory" "again").Yields rest result ∧ Tables.reliable.Follows stopped rest last) ∧
      ∀ rest result last, (mergeAll { Sample.settings with policy := .mostReferenced }
          "memory" "again").Yields rest result → Tables.reliable.Follows stopped rest last →
        (∃ summary, result = .ok summary ∧ summary.exitCode = 0) ∧
          Merged Sample.settings Sample.tables last := by
  have hsupports : Supports { Sample.settings with policy := .mostReferenced } Sample.tables := by
    unfold Supports
    decide +kernel
  have hasks : (mergeAll Sample.settings "memory" "run").Asks (Sample.transcript Sample.tables) :=
    (Program.yields_transcript _ _ _).asks
  have hfollows := Sample.follows Sample.tables
  rw [← List.take_append_drop 5 (Sample.transcript Sample.tables)] at hasks hfollows
  obtain ⟨stopped, hstopped, -⟩ := follows_append.mp hfollows
  refine ⟨by decide +kernel, stopped, hstopped, ?_⟩
  exact mergeAll_resumes ⟨rfl, rfl, rfl⟩ Sample.foreign Sample.distinctIds hsupports rfl rfl rfl
    hasks.of_append hstopped

end RegistryDedup
