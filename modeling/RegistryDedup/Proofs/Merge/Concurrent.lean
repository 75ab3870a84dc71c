import RegistryDedup.Proofs.Merge.Outcome
import RegistryDedup.Proofs.Merge.Resume
import RegistryDedup.Proofs.Merge.Underway

/-!
# Runs that merge at the same time

Runs without a lock fetch, count, move and delete in any order. A run may have fetched a group of
which others have deleted members since, and counted references of which others have moved some.
Yet it chooses the survivor that the tables of the start elect, since all that others do favours
that one.

- `exists_choice`: before a run changes a group it has fetched and counted it.
- `underway_elects`: what was fetched and counted late, and in parts at different times, elects what
  the start elects.
- `mergeStep_party`: among runs that go by the survivors of the start another run does so too. It
  deletes a loser when it has moved all references to it, and none has come back since.
- `mergeAll_interleaved`: the runs together.
-/

namespace RegistryDedup

open Interface.Environment Relation

variable {ι : Type} [DecidableEq ι] {s s' : Settings} {backend run : String} {g : DuplicateGroup}
  {selection : Selection} {asked counting h : Transcript} {e : Action.interface.Exchange}
  {start t t' u : Tables}

/-! ## Before a change -/

/-- Before a run changes a group it has fetched the entities and counted the references. -/
theorem exists_choice (ha : (mergeAll s backend run).Asks (asked ++ [e]))
    (hchanges : ¬ e.1.Quiet) :
    ∃ entities g h selection,
      ⟨Action.call (.fetchEntities s.entity), Attempt.answered (.ok entities)⟩ ∈ asked ∧
      g ∈ (Grouping.build s.normalizer entities).candidates ∧
      e ∈ h ∧ (∀ e' ∈ h, e'.1 ≠ e.1 → e' ∈ asked) ∧
      Orderly s g h ∧ Chosen s g h selection ∧ Confined s g selection e.1 := by
  have hasked : ∀ e' ∈ asked ++ [e], e'.1 ≠ e.1 → e' ∈ asked := by
    intro e' he' hne
    refine (List.mem_append.mp he').resolve_right fun hlast => hne ?_
    rw [List.mem_singleton.mp hlast]
  have hlast : e ∈ asked ++ [e] := List.mem_append_right _ List.mem_cons_self
  rcases mergeAll_inOrder ha with hquiet |
    ⟨opening, closing, entities, segments, hsplit, hfetch, hquiet, hbegun, hsegments⟩
  · exact absurd (hquiet e hlast) hchanges
  rw [hsplit] at hasked hlast
  -- Outside of the groups nothing is changed.
  have hgroups : e ∈ (segments.map (·.2)).flatten := by
    rcases List.mem_append.mp hlast with he | he
    · exact absurd (hquiet e (List.mem_append_left _ he)) hchanges
    · refine (List.mem_append.mp he).resolve_right fun he => ?_
      exact hchanges (hquiet e (List.mem_append_right _ he))
  obtain ⟨part, hpart, he⟩ := List.mem_flatten.mp hgroups
  obtain ⟨seg, hseg, rfl⟩ := List.mem_map.mp hpart
  obtain ⟨-, ho⟩ := hsegments seg hseg
  obtain ⟨selection, hchosen, hconfined⟩ := ho.confined e he hchanges
  refine ⟨entities, seg.1, seg.2, selection, ?_, hbegun.subset (List.mem_map_of_mem hseg), he,
    fun e' he' => hasked e' ?_, ho, hchosen, hconfined⟩
  · refine hasked _ (List.mem_append_left _ hfetch) fun heq => hchanges ?_
    rw [← heq]
    exact id
  · refine List.mem_append_right _ (List.mem_append_left _ ?_)
    exact List.mem_flatten.mpr ⟨_, hpart, he'⟩

/-- The counts that the policy looks at, each the answer to an attempt of its own. -/
theorem exists_results {counts : List RefCount} (hneeds : s.policy.needsCounts = true)
    (hy : (countsFor s g).Yields counting (.ok counts)) :
    ∃ results : List CountResult,
      counts = results.foldl addCount (noReferences g.ids s.dependents) ∧
      (results.map (·.job)).Perm (countJobs g.ids s.dependents) ∧
      ∀ r ∈ results, ∃ x : Attempt Nat, ⟨Action.call r.job.request, x⟩ ∈ counting ∧
        x.reply s.retry "count_refs" = r.reply := by
  rw [countsFor, if_pos hneeds, countGroup, Program.bind_eq, Program.yields_bind] at hy
  obtain ⟨results, h₁, h₂, rfl, hgather, rfl, hsum⟩ := hy
  have hg := yields_gatherAll (Nat.lt_of_lt_of_le Nat.zero_lt_one (Nat.le_max_right _ _)) hgather
  rw [List.append_nil]
  refine ⟨results, ?_, hg.once, hg.answered⟩
  rw [sumCounts] at hsum
  split at hsum
  · cases hsum
  · exact Except.ok.inj hsum

/-! ## The choice of a run among others -/

section Runs

variable (hapart : ∀ d ∈ s.dependents, d.table ≠ s.entity.table) (hdistinct : DistinctIds s start)
  (hready : Ready s start)
include hapart hdistinct hready

/-- A call was answered by tables on the way. -/
theorem underway_answer (hf : (Tables.reliable.among (MergeStep s start)).Follows start asked u)
    {r : Request} {x : Attempt r.Answer} (hx : ⟨Action.call r, x⟩ ∈ asked) :
    ∃ w, Underway s start w ∧ x = .answered (Tables.call r w).1 ∧
      ReflTransGen (MergeStep s start) (Tables.call r w).2 u := by
  obtain ⟨w, w', hw, ⟨hanswer, rfl⟩, hafter⟩ := hf.exists_answer hx
  obtain ⟨-, hu⟩ := (Underway.initial hapart hdistinct).steps hapart hdistinct
    hready.failingDeletes hw
  exact ⟨w, hu, hanswer, hafter⟩

/-- What was fetched and counted on the way elects what the start elects. -/
theorem underway_elects (hf : (Tables.reliable.among (MergeStep s start)).Follows start asked u)
    {entities : List Entity} {counts : List RefCount}
    (hfetch : ⟨Action.call (.fetchEntities s.entity), Attempt.answered (.ok entities)⟩ ∈ asked)
    (hg : g ∈ (Grouping.build s.normalizer entities).candidates)
    (hy : (countsFor s g).Yields counting (.ok counts)) (hcounting : ∀ e ∈ counting, e ∈ asked)
    (hselect : select s.policy g.members counts = some selection) :
    ∃ g₀ sel, Elects s start g₀ sel ∧ g₀.key = g.key ∧ selection.keep = sel.keep ∧
      selection.losers ⊆ sel.losers := by
  obtain ⟨w, hw, hanswer, -⟩ := underway_answer hapart hdistinct hready hf hfetch
  obtain rfl : entities = s.entities w := by
    have hread := (hready.alike hw.later.alike).fetch
    exact Except.ok.inj ((Attempt.answered.inj hanswer).trans hread)
  obtain ⟨hkey, hids, -⟩ := candidates_resolve (hdistinct.of_sublist hw.later.census) hg
  obtain ⟨-, hmembers, hlen⟩ := Grouping.mem_candidates.mp hg
  obtain ⟨p, hleft, hkept⟩ := hw.left
  -- The members are those of the group at the start, less some losers.
  let g₀ : DuplicateGroup :=
    ⟨g.key, (s.entities start).filter fun e => s.normalizer.key e.name == g.key⟩
  have hfewer : g.members = g₀.members.filter p := by
    rw [hmembers, hleft, List.filter_filter, List.filter_filter]
    simp only [Bool.and_comm]
  have hg₀ : g₀ ∈ (Grouping.build s.normalizer (s.entities start)).candidates := by
    refine Grouping.mem_candidates.mpr ⟨hkey, rfl, Nat.lt_of_lt_of_le hlen ?_⟩
    rw [hfewer]
    exact List.length_filter_le _ _
  obtain ⟨sel, he⟩ := exists_elects hg₀
  have hp := hkept g₀ sel he
  -- Each count was made on tables that lean to the survivor.
  have hcounts : s.policy.needsCounts = true → ∃ results : List CountResult,
      counts = results.foldl addCount (noReferences g.ids s.dependents) ∧
      (results.map (·.job)).Perm (countJobs g.ids s.dependents) ∧
      ∀ r ∈ results, ∃ v, Leans s start start v ∧ r.job.dependent ∈ s.dependents ∧
        r.reply = .ok (v.references r.job.dependent r.job.id) := by
    intro hneeds
    obtain ⟨results, hfold, honce, hanswered⟩ := exists_results hneeds hy
    refine ⟨results, hfold, honce, fun r hr => ?_⟩
    obtain ⟨x, hx, hreply⟩ := hanswered r hr
    obtain ⟨v, hv, rfl, -⟩ := underway_answer hapart hdistinct hready hf (hcounting _ hx)
    have hjob := mem_countJobs (honce.mem_iff.mp (List.mem_map_of_mem hr))
    refine ⟨v, hv.leans, hjob.2, hreply.symm.trans ?_⟩
    exact (hready.alike hv.later.alike).count hjob.2 r.job.id
  rw [hfewer] at hselect
  have hagain := he.again hp ?_ ?_ hselect
  · refine ⟨g₀, sel, he, rfl, hagain.1, ?_⟩
    rw [hagain.2]
    exact List.filter_sublist.subset
  · intro hneeds
    obtain ⟨results, rfl, honce, hresults⟩ := hcounts hneeds
    have hmem : sel.keep ∈ g.members := by
      rw [hfewer]
      exact List.mem_filter.mpr ⟨he.mem_members.mpr (.inl rfl), hp⟩
    refine le_totalOf hids (List.mem_map_of_mem hmem) honce fun r hr => ?_
    obtain ⟨v, hv, hd, hreply⟩ := hresults r hr
    exact ⟨_, hreply, fun heq => heq ▸ hv.kept g₀ sel he _ hd⟩
  · intro hneeds e hloser hpe
    obtain ⟨results, rfl, honce, hresults⟩ := hcounts hneeds
    have hmem : e ∈ g.members := by
      rw [hfewer]
      exact List.mem_filter.mpr ⟨he.mem_members.mpr (.inr hloser), hpe⟩
    refine totalOf_le hids (List.mem_map_of_mem hmem) honce fun r hr => ?_
    obtain ⟨v, hv, hd, hreply⟩ := hresults r hr
    refine ⟨_, hreply, fun heq => ?_⟩
    exact hv.lost g₀ sel he _ (heq ▸ List.mem_map_of_mem hloser) _ hd

/-- Among runs that go by the survivors of the start, another run goes by them too. -/
theorem exists_elected (ha : (mergeAll s backend run).Asks (asked ++ [e]))
    (hf : (Tables.reliable.among (MergeStep s start)).Follows start asked u)
    (hchanges : ¬ e.1.Quiet) :
    ∃ g h selection g₀ sel, e ∈ h ∧ (∀ e' ∈ h, e'.1 ≠ e.1 → e' ∈ asked) ∧ Orderly s g h ∧
      Chosen s g h selection ∧ Confined s g selection e.1 ∧
      Elects s start g₀ sel ∧ g₀.key = g.key ∧ selection.keep = sel.keep ∧
      selection.loserIds ⊆ sel.loserIds := by
  obtain ⟨entities, g, h, selection, hfetch, hg, he, hasked, ho, hchosen, hconfined⟩ :=
    exists_choice ha hchanges
  obtain ⟨counting, counts, hcounting, hy, hselect⟩ := id hchosen
  obtain ⟨g₀, sel, helects, hkey, hkeep, hlosers⟩ :=
    underway_elects hapart hdistinct hready hf hfetch hg hy (fun e' he' => by
      refine hasked e' (hcounting.subset he') fun heq => hchanges ?_
      rw [← heq]
      exact ((only_countsFor s g).yields hy e' he').quiet) hselect
  exact ⟨g, h, selection, g₀, sel, he, hasked, ho, hchosen, hconfined, helects, hkey, hkeep,
    List.map_subset _ hlosers⟩

/-- Among runs that go by the survivors of the start, another run makes such steps only. -/
theorem mergeStep_party (ha : (mergeAll s backend run).Asks (asked ++ [e]))
    (hf : (Tables.reliable.among (MergeStep s start)).Follows start asked u)
    (hothers : ReflTransGen (MergeStep s start) u t) (he : Tables.reliable e.1 t e.2 t') :
    ReflTransGen (MergeStep s start) t t' := by
  by_cases hquiet : e.1.Quiet
  · rw [unreliable_quiet hquiet (reliable_unreliable _ _ _ _ he)]
  obtain ⟨g, h, selection, g₀, sel, hmem, hasked, ho, hchosen, hconfined, helects, -, hkeep,
    hlosers⟩ := exists_elected hapart hdistinct hready ha hf hquiet
  obtain ⟨a, x⟩ := e
  rcases hconfined with ⟨path, entry, rfl⟩ | rfl | ⟨d, hd, l, hl, rfl⟩ | ⟨l, hl, rfl⟩
  · rw [he.2]
  · rw [he.2]
    exact .refl
  · rw [he.2, hkeep]
    exact .single (.moved helects hd (hlosers hl))
  · rw [he.2]
    refine .single (.deleted helects (hlosers hl) fun d hd => ?_)
    -- The run has moved the references, and none has come back since.
    obtain ⟨before, after, hsplit⟩ := List.append_of_mem hmem
    obtain ⟨e', he', reply, rfl, -⟩ := ho.movedFirst selection hchosen before _ after hsplit
      ⟨_, _, _, rfl⟩ d hd l hl
    have hmoved := hasked _ (hsplit ▸ List.mem_append_left _ he') (by
      intro heq
      cases heq)
    obtain ⟨w, hw, -, hafter⟩ := underway_answer hapart hdistinct hready hf hmoved
    have hne : l ≠ selection.keep.id := by
      rw [hkeep]
      exact (helects.keep_ne (foreign_of_elsewhere hapart) hdistinct helects (hlosers hl)).symm
    have hnone := references_repoint_source hne w d
    have hw' : Underway s start (w.repoint d.table d.column l selection.keep.id).2 := by
      rw [hkeep]
      exact (hw.step hapart hdistinct hready.failingDeletes
        (.moved helects hd (hlosers hl))).2
    obtain ⟨hleans, -⟩ := hw'.steps hapart hdistinct hready.failingDeletes (hafter.trans hothers)
    exact hleans.free helects (hlosers hl) hd hnone

/-- What another run plans among such runs keeps the survivor that the start elects. -/
theorem elects_of_merge {plan : MergePlan}
    (ha : (mergeAll s backend run).Asks (asked ++ [e]))
    (hf : (Tables.reliable.among (MergeStep s start)).Follows start asked u)
    (he : e.1 = .call (.merge plan)) :
    ∃ g sel, Elects s start g sel ∧ g.key = plan.key ∧ sel.keep.id = plan.keep := by
  have hchanges : ¬ e.1.Quiet := by
    rw [he]
    exact fun hquiet => hquiet trivial
  obtain ⟨g, h, selection, g₀, sel, -, -, -, -, hconfined, helects, hkey, hkeep, -⟩ :=
    exists_elected hapart hdistinct hready ha hf hchanges
  refine ⟨g₀, sel, helects, ?_⟩
  rcases hconfined with ⟨path, entry, heq⟩ | heq | ⟨d, -, l, -, heq⟩ | ⟨l, -, heq⟩
  · cases he.symm.trans heq
  · obtain rfl := Request.merge.inj (Action.call.inj (he.symm.trans heq))
    exact ⟨hkey, congrArg Entity.id hkeep.symm⟩
  · cases he.symm.trans heq
  · cases he.symm.trans heq

end Runs

/-! ## Runs together -/

/-- A report of a group that was split into a survivor and losers has its plan. -/
theorem exists_merge_of_report {result : Except Stop Summary} {r : GroupReport} {keep : String}
    (hwet : s.dryRun = false) (hy : (mergeAll s backend run).Yields h result)
    (hr : r ∈ reportsOf result) (hkeep : r.keep = some keep) :
    ∃ e ∈ h, ∃ plan, e.1 = .call (.merge plan) ∧ plan.key = r.key ∧ plan.keep = keep := by
  obtain ⟨g, before, asked, after, transient, rfl, hgroup⟩ := (yields_mergeAll hy).exists_group hr
  cases yields_mergeGroup hgroup with
  | uncounted => cases hkeep
  | empty => cases hkeep
  | previewed _ _ hdry => cases hwet.symm.trans hdry
  | planned _ _ _ _ hrest =>
    obtain ⟨e, he, hmerge⟩ := hrest.exists_merge
    have hpreview := hrest.preview
    have hkey := congrArg GroupPreview.key hpreview
    have hsame := congrArg GroupPreview.keep hpreview
    refine ⟨e, ?_, _, hmerge, hkey.symm, ?_⟩
    · simp [he]
    · exact Option.some.inj (hsame.symm.trans hkeep)

section Together

variable {settings : ι → Settings} {backends runs : ι → String}
  (hagrees : ∀ i, s.Agrees (settings i)) (hpolicy : ∀ i, (settings i).policy = s.policy)
  (hapart : ∀ d ∈ s.dependents, d.table ≠ s.entity.table) (hdistinct : DistinctIds s t)
  (hready : ∀ i, Ready (settings i) t) {joint : Action.interface.Joint ι}
  (hp : Program.Interleaved (fun i => mergeAll (settings i) (backends i) (runs i)) joint)
  (hf : Tables.reliable.Follows t (joint.map (·.2)) t')
include hagrees hpolicy hapart hdistinct hready hp hf

/-- All runs together make such steps only, and each of them is among runs that do so. -/
theorem interleaved_among : ReflTransGen (MergeStep s t) t t' ∧
    ∀ i, ∃ u, (Tables.reliable.among (MergeStep (settings i) t)).Follows t (partOf i joint) u ∧
      ReflTransGen (MergeStep (settings i) t) u t' := by
  have hsteps : ∀ i, MergeStep (settings i) t = MergeStep s t := fun i =>
    mergeStep_eq (hagrees i) (hpolicy i)
  simp only [hsteps]
  refine hp.among (fun i asked e u v v' ha hf hothers he => ?_) hf
  rw [← hsteps i] at hf hothers ⊢
  exact mergeStep_party ((hagrees i).elsewhere hapart) ((hagrees i).distinctIds hdistinct)
    (hready i) ha hf hothers he

/-- All plans keep the survivors that the start elects. -/
theorem interleaved_plan {i : ι} {plan : MergePlan} (hmem : (i, e) ∈ joint)
    (he : e.1 = .call (.merge plan)) :
    ∃ g sel, Elects s t g sel ∧ g.key = plan.key ∧ sel.keep.id = plan.keep := by
  obtain ⟨front, back, rfl⟩ := List.append_of_mem hmem
  rw [← List.singleton_append, ← List.append_assoc] at hp
  rw [List.map_append] at hf
  obtain ⟨u, hfront, -⟩ := follows_append.mp hf
  have hasks := hp.of_append i
  rw [partOf_append, partOf_cons_self, partOf_nil] at hasks
  obtain ⟨-, heach⟩ := interleaved_among hagrees hpolicy hapart hdistinct hready
    hp.of_append.of_append hfront
  obtain ⟨v, hv, -⟩ := heach i
  obtain ⟨g, sel, helects, hplan⟩ := elects_of_merge ((hagrees i).elsewhere hapart)
    ((hagrees i).distinctIds hdistinct) (hready i) hasks hv he
  exact ⟨g, sel, helects.of_agrees (hagrees i) (hpolicy i), hplan⟩

/-- A run that has come to its end has said so, and each key has one entity then and later. -/
theorem interleaved_ended {i : ι} {result : Except Stop Summary}
    (hwet : (settings i).dryRun = false) (hsup : Supports (settings i) t)
    (hy : (mergeAll (settings i) (backends i) (runs i)).Yields (partOf i joint) result) :
    (∃ summary, result = .ok summary ∧ summary.exitCode = 0) ∧ OneEach s t' := by
  obtain ⟨-, heach⟩ := interleaved_among hagrees hpolicy hapart hdistinct hready hp hf
  obtain ⟨u, hfollows, hothers⟩ := heach i
  have hapart' := (hagrees i).elsewhere hapart
  have hharmless : Harmless (settings i) (ReflTransGen (MergeStep (settings i) t)) :=
    harmless_mergeStep hapart'
  obtain ⟨hok, hended⟩ := amid_mergeAll hharmless (foreign_of_elsewhere hapart')
    ((hagrees i).distinctIds hdistinct) hsup (hready i) hwet hy hfollows.of_among
  refine ⟨hok, fun id id' key hkey hto hto' => ?_⟩
  exact hended.later (hharmless _ _ hothers) id id' key hkey
    (((hagrees i).resolvesTo t' id key).mpr hto) (((hagrees i).resolvesTo t' id' key).mpr hto')

end Together

/-- Any number of runs that work on the same tables by the same policy, and meet no failure. Each
key has one survivor, whatever the order in which the runs ask, and at whatever point: all plans
keep it. At every point the tables keep their references. Where a run has come to its end it has
said so, its reports name the survivors, and each key has one entity. -/
theorem mergeAll_interleaved {settings : ι → Settings} {backends runs : ι → String}
    (hagrees : ∀ i, s.Agrees (settings i)) (hpolicy : ∀ i, (settings i).policy = s.policy)
    (hwet : ∀ i, (settings i).dryRun = false)
    (hapart : ∀ d ∈ s.dependents, d.table ≠ s.entity.table) (hdistinct : DistinctIds s t)
    (hsup : ∀ i, Supports (settings i) t) (hcounts : t.failingCounts = [])
    (hdeletes : t.failingDeletes = []) :
    ∃ survivor : String → String, ∀ joint t',
      Program.Interleaved (fun i => mergeAll (settings i) (backends i) (runs i)) joint →
      Tables.reliable.Follows t (joint.map (·.2)) t' →
      (∀ i e plan, (i, e) ∈ joint → e.1 = .call (.merge plan) → plan.keep = survivor plan.key) ∧
      Faithful s t t' ∧
      ∀ i result, (mergeAll (settings i) (backends i) (runs i)).Yields (partOf i joint) result →
        (∃ summary, result = .ok summary ∧ summary.exitCode = 0 ∧
          ∀ r ∈ summary.groups, ∀ keep, r.keep = some keep → keep = survivor r.key) ∧
        Merged s t t' := by
  obtain ⟨survivor, hsurvivor⟩ := Elects.exists_survivor s t
  have hready : ∀ i, Ready (settings i) t := fun i => (hsup i).ready hcounts hdeletes
  refine ⟨survivor, fun joint t' hp hf => ?_⟩
  have hplans : ∀ i e plan, (i, e) ∈ joint → e.1 = .call (.merge plan) →
      plan.keep = survivor plan.key := by
    intro i e plan hmem he
    obtain ⟨g, sel, helects, hkey, hkeep⟩ :=
      interleaved_plan hagrees hpolicy hapart hdistinct hready hp hf hmem he
    rw [← hkeep, hsurvivor g sel helects, hkey]
  obtain ⟨hall, -⟩ := interleaved_among hagrees hpolicy hapart hdistinct hready hp hf
  obtain ⟨-, hu⟩ := (Underway.initial hapart hdistinct).steps hapart hdistinct hdeletes hall
  refine ⟨hplans, hu.faithful, fun i result hy => ?_⟩
  obtain ⟨⟨summary, rfl, hexit⟩, hone⟩ := interleaved_ended hagrees hpolicy hapart hdistinct hready
    hp hf (hwet i) (hsup i) hy
  refine ⟨⟨summary, rfl, hexit, fun r hr keep hkeep => ?_⟩,
    .of_oneEach hu.faithful (hu.faithful.distinctIds hdistinct) hone⟩
  obtain ⟨e, he, plan, hmerge, hkey, rfl⟩ := exists_merge_of_report (hwet i) hy hr hkeep
  rw [hplans i e plan (mem_partOf.mp he) hmerge, hkey]

namespace Sample

/-- The three regions of before, of which none is set up to be refused. -/
def shared : Tables :=
  { refusing with failingDeletes := [] }

/-- Two runs. The second one counts the references when the first has moved them, and plans its
merge when the losers are gone. -/
def woven : Program.Woven Bool Action.interface (Except Stop Summary) Tables :=
  Program.weave Tables.reliably
    ([(false, 2), (true, 3), (false, 10), (true, 6), (false, 2), (true, 6), (false, 1)].flatMap
      fun (i, turns) => List.replicate turns i)
    (fun _ => mergeAll referenced "memory" "run") shared

end Sample

/-- Both runs keep the second region, and it is left. -/
theorem mergeAll_interleaved_sample :
    Sample.woven.joint.filterMap (fun (i, e) => match e.1 with
      | .call (.repoint _ _ source target) => some (i, source, target)
      | .call (.merge plan) => some (i, plan.key, plan.keep)
      | .call (.deleteIds _ _ ids) => some (i, "delete", ids.headD "")
      | _ => none) = [(false, "FOO", "r2"), (false, "r1", "r2"), (false, "r3", "r2"),
        (false, "delete", "r1"), (false, "delete", "r3"), (true, "FOO", "r2"),
        (true, "r1", "r2"), (true, "r3", "r2"), (true, "delete", "r1"), (true, "delete", "r3")] ∧
    ∃ survivor : String → String,
      (∀ i e plan, (i, e) ∈ Sample.woven.joint → e.1 = .call (.merge plan) →
        plan.keep = survivor plan.key) ∧
      Faithful Sample.referenced Sample.shared Sample.woven.state ∧
      ∀ i, ∃ result, (mergeAll Sample.referenced "memory" "run").Yields
          (partOf i Sample.woven.joint) result ∧
        (∃ summary, result = .ok summary ∧ summary.exitCode = 0 ∧
          ∀ r ∈ summary.groups, ∀ keep, r.keep = some keep → keep = survivor r.key) ∧
        Merged Sample.referenced Sample.shared Sample.woven.state := by
  have hsupports : Supports Sample.referenced Sample.shared := by
    unfold Supports
    decide +kernel
  have hdistinct : DistinctIds Sample.referenced Sample.shared := Sample.refusing_distinctIds
  have hfollows : Tables.reliable.Follows Sample.shared (Sample.woven.joint.map (·.2))
      Sample.woven.state :=
    Program.follows_weave id reliable_reliably _ _ Sample.shared
  have hinterleaved : Program.Interleaved
      (fun _ => mergeAll Sample.referenced "memory" "run") Sample.woven.joint :=
    Program.interleaved_weave _ _ _ _
  have hagrees : ∀ _ : Bool, Sample.referenced.Agrees Sample.referenced :=
    fun _ => ⟨rfl, rfl, rfl⟩
  obtain ⟨survivor, hall⟩ := mergeAll_interleaved hagrees (fun _ => rfl) (fun _ => rfl)
    Sample.referenced_elsewhere hdistinct (fun _ => hsupports) rfl rfl
  obtain ⟨hplans, hfaithful, hended⟩ := hall _ _ hinterleaved hfollows
  refine ⟨by decide +kernel, survivor, hplans, hfaithful, fun i => ?_⟩
  have hend : ∀ i, (Sample.woven.rest i).result?.isSome := by decide +kernel
  obtain ⟨result, hresult⟩ := Option.isSome_iff_exists.mp (hend i)
  have hyields : (mergeAll Sample.referenced "memory" "run").Yields
      (partOf i Sample.woven.joint) result := Program.yields_weave _ hresult
  exact ⟨result, hyields, hended i result hyields⟩

end RegistryDedup
