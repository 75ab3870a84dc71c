import Mathlib.Data.List.Perm.Basic
import RegistryDedup.Merge.References
import RegistryDedup.Proofs.Run.Calls

/-!
# Transcripts of counting

Counts are in flight together, so that the attempts of several calls are mixed in a transcript.

- `yields_gather_cons`: one turn of the counting, in which some count in flight makes an attempt.
- `only_gather`: nothing but the counts is asked.
- `Gathered`, `yields_gather`: whatever the order of the attempts, each count is done once, and its
  outcome is the reply to an attempt of its own.
- `mem_countJobs`: the counts of a group are those of its ids and the dependents.
-/

namespace RegistryDedup

variable {policy : RetryPolicy} {h : Transcript}

/-- The call of a count. -/
def CountJob.request (job : CountJob) : Request :=
  .countReferences job.dependent.table job.dependent.column job.id

/-- One turn of the counting: some count in flight makes an attempt, after which it is tried again
or done. -/
theorem yields_gather_cons {f : Flight} {fs : List Flight} {waiting : List CountJob}
    {results : List CountResult} (hy : (gather policy (f :: fs) waiting).Yields h results) :
    ∃ (i : Fin (f :: fs).length) (x : Attempt Nat) (rest : Transcript),
      h = ⟨Action.pick fs.length, i⟩ :: ⟨Action.call ((f :: fs).get i).job.request, x⟩ :: rest ∧
      let flight := (f :: fs).get i
      let others := (f :: fs).eraseIdx i
      let reply := x.reply policy "count_refs"
      (flight.goesOn reply ∧
        (gather policy (⟨flight.job, flight.left - 1⟩ :: others) waiting).Yields rest results) ∨
      (¬ flight.goesOn reply ∧ ∃ later, results = ⟨flight.job, reply⟩ :: later ∧
        (gather policy (others ++ (waiting.take 1).map (Flight.start policy))
          (waiting.drop 1)).Yields rest later) := by
  rw [gather] at hy
  obtain ⟨i, _, rfl, x, rest, rfl, hy⟩ := hy
  refine ⟨i, x, rest, rfl, ?_⟩
  dsimp only [Program.bind] at hy ⊢
  split at hy
  · next hgo => exact .inl ⟨hgo, hy⟩
  · next hstop =>
    rw [Program.bind_eq, Program.yields_bind] at hy
    obtain ⟨later, h₁, h₂, rfl, hlater, rfl, rfl⟩ := hy
    rw [List.append_nil]
    exact .inr ⟨hstop, later, rfl, hlater⟩

/-- The jobs in flight are the one at a place and the others. -/
theorem flying_perm (flying : List Flight) (i : Fin flying.length) :
    (flying.map (·.job)).Perm ((flying.get i).job :: (flying.eraseIdx i).map (·.job)) := by
  have hperm := List.getElem_cons_eraseIdx_perm i.isLt
  exact (hperm.map (·.job)).symm

theorem started_jobs (policy : RetryPolicy) (jobs : List CountJob) :
    (jobs.map (Flight.start policy)).map (·.job) = jobs := by
  rw [List.map_map]
  exact List.map_id _

/-- A count that is done makes room for one that waits. -/
theorem refilled_perm (policy : RetryPolicy) (flying : List Flight) (waiting : List CountJob)
    (i : Fin flying.length) :
    ((flying.get i).job :: ((flying.eraseIdx i ++
      (waiting.take 1).map (Flight.start policy)).map (·.job) ++ waiting.drop 1)).Perm
      (flying.map (·.job) ++ waiting) := by
  rw [List.map_append, started_jobs, List.append_assoc, List.take_append_drop]
  exact (flying_perm flying i).symm.append_right waiting

/-- Where nothing is in flight after a place was free, nothing waits. -/
theorem drop_eq_nil_of_refilled {α β : Type} {others : List α} {start : β → α} {waiting : List β}
    (h : others ++ (waiting.take 1).map start = []) : waiting.drop 1 = [] := by
  cases waiting with
  | nil => rfl
  | cons first rest => simp at h

/-- Whether an action is one of counting some jobs: a count, or the choice which goes on. -/
def Counts (jobs : List CountJob) (a : Action) : Prop :=
  (∃ others, a = .pick others) ∨ ∃ job ∈ jobs, a = .call job.request

theorem Counts.mono {jobs jobs' : List CountJob} (hjobs : jobs ⊆ jobs') {a : Action}
    (ha : Counts jobs a) : Counts jobs' a := by
  refine ha.imp id ?_
  rintro ⟨job, hjob, rfl⟩
  exact ⟨job, hjobs hjob, rfl⟩

/-- Nothing is asked but the counts, and which of them goes on. -/
theorem only_gather (flying : List Flight) (waiting : List CountJob) :
    (gather policy flying waiting).Only (Counts (flying.map (·.job) ++ waiting)) := by
  induction flying, waiting using gather.induct policy with
  | case1 waiting =>
    rw [gather]
    exact Program.only_done
  | case2 waiting f fs ih₁ ih₂ =>
    rw [gather]
    refine ⟨.inl ⟨_, rfl⟩, fun i => ⟨.inr ⟨((f :: fs).get i).job, ?_, rfl⟩, fun x => ?_⟩⟩
    · have hmem : (f :: fs).get i ∈ f :: fs := List.get_mem (f :: fs) i
      exact List.mem_append_left _ (List.mem_map_of_mem hmem)
    · dsimp only [Program.bind]
      split
      · next hgo =>
        refine (ih₁ i x hgo).mono fun a ha => ha.mono ?_
        exact ((flying_perm (f :: fs) i).symm.append_right waiting).subset
      · refine ((ih₂ i).mono fun a ha => ha.mono ?_).bind fun _ => trivial
        exact List.Subset.trans (List.subset_cons_self _ _)
          (refilled_perm policy (f :: fs) waiting i).subset

theorem only_gatherAll (window : Nat) (jobs : List CountJob) :
    (gatherAll policy window jobs).Only (Counts jobs) := by
  refine (only_gather _ _).mono fun a ha => ha.mono ?_
  rw [started_jobs, List.take_append_drop]
  exact List.Subset.refl jobs

/-- The outcomes of counting some jobs, whatever the order of the attempts. -/
structure Gathered (policy : RetryPolicy) (jobs : List CountJob) (h : Transcript)
    (results : List CountResult) : Prop where
  /-- An outcome is the reply to an attempt of the count. -/
  answered : ∀ r ∈ results, ∃ x : Attempt Nat,
    ⟨Action.call r.job.request, x⟩ ∈ h ∧ x.reply policy "count_refs" = r.reply
  /-- Each count is done once. -/
  once : (results.map (·.job)).Perm jobs

/-- Counting goes on as long as a count is in flight or waits, which is why one has to be in flight
where one waits. -/
theorem yields_gather {flying : List Flight} {waiting : List CountJob}
    {results : List CountResult} (hflying : flying = [] → waiting = [])
    (hy : (gather policy flying waiting).Yields h results) :
    Gathered policy (flying.map (·.job) ++ waiting) h results := by
  induction flying, waiting using gather.induct policy generalizing h results with
  | case1 waiting =>
    rw [gather] at hy
    obtain ⟨rfl, rfl⟩ := hy
    rw [hflying rfl]
    exact { answered := fun r hr => (nomatch hr), once := .nil }
  | case2 waiting f fs ih₁ ih₂ =>
    obtain ⟨i, x, rest, rfl, ⟨hgo, hrest⟩ | ⟨hstop, later, rfl, hrest⟩⟩ := yields_gather_cons hy
    · -- The count is tried again, and no other one has moved.
      have hg := ih₁ i x hgo (fun hnil => (nomatch hnil)) hrest
      have hperm := (flying_perm (f :: fs) i).symm.append_right waiting
      refine { answered := fun r hr => ?_, once := hg.once.trans hperm }
      obtain ⟨y, hy, hreply⟩ := hg.answered r hr
      exact ⟨y, List.mem_cons_of_mem _ (List.mem_cons_of_mem _ hy), hreply⟩
    · -- Its place goes to a count that waits, if there is one.
      have hg := ih₂ i drop_eq_nil_of_refilled hrest
      have hperm := refilled_perm policy (f :: fs) waiting i
      refine { answered := ?_, once := (hg.once.cons _).trans hperm }
      rintro r (_ | ⟨_, hr⟩)
      · exact ⟨x, List.mem_cons_of_mem _ List.mem_cons_self, rfl⟩
      · obtain ⟨y, hy, hreply⟩ := hg.answered r hr
        exact ⟨y, List.mem_cons_of_mem _ (List.mem_cons_of_mem _ hy), hreply⟩

/-- With room for at least one count all counts are done. -/
theorem yields_gatherAll {window : Nat} (hwindow : 0 < window) {jobs : List CountJob}
    {results : List CountResult} (hy : (gatherAll policy window jobs).Yields h results) :
    Gathered policy jobs h results := by
  rw [gatherAll] at hy
  have hg := yields_gather ?_ hy
  · rwa [started_jobs, List.take_append_drop] at hg
  · intro hnil
    rw [List.map_eq_nil_iff, List.take_eq_nil_iff] at hnil
    rcases hnil with hzero | rfl
    · exact absurd hzero (Nat.ne_of_gt hwindow)
    · exact List.drop_nil

theorem mem_countJobs {ids : List String} {dependents : List Dependent} {job : CountJob}
    (hjob : job ∈ countJobs ids dependents) : job.id ∈ ids ∧ job.dependent ∈ dependents := by
  obtain ⟨⟨id, place⟩, hid, hjob⟩ := List.mem_flatMap.mp hjob
  obtain ⟨d, hd, rfl⟩ := List.mem_map.mp hjob
  exact ⟨(List.mem_zipIdx' hid).2 ▸ List.getElem_mem _, hd⟩

/-- The counts of a group fail just where one of them does. -/
theorem sumCounts_eq_error {ids : List String} {dependents : List Dependent}
    {results : List CountResult} :
    (∃ failure, sumCounts ids dependents results = .error failure) ↔
      ∃ r ∈ results, ∃ f, r.reply = .error f := by
  have hfail : ∀ r : CountResult, (∃ f, r.reply = .error f) ↔ r.failure?.isSome := by
    intro r
    rw [CountResult.failure?]
    cases r.reply <;> simp
  simp only [hfail, ← List.findSome?_isSome_iff]
  rw [sumCounts]
  cases results.findSome? CountResult.failure? <;> simp

/-- The failure of the counts of a group is that of one of them. -/
theorem exists_failed_of_sumCounts {ids : List String} {dependents : List Dependent}
    {results : List CountResult} {failure : CountFailure}
    (hsum : sumCounts ids dependents results = .error failure) :
    ∃ r ∈ results, r.reply = .error failure.failure := by
  rw [sumCounts] at hsum
  cases hfirst : results.findSome? CountResult.failure? with
  | none =>
    rw [hfirst] at hsum
    cases hsum
  | some first =>
    rw [hfirst] at hsum
    cases hsum
    obtain ⟨r, hr, hfailure⟩ := List.exists_of_findSome?_eq_some hfirst
    refine ⟨r, hr, ?_⟩
    rw [CountResult.failure?] at hfailure
    cases hreply : r.reply with
    | ok n =>
      rw [hreply] at hfailure
      cases hfailure
    | error f =>
      rw [hreply] at hfailure
      cases hfailure
      rfl

end RegistryDedup
