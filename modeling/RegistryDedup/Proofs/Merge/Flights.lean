import Mathlib.Data.List.Dedup
import Mathlib.Data.List.InsertIdx
import RegistryDedup.Proofs.Interleaving
import RegistryDedup.Proofs.Merge.References

/-!
# Counts in flight

Each count in flight asks what it would ask by itself; the others only come in between. Two counts
may be the same in all that they ask, so that the counts are told apart by names that are given to
them here and of which the counting knows nothing.

- `Flight.Ends`: what one count asks by itself from some point on, and the reply that it ends with.
- `Parts`: a transcript of counting taken apart into those of its counts.
- `Parts.retried`, `Parts.finished`: the step; a count makes an attempt, after which it is tried
  again or done.
- `exists_parts`, `exists_parts_gatherAll`: the run; every transcript of counting can be taken apart.
-/

namespace RegistryDedup

variable {policy : RetryPolicy} {h rest : Transcript}

/-! ## One count -/

/-- Whether an action is the choice which of several calls goes on. -/
def Action.isPick : Action → Bool
  | pick _ => true
  | _ => false

/-- All that a run asked but for the choices which call goes on. -/
def withoutPicks (h : Transcript) : Transcript :=
  h.filter fun e => !e.1.isPick

namespace Flight

/-- A count in flight that asks nothing more but its attempts, of which the last has its reply. -/
def Ends (policy : RetryPolicy) (flight : Flight) (h : Transcript) (reply : Reply Nat) : Prop :=
  (attempts policy "count_refs" (Run.attempt flight.job.request) flight.left).Yields h reply

variable {flight : Flight} {x : Attempt Nat} {reply : Reply Nat}

/-- A count that is tried again has one attempt less. -/
theorem ends_of_goesOn (hgo : flight.goesOn (x.reply policy "count_refs") = true)
    (hends : Ends policy ⟨flight.job, flight.left - 1⟩ rest reply) :
    flight.Ends policy (⟨Action.call flight.job.request, x⟩ :: rest) reply := by
  obtain ⟨job, left⟩ := flight
  cases hx : x.reply policy "count_refs" with
  | ok n =>
    rw [hx] at hgo
    cases hgo
  | error f =>
    rw [hx] at hgo
    cases left with
    | zero => cases hgo
    | succ left =>
      have hretry : f.isRetryable = true := by simpa [goesOn] using hgo
      exact Run.yields_attempts_again hx hretry hends

/-- A count that is not tried again ends with the reply to its attempt. -/
theorem ends_of_not_goesOn (hstop : ¬flight.goesOn (x.reply policy "count_refs") = true) :
    flight.Ends policy [⟨Action.call flight.job.request, x⟩] (x.reply policy "count_refs") := by
  refine Run.yields_attempts_last fun f hx hretry => ?_
  by_contra hleft
  refine hstop ?_
  rw [show x.reply policy "count_refs" = .error f from hx]
  simp [goesOn, hleft, hretry]

end Flight

/-! ## All counts -/

variable {ι : Type}

/-- All counts in flight and all that wait, as they will be in flight. -/
def pendingOf (policy : RetryPolicy) (flying : List (ι × Flight)) (waiting : List (ι × CountJob)) :
    List (ι × Flight) :=
  flying ++ waiting.map fun w => (w.1, Flight.start policy w.2)

/-- A count that waits is in flight as it will be when its turn comes. -/
theorem pendingOf_append_take (policy : RetryPolicy) (flying : List (ι × Flight)) (waiting : List (ι × CountJob))
    (room : Nat) :
    pendingOf policy (flying ++ (waiting.take room).map fun w => (w.1, Flight.start policy w.2))
      (waiting.drop room) = pendingOf policy flying waiting := by
  rw [pendingOf, List.append_assoc, ← List.map_append, List.take_append_drop, pendingOf]

/-- One turn of the counting in terms of the names. -/
theorem yields_gather_named {flying : List (ι × Flight)} {waiting : List (ι × CountJob)}
    {results : List CountResult} (hne : flying ≠ [])
    (hy : (gather policy (flying.map (·.2)) (waiting.map (·.2))).Yields h results) :
    ∃ (i : ι) (flight : Flight) (others : List (ι × Flight)) (choice : Action.interface.Exchange)
      (x : Attempt Nat) (later : Transcript),
      flying.Perm ((i, flight) :: others) ∧ choice.1.isPick = true ∧
      h = choice :: ⟨Action.call flight.job.request, x⟩ :: later ∧
      (flight.goesOn (x.reply policy "count_refs") = true ∧
          (gather policy (((i, ⟨flight.job, flight.left - 1⟩) :: others).map (·.2))
            (waiting.map (·.2))).Yields later results ∨
        ¬flight.goesOn (x.reply policy "count_refs") = true ∧ ∃ results',
          results = ⟨flight.job, x.reply policy "count_refs"⟩ :: results' ∧
          (gather policy
            ((others ++ (waiting.take 1).map fun w => (w.1, Flight.start policy w.2)).map (·.2))
            ((waiting.drop 1).map (·.2))).Yields later results') := by
  obtain ⟨first, flying, rfl⟩ := List.exists_cons_of_ne_nil hne
  rw [List.map_cons] at hy
  obtain ⟨place, x, later, rfl, hturn⟩ := yields_gather_cons hy
  have hplace : place.val < (first :: flying).length := by
    simpa using place.isLt
  have hget : (first.2 :: flying.map (·.2)).get place = (first :: flying)[place.val].2 :=
    List.getElem_map (·.2) (l := first :: flying)
  have herase : (first.2 :: flying.map (·.2)).eraseIdx place =
      ((first :: flying).eraseIdx place).map (·.2) :=
    List.eraseIdx_map (fun f : ι × Flight => f.2) (first :: flying) place
  rw [hget, herase] at hturn
  rw [hget]
  refine ⟨(first :: flying)[place.val].1, (first :: flying)[place.val].2,
    (first :: flying).eraseIdx place, _, x, later, ?_, rfl, rfl, ?_⟩
  · exact (List.getElem_cons_eraseIdx_perm hplace).symm
  · obtain ⟨hgo, hlater⟩ | ⟨hstop, results', rfl, hlater⟩ := hturn
    · exact .inl ⟨hgo, hlater⟩
    · refine .inr ⟨hstop, results', rfl, ?_⟩
      rw [List.map_append, List.map_map, List.map_drop]
      rw [← List.map_take, List.map_map] at hlater
      exact hlater

variable [DecidableEq ι]

/-- What was asked for some counts, taken apart: `joint` names the count that each exchange belongs
to, and `done` has the counts in the order in which they were done. -/
structure Parts (policy : RetryPolicy) (pending : List (ι × Flight)) (h : Transcript)
    (joint : Action.interface.Joint ι) (done : List (ι × CountResult)) : Prop where
  asked : joint.map (·.2) = withoutPicks h
  /-- A count is done with its last attempt. -/
  ordered : done.map (·.1) = (joint.map (·.1)).dedup
  /-- Each count is done once. -/
  once : (done.map (·.1)).Perm (pending.map (·.1))
  /-- Each asks what it would ask by itself. -/
  ends : ∀ f ∈ pending, ∃ reply, (f.1, ⟨f.2.job, reply⟩) ∈ done ∧
    f.2.Ends policy (partOf f.1 joint) reply

namespace Parts

variable {pending others : List (ι × Flight)} {joint : Action.interface.Joint ι}
  {done : List (ι × CountResult)} {i : ι} {flight : Flight} {x : Attempt Nat}
  {choice : Action.interface.Exchange}

theorem perm {pending' : List (ι × Flight)} (hp : Parts policy pending h joint done)
    (hperm : pending.Perm pending') : Parts policy pending' h joint done where
  asked := hp.asked
  ordered := hp.ordered
  once := hp.once.trans (hperm.map _)
  ends f hf := hp.ends f (hperm.mem_iff.mpr hf)

/-- Just the counts that are pending have attempts. -/
theorem mem_names (hp : Parts policy pending h joint done) :
    i ∈ joint.map (·.1) ↔ i ∈ pending.map (·.1) := by
  rw [← hp.once.mem_iff, hp.ordered, List.mem_dedup]

theorem withoutPicks_cons (hchoice : choice.1.isPick = true) (e : Action.interface.Exchange)
    (he : e.1.isPick = false) : withoutPicks (choice :: e :: rest) = e :: withoutPicks rest := by
  unfold withoutPicks
  rw [List.filter_cons_of_neg (by simp [hchoice]), List.filter_cons_of_pos (by simp [he])]

/-- A count makes an attempt and is tried again. -/
theorem retried (hi : i ∉ others.map (·.1)) (hchoice : choice.1.isPick = true)
    (hgo : flight.goesOn (x.reply policy "count_refs") = true)
    (hp : Parts policy ((i, ⟨flight.job, flight.left - 1⟩) :: others) rest joint done) :
    Parts policy ((i, flight) :: others)
      (choice :: ⟨Action.call flight.job.request, x⟩ :: rest)
      ((i, ⟨Action.call flight.job.request, x⟩) :: joint) done where
  asked := by
    rw [withoutPicks_cons hchoice _ rfl, ← hp.asked]
    rfl
  ordered := by
    rw [hp.ordered, List.map_cons, List.dedup_cons_of_mem (hp.mem_names.mpr List.mem_cons_self)]
  once := hp.once
  ends := by
    rintro f (_ | ⟨_, hf⟩)
    · obtain ⟨reply, hdone, hends⟩ := hp.ends _ List.mem_cons_self
      refine ⟨reply, hdone, ?_⟩
      rw [partOf_cons_self]
      exact Flight.ends_of_goesOn hgo hends
    · obtain ⟨reply, hdone, hends⟩ := hp.ends f (List.mem_cons_of_mem _ hf)
      refine ⟨reply, hdone, ?_⟩
      rwa [partOf_cons_of_ne]
      rintro rfl
      exact hi (List.mem_map_of_mem hf)

/-- A count makes an attempt and is done. -/
theorem finished (hi : i ∉ others.map (·.1)) (hchoice : choice.1.isPick = true)
    (hstop : ¬flight.goesOn (x.reply policy "count_refs") = true)
    (hp : Parts policy others rest joint done) :
    Parts policy ((i, flight) :: others)
      (choice :: ⟨Action.call flight.job.request, x⟩ :: rest)
      ((i, ⟨Action.call flight.job.request, x⟩) :: joint)
      ((i, ⟨flight.job, x.reply policy "count_refs"⟩) :: done) where
  asked := by
    rw [withoutPicks_cons hchoice _ rfl, ← hp.asked]
    rfl
  ordered := by
    have hnew : i ∉ joint.map (·.1) := fun hmem => hi (hp.mem_names.mp hmem)
    rw [List.map_cons, hp.ordered, List.map_cons, List.dedup_cons_of_notMem hnew]
  once := hp.once.cons i
  ends := by
    rintro f (_ | ⟨_, hf⟩)
    · -- The other counts have asked all that is left to be asked.
      have hnone : partOf i joint = [] := by
        rw [List.eq_nil_iff_forall_not_mem]
        intro e he
        exact hi (hp.mem_names.mp (List.mem_map_of_mem (mem_partOf.mp he)))
      refine ⟨_, List.mem_cons_self, ?_⟩
      rw [partOf_cons_self, hnone]
      exact Flight.ends_of_not_goesOn hstop
    · obtain ⟨reply, hdone, hends⟩ := hp.ends f hf
      refine ⟨reply, List.mem_cons_of_mem _ hdone, ?_⟩
      rwa [partOf_cons_of_ne]
      rintro rfl
      exact hi (List.mem_map_of_mem hf)

end Parts

/-- Every transcript of counting can be taken apart. The induction is on the transcript: each turn
of the counting takes two exchanges off it. -/
theorem exists_parts {flying : List (ι × Flight)} {waiting : List (ι × CountJob)}
    {results : List CountResult}
    (hnodup : ((pendingOf policy flying waiting).map (·.1)).Nodup)
    (hflying : flying = [] → waiting = [])
    (hy : (gather policy (flying.map (·.2)) (waiting.map (·.2))).Yields h results) :
    ∃ joint done, Parts policy (pendingOf policy flying waiting) h joint done ∧
      done.map (·.2) = results := by
  generalize hlength : h.length = length
  induction length using Nat.strongRecOn generalizing flying waiting h results with
  | ind length ih =>
    by_cases hne : flying = []
    · rw [hne, hflying hne, List.map_nil, gather] at hy
      obtain ⟨rfl, rfl⟩ := hy
      rw [hne, hflying hne]
      exact ⟨[], [], ⟨rfl, rfl, .nil, by simp [pendingOf]⟩, rfl⟩
    · obtain ⟨i, flight, others, choice, x, later, hflight, hchoice, rfl, hturn⟩ :=
        yields_gather_named hne hy
      have hshorter : later.length < length := by
        rw [← hlength, List.length_cons, List.length_cons]
        omega
      have hperm : (pendingOf policy flying waiting).Perm
          ((i, flight) :: pendingOf policy others waiting) := hflight.append_right _
      -- The count that goes on in this turn has another name than all others.
      have hnames := (hperm.map (·.1)).nodup_iff.mp hnodup
      rw [List.map_cons, List.nodup_cons] at hnames
      obtain ⟨hgo, hlater⟩ | ⟨hstop, results', rfl, hlater⟩ := hturn
      · have hagain : ((pendingOf policy ((i, ⟨flight.job, flight.left - 1⟩) :: others)
            waiting).map (·.1)).Nodup := List.nodup_cons.mpr hnames
        obtain ⟨joint, done, hp, hresults⟩ := ih later.length hshorter hagain
          (fun hnil => absurd hnil (List.cons_ne_nil _ _)) hlater rfl
        exact ⟨_, done, (hp.retried hnames.1 hchoice hgo).perm hperm.symm, hresults⟩
      · -- Its place goes to a count that waits, if there is one.
        have hrefilled := pendingOf_append_take policy others waiting 1
        obtain ⟨joint, done, hp, hresults⟩ := ih later.length hshorter (hrefilled ▸ hnames.2)
          drop_eq_nil_of_refilled hlater rfl
        rw [hrefilled] at hp
        refine ⟨_, _, (hp.finished hnames.1 hchoice hstop).perm hperm.symm, ?_⟩
        rw [List.map_cons, hresults]

/-- With room for at least one count this holds of all counts of some jobs. -/
theorem exists_parts_gatherAll {window : Nat} (hwindow : 0 < window)
    {jobs : List (ι × CountJob)} {results : List CountResult}
    (hnodup : (jobs.map (·.1)).Nodup)
    (hy : (gatherAll policy window (jobs.map (·.2))).Yields h results) :
    ∃ joint done, Parts policy (jobs.map fun w => (w.1, Flight.start policy w.2)) h joint done ∧
      done.map (·.2) = results := by
  have hpending : pendingOf policy
      ((jobs.take window).map fun w => (w.1, Flight.start policy w.2)) (jobs.drop window) =
        jobs.map fun w => (w.1, Flight.start policy w.2) := by
    rw [pendingOf, ← List.map_append, List.take_append_drop]
  rw [← hpending]
  refine exists_parts ?_ ?_ ?_
  · rw [hpending, List.map_map]
    exact hnodup
  · intro hnil
    rw [List.map_eq_nil_iff, List.take_eq_nil_iff] at hnil
    obtain hzero | rfl := hnil
    · exact absurd hzero (Nat.ne_of_gt hwindow)
    · exact List.drop_nil
  · rw [gatherAll, ← List.map_take, ← List.map_drop, List.map_map] at hy
    rw [List.map_map]
    exact hy

end RegistryDedup
