import RegistryDedup.Merge.Survivor
import RegistryDedup.Name.Grouping
import RegistryDedup.Run.Action

/-!
# Counting references

For each member of a group and each dependent one count is asked for. Up to a given number of
counts are in flight at a time, and any of them may go on first.

- `gather`: all counts, in the order in which they are done.
- `countGroup`: the references of each member, or the first count that failed. A group of which one
  count failed has no counts: a sum with a part missing could choose the wrong survivor.
-/

namespace RegistryDedup

/-- One count: the references of one member in one dependent. -/
structure CountJob where
  /-- The place of the member in its group. -/
  place : Nat
  id : String
  dependent : Dependent
  deriving DecidableEq

/-- A count that was done, with its outcome. -/
structure CountResult where
  job : CountJob
  reply : Reply Nat

/-- A count that failed after all its attempts. -/
structure CountFailure where
  id : String
  table : String
  failure : Failure
  deriving DecidableEq

namespace CountFailure

/-- The failure in words. -/
def message (f : CountFailure) : String :=
  "count of " ++ f.table ++ " for id " ++ f.id ++ " failed: " ++ f.failure.message

end CountFailure

/-- The counts of a group: member by member, and for each member dependent by dependent. -/
def countJobs (ids : List String) (dependents : List Dependent) : List CountJob :=
  ids.zipIdx.flatMap fun (id, place) => dependents.map fun d => ⟨place, id, d⟩

/-- A count in flight, with the number of attempts that it has left after the next one. -/
structure Flight where
  job : CountJob
  left : Nat

/-- A count at its start. -/
def Flight.start (policy : RetryPolicy) (job : CountJob) : Flight :=
  ⟨job, policy.maxAttempts - 1⟩

/-- How many attempts some counts in flight have left. -/
def attemptsLeft : List Flight → Nat
  | [] => 0
  | f :: fs => f.left + 1 + attemptsLeft fs

theorem attemptsLeft_eraseIdx (flying : List Flight) (i : Fin flying.length) :
    attemptsLeft (flying.eraseIdx i) + (flying[i].left + 1) = attemptsLeft flying := by
  induction flying with
  | nil => exact i.elim0
  | cons f fs ih =>
    cases i using Fin.cases with
    | zero => simp [attemptsLeft]; omega
    | succ i =>
      have := ih i
      simp [attemptsLeft] at this ⊢
      omega

theorem attemptsLeft_append (fs gs : List Flight) :
    attemptsLeft (fs ++ gs) = attemptsLeft fs + attemptsLeft gs := by
  induction fs with
  | nil => simp [attemptsLeft]
  | cons f fs ih =>
    simp only [List.cons_append, attemptsLeft, ih, Nat.add_assoc]

/-- Whether a count is tried again after an attempt. -/
def Flight.goesOn (flight : Flight) : Reply Nat → Bool
  | .ok _ => false
  | .error e => flight.left != 0 && e.isRetryable

/-- All counts in flight and all that wait, in the order in which they are done. A count that is
done makes room for the next one that waits. -/
def gather (policy : RetryPolicy) (flying : List Flight) (waiting : List CountJob) :
    Run (List CountResult) :=
  match flying with
  | [] => return []
  | f :: fs => do
    let i ← Run.pick fs.length
    let flight := (f :: fs).get i
    let others := (f :: fs).eraseIdx i
    let job := flight.job
    let attempt ← Run.attempt
      (.countReferences job.dependent.table job.dependent.column job.id)
    let reply : Reply Nat := attempt.reply policy "count_refs"
    if flight.goesOn reply then
      gather policy (⟨job, flight.left - 1⟩ :: others) waiting
    else
      let results ← gather policy
        (others ++ (waiting.take 1).map (Flight.start policy)) (waiting.drop 1)
      return ⟨job, reply⟩ :: results
termination_by attemptsLeft flying + waiting.length * (policy.maxAttempts + 1)
decreasing_by
  · rename_i goesOn
    have left : ((f :: fs).get i).left ≠ 0 := by
      intro none
      have : flight.left = 0 := none
      cases h : reply <;> simp [h, Flight.goesOn, this] at goesOn
    have sum := attemptsLeft_eraseIdx (f :: fs) i
    have here : (f :: fs)[i].left = ((f :: fs).get i).left := rfl
    rw [attemptsLeft]
    dsimp only
    omega
  · have sum := attemptsLeft_eraseIdx (f :: fs) i
    rw [attemptsLeft_append]
    cases waiting with
    | nil => simp [attemptsLeft] at sum ⊢; omega
    | cons j js => simp [attemptsLeft, Flight.start, Nat.add_mul] at sum ⊢; omega

/-- All counts of some jobs, with at most `window` of them in flight. -/
def gatherAll (policy : RetryPolicy) (window : Nat) (jobs : List CountJob) :
    Run (List CountResult) :=
  gather policy ((jobs.take window).map (Flight.start policy)) (jobs.drop window)

/-- No references at all. -/
def noReferences (ids : List String) (dependents : List Dependent) : List RefCount :=
  ids.map fun id => ⟨id, 0, Tally.zeros (dependents.map (·.table))⟩

/-- A number of references more. -/
def RefCount.plus (table : String) (n : Nat) (c : RefCount) : RefCount :=
  { c with total := c.total + n, perTable := c.perTable.add table n }

/-- The outcome of one count added to the counts of a group. -/
def addCount (counts : List RefCount) (r : CountResult) : List RefCount :=
  match r.reply with
  | .ok n => counts.modify r.job.place (RefCount.plus r.job.dependent.table n)
  | .error _ => counts

/-- The failure of a count, if it failed. -/
def CountResult.failure? (r : CountResult) : Option CountFailure :=
  match r.reply with
  | .ok _ => none
  | .error e => some ⟨r.job.id, r.job.dependent.table, e⟩

/-- The references of the members of a group from the outcomes of its counts, or the first count
that failed. -/
def sumCounts (ids : List String) (dependents : List Dependent) (results : List CountResult) :
    Except CountFailure (List RefCount) :=
  match results.findSome? CountResult.failure? with
  | some failure => .error failure
  | none => .ok (results.foldl addCount (noReferences ids dependents))

/-- The references of the members of a group. -/
def countGroup (policy : RetryPolicy) (concurrency : Nat) (ids : List String)
    (dependents : List Dependent) : Run (Except CountFailure (List RefCount)) := do
  let results ← gatherAll policy (max concurrency 1) (countJobs ids dependents)
  return sumCounts ids dependents results

end RegistryDedup
