import Mathlib.Data.ENat.Lattice
import RegistryDedup.Proofs.Transcript
import RegistryDedup.Store.Retry

/-!
# What comes of trying again

A call is tried again until an outcome settles it or its attempts are used up, and the last outcome
is what it returns. How long is waited in between has no part in this.

- `Attempt.Settles`, `Attempt.Gives`: an outcome after which nothing is tried again, and what an
  outcome is returned as.
- `Spent`: the outcomes of the attempts that were made, up to the last one. The program is read once
  into it, by `yields_attempts_spent` for any answers and by `run_attempts` for a handler; all else
  is about lists of outcomes.
- `Tried`: how many attempts are made of a sequence of outcomes, and what is returned.
- `retrying_tried`: this holds of every call with all its attempts, and there is always an end.
-/

namespace RegistryDedup

variable {I : Interface} {α σ : Type} {policy : RetryPolicy} {operation : String}

/-! ## Outcomes -/

namespace Attempt

/-- An outcome after which nothing is tried again: a result, or a failure that is not transient. -/
def Settles : Attempt α → Prop
  | answered (.ok _) => True
  | answered (.error f) => f.kind ≠ .transient
  | late => False

instance (x : Attempt α) : Decidable x.Settles :=
  match x with
  | answered (.ok _) => .isTrue trivial
  | answered (.error f) => inferInstanceAs (Decidable (f.kind ≠ .transient))
  | late => .isFalse id

/-- What an outcome is returned as: an answer as it is, and a transient failure where there was none
in time. -/
inductive Gives (policy : RetryPolicy) (operation : String) :
    Attempt α → Except Failure α → Prop where
  | answered (reply : Except Failure α) : Gives policy operation (.answered reply) reply
  | late {f : Failure} (hlate : f = .late operation policy.callTimeout)
      (htransient : f.kind = .transient) : Gives policy operation .late (.error f)

theorem gives_reply (x : Attempt α) : x.Gives policy operation (x.reply policy operation) := by
  cases x with
  | answered reply => exact .answered reply
  | late => exact .late rfl rfl

end Attempt

/-- After one attempt a call is at its end, or it has one attempt less. -/
theorem attempts_succ (call : Program I (Attempt α)) (more : Nat) :
    attempts policy operation call (more + 1) = call.bind fun x =>
      if x.Settles then .done (x.reply policy operation) else attempts policy operation call more := by
  rw [attempts, Program.bind_eq]
  congr
  funext x
  rcases x with (f | a) | _
  · by_cases hf : f.kind = .transient <;>
      simp [Attempt.reply, Attempt.Settles, Failure.isRetryable, hf]
  · simp [Attempt.reply, Attempt.Settles]
  · simp [Attempt.reply, Attempt.Settles, Failure.isRetryable, Failure.kind]

/-! ## The attempts that were made -/

/-- The outcomes of the attempts of a call that has so many after its first one, with what it
returns. -/
inductive Spent (policy : RetryPolicy) (operation : String) :
    (more : Nat) → List (Attempt α) → Except Failure α → Prop where
  | last {more : Nat} {x : Attempt α} {reply : Except Failure α} (hstop : x.Settles ∨ more = 0)
      (hgives : x.Gives policy operation reply) : Spent policy operation more [x] reply
  | again {more : Nat} {x : Attempt α} {xs : List (Attempt α)} {reply : Except Failure α}
      (hx : ¬ x.Settles) (hrest : Spent policy operation more xs reply) :
      Spent policy operation (more + 1) (x :: xs) reply

theorem spent_reply {more : Nat} {x : Attempt α} (hstop : x.Settles ∨ more = 0) :
    Spent policy operation more [x] (x.reply policy operation) :=
  .last hstop x.gives_reply

theorem yields_attempts_spent {call : Program I (Attempt α)} {more : Nat} {h : List I.Exchange}
    {reply : Except Failure α} (hy : (attempts policy operation call more).Yields h reply) :
    ∃ tries : List (List I.Exchange × Attempt α), h = (tries.map (·.1)).flatten ∧
      (∀ t ∈ tries, call.Yields t.1 t.2) ∧ Spent policy operation more (tries.map (·.2)) reply := by
  induction more generalizing h with
  | zero =>
    rw [attempts, Program.bind_eq, Program.yields_bind] at hy
    obtain ⟨x, asked, _, rfl, hcall, rfl, rfl⟩ := hy
    exact ⟨[(asked, x)], by simp, by simpa using hcall, spent_reply (.inr rfl)⟩
  | succ more ih =>
    rw [attempts_succ, Program.yields_bind] at hy
    obtain ⟨x, asked, rest, rfl, hcall, hy⟩ := hy
    by_cases hx : x.Settles
    · rw [if_pos hx] at hy
      obtain ⟨rfl, rfl⟩ := hy
      exact ⟨[(asked, x)], by simp, by simpa using hcall, spent_reply (.inl hx)⟩
    · rw [if_neg hx] at hy
      obtain ⟨tries, rfl, htries, hspent⟩ := ih hy
      exact ⟨(asked, x) :: tries, rfl, List.forall_mem_cons.mpr ⟨hcall, htries⟩, .again hx hspent⟩

/-- Calls one after the other under a handler: the outcome of each, and the state before it. -/
def CallsInTurn (answer : (q : I.Ask) → σ → I.Answer q × σ) (call : Program I (Attempt α))
    (outcomes : ℕ → Attempt α) (states : ℕ → σ) : Prop :=
  ∀ i, call.run answer (states i) = (outcomes i, states (i + 1))

/-- The calls but for the first one. -/
theorem CallsInTurn.tail {answer : (q : I.Ask) → σ → I.Answer q × σ} {call : Program I (Attempt α)}
    {outcomes : ℕ → Attempt α} {states : ℕ → σ} (hc : CallsInTurn answer call outcomes states) :
    CallsInTurn answer call (outcomes ∘ Nat.succ) (states ∘ Nat.succ) :=
  fun i => hc (i + 1)

variable (policy operation) in
theorem run_attempts {answer : (q : I.Ask) → σ → I.Answer q × σ} {call : Program I (Attempt α)}
    {outcomes : ℕ → Attempt α} {states : ℕ → σ} (hc : CallsInTurn answer call outcomes states)
    (more : Nat) :
    ∃ made reply, Spent policy operation more ((List.range made).map outcomes) reply ∧
      (attempts policy operation call more).run answer (states 0) = (reply, states made) ∧
      (attempts policy operation call more).transcript answer (states 0) =
        (List.range made).flatMap fun i => call.transcript answer (states i) := by
  -- The calls that are left are calls in turn from the state after the first one.
  induction more generalizing outcomes states with
  | zero =>
    refine ⟨1, _, spent_reply (.inr rfl), ?_, ?_⟩
    · rw [attempts, Program.bind_eq, Program.run_bind, hc 0]
      rfl
    · rw [attempts, Program.bind_eq, Program.transcript_bind]
      simp [Program.transcript]
  | succ more ih =>
    rw [attempts_succ, Program.run_bind, Program.transcript_bind, hc 0]
    dsimp only
    by_cases hx : (outcomes 0).Settles
    · rw [if_pos hx]
      exact ⟨1, _, spent_reply (.inl hx), rfl, by simp [Program.transcript]⟩
    · rw [if_neg hx]
      obtain ⟨made, reply, hspent, hrun, htranscript⟩ := ih hc.tail
      refine ⟨made + 1, reply, ?_, hrun, ?_⟩
      · rw [List.range_succ_eq_map, List.map_cons, List.map_map]
        exact .again hx hspent
      · rw [List.range_succ_eq_map, List.flatMap_cons, List.flatMap_map]
        exact congrArg _ htranscript

/-! ## Sequences of outcomes -/

/-- The place, counted from one, of the first outcome of a sequence that settles. A sequence may come
to an end; infinite where none settles. -/
noncomputable def firstSettling (outcome? : ℕ → Option (Attempt α)) : ℕ∞ :=
  ⨅ i ∈ {i | ∃ x, outcome? i = some x ∧ x.Settles}, ((i + 1 : ℕ) : ℕ∞)

/-- What a call with all its attempts makes of a sequence of outcomes. -/
structure Tried (policy : RetryPolicy) (operation : String) (outcome? : ℕ → Option (Attempt α))
    (made : ℕ) (reply : Except Failure α) : Prop where
  /-- There are as many attempts as the policy allows, at least one, and none after the first that
  settles. -/
  made_eq : (made : ℕ∞) = min ((max 1 policy.maxAttempts : ℕ) : ℕ∞) (firstSettling outcome?)
  /-- The last outcome is returned. -/
  returned : ∃ x, outcome? (made - 1) = some x ∧ x.Gives policy operation reply
  /-- An attempt that settles is the last one, and what it gives is not hidden by any other. -/
  settled : ∀ i x, i < made → outcome? i = some x → x.Settles →
    i + 1 = made ∧ x.Gives policy operation reply

namespace Spent

variable {more : Nat} {xs : List (Attempt α)} {reply : Except Failure α}

theorem length_pos (h : Spent policy operation more xs reply) : 0 < xs.length := by
  cases h <;> exact Nat.succ_pos _

theorem length_le (h : Spent policy operation more xs reply) : xs.length ≤ more + 1 := by
  induction h with
  | last => exact Nat.succ_le_succ (Nat.zero_le _)
  | again _ _ ih => exact Nat.succ_le_succ ih

/-- Only the last attempt settles. -/
theorem last_of_settles (h : Spent policy operation more xs reply) {i : Nat} {x : Attempt α}
    (hi : xs[i]? = some x) (hx : x.Settles) : i + 1 = xs.length := by
  induction h generalizing i with
  | last => simpa using (List.getElem?_eq_some_iff.mp hi).1
  | again hfirst _ ih =>
    cases i with
    | zero => exact absurd (Option.some.inj hi ▸ hx) hfirst
    | succ i => exact congrArg Nat.succ (ih hi)

/-- The last outcome is returned. It settles, or no attempt is left. -/
theorem exists_last (h : Spent policy operation more xs reply) :
    ∃ x, xs[xs.length - 1]? = some x ∧ x.Gives policy operation reply ∧
      (x.Settles ∨ xs.length = more + 1) := by
  induction h with
  | @last more x reply hstop hgives => exact ⟨x, rfl, hgives, hstop.imp_right fun h => by simp [h]⟩
  | @again more x xs reply _ hrest ih =>
    obtain ⟨y, hy, hgives, hstop⟩ := ih
    obtain ⟨n, hn⟩ := Nat.exists_eq_succ_of_ne_zero (Nat.ne_of_gt hrest.length_pos)
    refine ⟨y, ?_, hgives, hstop.imp_right (congrArg Nat.succ)⟩
    rw [hn] at hy
    rw [List.length_cons, hn]
    exact hy

/-- The attempts that were made are the first of any sequence that goes on from them. -/
theorem tried (h : Spent policy operation (policy.maxAttempts - 1) xs reply)
    (outcome? : ℕ → Option (Attempt α)) (hxs : ∀ i < xs.length, outcome? i = xs[i]?) :
    Tried policy operation outcome? xs.length reply := by
  obtain ⟨last, hlast, hgives, hstop⟩ := h.exists_last
  have hend : xs.length - 1 < xs.length := Nat.sub_lt h.length_pos Nat.one_pos
  have hsettled : ∀ i x, i < xs.length → outcome? i = some x → x.Settles → i + 1 = xs.length :=
    fun i x hi hx hsettles => h.last_of_settles ((hxs i hi).symm.trans hx) hsettles
  have hlimit : policy.maxAttempts - 1 + 1 = max 1 policy.maxAttempts := by omega
  refine ⟨le_antisymm (le_min ?_ (le_iInf₂ ?_)) ?_, ⟨last, (hxs _ hend).trans hlast, hgives⟩, ?_⟩
  · exact Nat.cast_le.mpr (hlimit ▸ h.length_le)
  · rintro i ⟨x, hx, hsettles⟩
    refine Nat.cast_le.mpr ?_
    by_cases hi : i < xs.length
    · exact (hsettled i x hi hx hsettles).ge
    · omega
  · rcases hstop with hsettles | hspent
    · refine (min_le_right _ _).trans ((iInf₂_le (xs.length - 1) ?_).trans ?_)
      · exact ⟨last, (hxs _ hend).trans hlast, hsettles⟩
      · exact Nat.cast_le.mpr (Nat.sub_add_cancel h.length_pos).le
    · exact (min_le_left _ _).trans (Nat.cast_le.mpr (hlimit ▸ hspent.ge))
  · intro i x hi hx hsettles
    have hplace := hsettled i x hi hx hsettles
    refine ⟨hplace, ?_⟩
    obtain rfl : i = xs.length - 1 := by omega
    rw [hxs _ hend, hlast] at hx
    exact Option.some.inj hx ▸ hgives

end Spent

/-- A call with all its attempts comes to an end under every handler, whatever the single calls come
to, and makes no more of them than it has to; and so it does wherever it comes to an end. -/
theorem retrying_tried (policy : RetryPolicy) (operation : String)
    (call : Program I (Attempt α)) :
    (∀ (answer : (q : I.Ask) → σ → I.Answer q × σ) (outcomes : ℕ → Attempt α) (states : ℕ → σ),
      CallsInTurn answer call outcomes states →
      ∃ made reply, Tried policy operation (fun i => some (outcomes i)) made reply ∧
        (retrying policy operation call).run answer (states 0) = (reply, states made) ∧
        (retrying policy operation call).transcript answer (states 0) =
          (List.range made).flatMap fun i => call.transcript answer (states i)) ∧
    ∀ h reply, (retrying policy operation call).Yields h reply →
      ∃ tries : List (List I.Exchange × Attempt α), h = (tries.map (·.1)).flatten ∧
        (∀ t ∈ tries, call.Yields t.1 t.2) ∧
        Tried policy operation (fun i => (tries.map (·.2))[i]?) tries.length reply := by
  constructor
  · intro answer outcomes states hc
    obtain ⟨made, reply, hspent, hrun, htranscript⟩ :=
      run_attempts policy operation hc (policy.maxAttempts - 1)
    refine ⟨made, reply, ?_, hrun, htranscript⟩
    have htried := hspent.tried (fun i => some (outcomes i)) fun i hi => by
      rw [List.length_map, List.length_range] at hi
      simp [hi]
    rwa [List.length_map, List.length_range] at htried
  · intro h reply hy
    obtain ⟨tries, rfl, htries, hspent⟩ := yields_attempts_spent hy
    refine ⟨tries, rfl, htries, ?_⟩
    have htried := hspent.tried (fun i => (tries.map (·.2))[i]?) fun i _ => rfl
    rwa [List.length_map] at htried

namespace RetrySample

/-- Calls of which nothing is known but their outcomes. -/
def calls : Interface := ⟨Unit, fun _ => Attempt Nat⟩

/-- One such call. -/
def once : Program calls (Attempt Nat) := .perform ()

/-- The first call exceeds its time limit, the second fails transiently, the third has a result. -/
def outcomes : ℕ → Attempt Nat
  | 0 => .late
  | 1 => .answered (.error (.reported .transient "boom"))
  | 2 => .answered (.ok 5)
  | _ => .answered (.error (.reported .auth "boom"))

/-- The calls are answered in turn, and counted. -/
def answer (q : calls.Ask) (made : ℕ) : calls.Answer q × ℕ :=
  (outcomes made, made + 1)

end RetrySample

open RetrySample in
/-- With four attempts the third call is the last one; with two its result does not show. -/
theorem retrying_tried_sample :
    CallsInTurn answer once outcomes id ∧
    (retrying {} "count" once).run answer 0 = (.ok 5, 3) ∧
    (retrying { maxAttempts := 2 } "count" once).run answer 0 =
      (.error (.reported .transient "boom"), 2) ∧
    Tried {} "count" (fun i => some (outcomes i)) 3 (.ok 5) ∧
    ∃ tries : List (List calls.Exchange × Attempt Nat),
      (retrying { maxAttempts := 2 } "count" once).transcript answer 0 =
        (tries.map (·.1)).flatten ∧
      (∀ t ∈ tries, once.Yields t.1 t.2) ∧
      Tried { maxAttempts := 2 } "count" (fun i => (tries.map (·.2))[i]?) tries.length
        (.error (.reported .transient "boom")) := by
  have hcalls : CallsInTurn answer once outcomes id := fun i => rfl
  refine ⟨hcalls, rfl, rfl, ?_, ?_⟩
  · obtain ⟨made, reply, htried, hrun, -⟩ :=
      (retrying_tried {} "count" once).1 answer outcomes id hcalls
    have hend : (reply, made) = (.ok 5, 3) := hrun.symm
    obtain ⟨rfl, rfl⟩ := Prod.mk.inj hend
    exact htried
  · exact (retrying_tried { maxAttempts := 2 } "count" once (σ := ℕ)).2 _ _
      (Program.yields_transcript answer _ 0)

end RegistryDedup
