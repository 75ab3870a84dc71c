import RegistryDedup.Proofs.Transcript
import RegistryDedup.Run.Action

/-!
# Transcripts of runs

A call to the store shows in a transcript as its attempts, one after the other.

- `Transcript`: the transcripts of runs.
- `Request.Changes`, `Action.Quiet`: the calls that may change a table, and the actions that change
  neither a table nor the journal.
- `Retried`: an attempt after which a call is tried again, if it has attempts left.
- `yields_calling`: a call that came to an end is a number of such attempts and then one more, whose
  reply is that of the call. Only a call without any attempt left ends with a transient failure.
- `yields_attempts_again`, `yields_attempts_last`: such an attempt and then those that are left, or
  an attempt that is the last.
- `exists_answered_iff`: whether a call has a result shows in its transcript.
- `Bounded`: such attempts do not follow on each other more often than the policy allows. Where this
  holds, the replies of whole calls can be read off their last attempts (`Bounded.reply`).
-/

namespace RegistryDedup

/-- What a run asked of the world, with the answers. -/
abbrev Transcript := List Action.interface.Exchange

/-- The world can answer anything that a run asks. -/
theorem Action.answer_nonempty (a : Action) : Nonempty (Action.interface.Answer a) :=
  match a with
  | .call _ => ⟨Attempt.late⟩
  | .pick others => ⟨(0 : Fin (others + 1))⟩
  | .now => ⟨(⟨⟨1970, 1, 1, by decide⟩, 0, 0, by decide, by decide⟩ : Instant)⟩
  | .acquireLock _ => ⟨(.ok () : Except Failure Unit)⟩
  | .releaseLock _ => ⟨()⟩
  | .openJournal _ => ⟨(.ok () : Except FileError Unit)⟩
  | .appendJournal _ _ => ⟨(.ok () : Except FileError Unit)⟩

/-- An attempt without a result. -/
def Attempt.Failed {α : Type} (x : Attempt α) : Prop :=
  ∀ a, x ≠ .answered (.ok a)

/-- Only an answer can have a result. -/
theorem Attempt.eq_answered {α : Type} {policy : RetryPolicy} {operation : String}
    {x : Attempt α} {a : α} (hx : x.reply policy operation = .ok a) : x = .answered (.ok a) := by
  cases x with
  | answered reply => exact congrArg Attempt.answered hx
  | late => cases hx

/-- Whether a call may change a table. -/
def Request.Changes : Request → Prop
  | .repoint _ _ _ _ | .deleteIds _ _ _ | .deleteWhere _ _ _ | .updateById _ _ _ _
  | .insertRow _ _ | .merge _ => True
  | .checkColumns _ _ | .fetchEntities _ | .countReferences _ _ _ | .distinctValues _ _
  | .fetchDetails _ => False

instance (r : Request) : Decidable r.Changes :=
  match r with
  | .repoint _ _ _ _ | .deleteIds _ _ _ | .deleteWhere _ _ _ | .updateById _ _ _ _
  | .insertRow _ _ | .merge _ => .isTrue trivial
  | .checkColumns _ _ | .fetchEntities _ | .countReferences _ _ _ | .distinctValues _ _
  | .fetchDetails _ => .isFalse id

/-- Whether an action leaves the tables and the journal as they are. -/
def Action.Quiet : Action → Prop
  | call r => ¬ r.Changes
  | appendJournal _ _ => False
  | _ => True

namespace Run

variable {policy : RetryPolicy} {operation : String} {r : Request} {h : Transcript}

/-- An attempt of a call that failed transiently. -/
def Retried (policy : RetryPolicy) (operation : String) (r : Request)
    (e : Action.interface.Exchange) : Prop :=
  ∃ x f, e = ⟨Action.call r, x⟩ ∧ Attempt.reply policy operation x = .error f ∧ f.isRetryable

theorem yields_attempts {more : Nat} {reply : Reply r.Answer}
    (hy : (attempts policy operation (attempt r) more).Yields h reply) :
    ∃ (fails : Transcript) (x : Attempt r.Answer),
      h = fails ++ [⟨Action.call r, x⟩] ∧ x.reply policy operation = reply ∧
      (∀ e ∈ fails, Retried policy operation r e) ∧ fails.length ≤ more ∧
      ∀ f, reply = .error f → f.isRetryable → fails.length = more := by
  induction more generalizing h with
  | zero =>
    obtain ⟨x, rest, rfl, rfl, rfl⟩ := hy
    exact ⟨[], x, rfl, rfl, by simp, Nat.le_refl 0, fun _ _ _ => rfl⟩
  | succ more ih =>
    obtain ⟨x, rest, rfl, hrest⟩ := hy
    cases hx : Attempt.reply policy operation x with
    | ok v =>
      simp only [Program.bind, hx, Program.pure_eq, Program.yields_done] at hrest
      obtain ⟨rfl, rfl⟩ := hrest
      exact ⟨[], x, rfl, hx, by simp, Nat.zero_le _, by simp⟩
    | error f =>
      by_cases hf : f.isRetryable
      · simp only [Program.bind, hx, hf, if_true] at hrest
        obtain ⟨fails, y, rfl, hy, hfails, hlen, hlast⟩ := ih hrest
        refine ⟨⟨Action.call r, x⟩ :: fails, y, rfl, hy, ?_, Nat.succ_le_succ hlen, ?_⟩
        · rintro e (_ | ⟨_, he⟩)
          · exact ⟨x, f, rfl, hx, hf⟩
          · exact hfails e he
        · intro f' h₁ h₂
          rw [List.length_cons, hlast f' h₁ h₂]
      · simp only [Program.bind, hx, hf, Bool.false_eq_true, if_false, Program.pure_eq,
          Program.yields_done] at hrest
        obtain ⟨rfl, rfl⟩ := hrest
        refine ⟨[], x, rfl, hx, by simp, Nat.zero_le _, fun f' h₁ h₂ => absurd h₂ ?_⟩
        cases h₁
        exact hf

/-- An attempt that failed transiently, and the attempts that are left. -/
theorem yields_attempts_again {x : Attempt r.Answer} {more : Nat} {reply : Reply r.Answer}
    {rest : Transcript} {f : Failure} (hx : x.reply policy operation = .error f)
    (hretry : f.isRetryable = true)
    (hy : (attempts policy operation (attempt r) more).Yields rest reply) :
    (attempts policy operation (attempt r) (more + 1)).Yields (⟨Action.call r, x⟩ :: rest) reply := by
  refine ⟨x, rest, rfl, ?_⟩
  simp only [Program.bind, hx, hretry, if_true]
  exact hy

/-- The last attempt: either its reply is not worth another one, or there is none left. -/
theorem yields_attempts_last {x : Attempt r.Answer} {more : Nat}
    (hlast : ∀ f, x.reply policy operation = .error f → f.isRetryable = true → more = 0) :
    (attempts policy operation (attempt r) more).Yields [⟨Action.call r, x⟩]
      (x.reply policy operation) := by
  cases more with
  | zero => exact ⟨x, [], rfl, rfl, rfl⟩
  | succ more =>
    refine ⟨x, [], rfl, ?_⟩
    cases hx : x.reply policy operation with
    | ok a =>
      simp only [Program.bind, hx]
      exact ⟨rfl, rfl⟩
    | error f =>
      have hretry : ¬f.isRetryable = true := fun hretry => nomatch hlast f hx hretry
      simp only [Program.bind, hx, hretry]
      exact ⟨rfl, rfl⟩

/-- A call that came to an end: attempts that failed transiently, and one more whose reply is that
of the call. -/
theorem yields_calling {reply : Reply r.Answer}
    (hy : (calling policy operation r).Yields h reply) :
    ∃ (fails : Transcript) (x : Attempt r.Answer),
      h = fails ++ [⟨Action.call r, x⟩] ∧ x.reply policy operation = reply ∧
      (∀ e ∈ fails, Retried policy operation r e) ∧ fails.length ≤ policy.maxAttempts - 1 ∧
      ∀ f, reply = .error f → f.isRetryable → fails.length = policy.maxAttempts - 1 :=
  yields_attempts hy

/-- A call has a result just where one of its attempts has. -/
theorem exists_answered_iff {reply : Reply r.Answer}
    (hy : (calling policy operation r).Yields h reply) :
    (∃ a, (⟨Action.call r, Attempt.answered (.ok a)⟩ : Action.interface.Exchange) ∈ h) ↔
      ∃ a, reply = .ok a := by
  obtain ⟨fails, x, rfl, rfl, hfails, -⟩ := yields_calling hy
  constructor
  · rintro ⟨a, hmem⟩
    rw [List.mem_append, List.mem_singleton] at hmem
    rcases hmem with hmem | hlast
    · obtain ⟨y, f, he, hreply, -⟩ := hfails _ hmem
      obtain rfl := eq_of_heq (Sigma.mk.inj he).2
      cases hreply
    · obtain rfl := eq_of_heq (Sigma.mk.inj hlast).2
      exact ⟨a, rfl⟩
  · rintro ⟨a, hx⟩
    rw [Attempt.eq_answered hx]
    exact ⟨a, List.mem_append_right _ List.mem_cons_self⟩

/-- All that a call asks is itself. -/
theorem only_calling : (calling policy operation r).Only (· = Action.call r) := by
  rw [calling, retrying]
  generalize policy.maxAttempts - 1 = more
  induction more with
  | zero => exact ⟨rfl, fun _ => trivial⟩
  | succ more ih =>
    refine ⟨rfl, fun x => ?_⟩
    dsimp only [Program.bind]
    split
    · trivial
    · split
      · exact ih
      · trivial

/-! ## Failed attempts in a row -/

/-- No more failed attempts of a call follow on each other than a policy allows before the last. -/
def Bounded (policy : RetryPolicy) (operation : String) (r : Request) (h : Transcript) : Prop :=
  ∀ stretch, stretch <:+: h → (∀ e ∈ stretch, Retried policy operation r e) →
    stretch.length ≤ policy.maxAttempts - 1

theorem bounded_nil : Bounded policy operation r [] := by
  intro stretch hstretch _
  rw [List.infix_nil.mp hstretch]
  exact Nat.zero_le _

/-- An exchange that is no failed attempt ends a row of them. -/
theorem Bounded.block {fails rest : Transcript} {e : Action.interface.Exchange}
    (hrest : Bounded policy operation r rest) (he : ¬ Retried policy operation r e)
    (hfails : fails.length ≤ policy.maxAttempts - 1) :
    Bounded policy operation r (fails ++ e :: rest) := by
  have hstop : ∀ t : Transcript, t <+: e :: rest → (∀ e' ∈ t, Retried policy operation r e') →
      t = [] := by
    rintro (_ | ⟨e', t⟩) ht hall
    · rfl
    · rw [(List.cons_prefix_cons.mp ht).1] at hall
      exact absurd (hall e List.mem_cons_self) he
  intro stretch hstretch hall
  rcases List.infix_append_iff.mp hstretch with hin | hin | ⟨front, back, rfl, hfront, hback⟩
  · exact Nat.le_trans hin.length_le hfails
  · rcases List.infix_cons_iff.mp hin with hstart | hin
    · rw [hstop stretch hstart hall]
      exact Nat.zero_le _
    · exact hrest stretch hin hall
  · rw [hstop back hback fun e' he' => hall e' (List.mem_append_right _ he'), List.append_nil]
    exact Nat.le_trans hfront.length_le hfails

theorem Bounded.skip {first rest : Transcript} (hrest : Bounded policy operation r rest)
    (hfirst : ∀ e ∈ first, ¬ Retried policy operation r e) :
    Bounded policy operation r (first ++ rest) := by
  induction first with
  | nil => exact hrest
  | cons e first ih =>
    rw [List.forall_mem_cons] at hfirst
    rw [List.cons_append, ← List.nil_append (e :: (first ++ rest))]
    exact (ih hfirst.2).block hfirst.1 (Nat.zero_le _)

theorem Retried.action_eq {e : Action.interface.Exchange} (he : Retried policy operation r e) :
    e.1 = .call r := by
  obtain ⟨x, f, rfl, -⟩ := he
  rfl

/-- A call that is not made has no failed attempts. -/
theorem bounded_of_absent (hh : ∀ e ∈ h, e.1 ≠ .call r) : Bounded policy operation r h := by
  rw [← List.append_nil h]
  exact bounded_nil.skip fun e he hretried => hh e he hretried.action_eq

/-- Where failed attempts do not follow on each other too often, the reply of a whole call is one
that an attempt ended with. -/
theorem Bounded.reply {P : Reply r.Answer → Prop} (hb : Bounded policy operation r h)
    (hends : ∀ x : Attempt r.Answer, ⟨Action.call r, x⟩ ∈ h →
      Retried policy operation r ⟨Action.call r, x⟩ ∨ P (x.reply policy operation))
    {stretch : Transcript} {reply : Reply r.Answer} (hstretch : stretch <:+: h)
    (hy : (calling policy operation r).Yields stretch reply) : P reply := by
  obtain ⟨fails, x, rfl, rfl, hfails, -, hlast⟩ := yields_calling hy
  have hmem : ⟨Action.call r, x⟩ ∈ h :=
    hstretch.subset (List.mem_append_right _ List.mem_cons_self)
  rcases hends x hmem with hx | hx
  · have hlen := hb _ hstretch (List.forall_mem_append.mpr ⟨hfails, by simpa using hx⟩)
    obtain ⟨y, f, he, hf, hretry⟩ := hx
    obtain rfl : x = y := eq_of_heq (Sigma.mk.inj he).2
    rw [List.length_append, hlast f hf hretry, List.length_singleton] at hlen
    exact absurd hlen (Nat.not_succ_le_self _)
  · exact hx

end Run

end RegistryDedup
