import RegistryDedup.Proofs.Store.Truthful
import RegistryDedup.Store.Faults

/-!
# Tables behind a schedule of faults

A store in memory behind a schedule of faults answers a call from its tables, or the call is struck:
it fails, and it was never made.

- `Tables.struck`: what may be answered, and the tables afterwards.
- `struck_calling`: of a call with all its attempts nothing is left but one attempt that was
  answered by the tables, or nothing at all.
-/

namespace RegistryDedup

open Interface.Environment

variable {policy : RetryPolicy} {h : Transcript} {t t' : Tables}

/-- Tables behind a schedule of faults: a call is answered by the tables, or it fails and has no
effect. Tables in memory make no merge in one transaction, whatever is answered to it. -/
def Tables.struck : Action.interface.Environment Tables
  | .call r, t, x, t' =>
    (x = Attempt.answered (Tables.call r t).1 ∧ t' = (Tables.call r t).2) ∨
      ((x.Failed ∨ ∃ plan, r = .merge plan) ∧ t' = t)
  | _, t, _, t' => t' = t

/-- A store in memory behind any schedule of faults answers so. -/
theorem struck_answer (a : Action) (w : World (Faulty Tables)) :
    Tables.struck a w.state.inner (World.answer (Faulty.store Tables.store) a w).1
      (World.answer (Faulty.store Tables.store) a w).2.state.inner := by
  cases a with
  | call r =>
    dsimp only [World.answer, Faulty.store, Faulty.call]
    split
    · -- The call is struck.
      refine .inr ⟨.inl ?_, rfl⟩
      rintro a ⟨⟩
    · cases r with
      | merge plan =>
        refine .inr ⟨.inr ⟨plan, rfl⟩, ?_⟩
        dsimp only [Faulty.through]
        split <;> rfl
      | _ => exact .inl ⟨rfl, rfl⟩
  | pick others => rfl
  | now => rfl
  | releaseLock path => rfl
  | acquireLock path =>
    rw [World.answer]
    split <;> rfl
  | openJournal path =>
    rw [World.answer]
    split <;> rfl
  | appendJournal path entry =>
    rw [World.answer]
    split <;> rfl

/-- A whole call is answered by the tables, or it fails and has no effect. -/
theorem struck_calling {operation : String} {r : Request} {reply : Reply r.Answer}
    (hr : ∀ plan, r ≠ .merge plan) (hy : (Run.calling policy operation r).Yields h reply)
    (hf : Tables.struck.Follows t h t') :
    (reply = (Tables.call r t).1 ∧ t' = (Tables.call r t).2) ∨
      ((∃ f, reply = .error f) ∧ t' = t) := by
  obtain ⟨fails, x, rfl, rfl, hfails, -⟩ := Run.yields_calling hy
  obtain ⟨u, hfirst, hlast⟩ := follows_append.mp hf
  -- An attempt that failed transiently has changed nothing, whoever it was that failed it.
  have hstill : ∀ e ∈ fails, ∀ v v', Tables.struck e.1 v e.2 v' → v' = v := by
    intro e he v v' hstep
    obtain ⟨y, f, rfl, hreply, hretry⟩ := hfails e he
    rcases hstep with ⟨hy, rfl⟩ | ⟨-, rfl⟩
    · change y = _ at hy
      rw [hy] at hreply
      exact Tables.call_of_not_changes (Tables.not_changes_of_retryable hreply hretry)
    · rfl
  obtain rfl := hfirst.unchanged hstill
  rw [follows_singleton] at hlast
  rcases hlast with ⟨hx, rfl⟩ | ⟨hfailed | ⟨plan, hmerge⟩, rfl⟩
  · change x = _ at hx
    exact .inl ⟨by rw [hx]; rfl, rfl⟩
  · refine .inr ⟨?_, rfl⟩
    cases hx : x.reply policy operation with
    | ok a => exact absurd (Attempt.eq_answered hx) (hfailed a)
    | error f => exact ⟨f, rfl⟩
  · exact absurd hmerge (hr plan)

end RegistryDedup
