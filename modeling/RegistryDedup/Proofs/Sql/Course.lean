import RegistryDedup.Proofs.Sql.Reference
import RegistryDedup.Sql.Database

/-!
# Courses of a merge in a transaction

Every transcript of the statements of a merge takes one of three courses: a move failed, a delete
failed in a way that is worth another attempt, or the transaction is committed.

- `Carried`: changes made one after the other, up to the first that fails.
- `Deletes`: losers deleted one after the other, each in a part of the transaction of its own.
- `MergeCourse`: the statements of a merge with its reply, by `mergeCourse_of_yields` all of them.
- `queriesOf`: the statements of a transcript. They are the first ones of the plan, in its order,
  and all of them where no failure ended them.
-/

namespace RegistryDedup

namespace MergePlan

/-- The moves of a plan: the references of each dependent to each loser. -/
def moves (plan : MergePlan) : List Sql.Change :=
  plan.dependents.flatMap fun d => plan.losers.map fun l => .move d.table d.column l plan.keep

/-- The delete of a loser. -/
def removal (plan : MergePlan) (loser : String) : Sql.Change :=
  .remove plan.entity.table plan.entity.idColumn loser

/-- All changes of a plan, in order. -/
def changes (plan : MergePlan) : List Sql.Change :=
  plan.moves ++ plan.losers.map plan.removal

end MergePlan

namespace Sql

section

variable {plan : MergePlan} {h h' : Dialogue} {changes changes' : List Change}
  {fault : Option SqlError}

/-! ## Courses -/

/-- The number of rows that the result of a statement tells. -/
def Outcome.count : Outcome → Nat
  | .affected n => n
  | .rows _ found => found.length

/-- The reply that the result of a statement is taken for. -/
def countReply : Except SqlError Outcome → Reply Nat
  | .ok outcome => .ok outcome.count
  | .error e => .error (failureOf e)

theorem yields_control {α : Type} {c : Control} {f : Unit → Program Session α} {a : α}
    (hy : (control c >>= f).Yields h a) :
    ∃ rest, h = controlled c :: rest ∧ (f ()).Yields rest a := by
  obtain ⟨_, rest, rfl, hy⟩ := hy
  exact ⟨rest, rfl, hy⟩

theorem yields_execute {q : Query} {reply : Reply Nat} (hy : (execute q).Yields h reply) :
    ∃ result, h = [sent q result] ∧ reply = countReply result := by
  obtain ⟨result, rest, rfl, hy⟩ := hy
  refine ⟨result, ?_⟩
  cases result with
  | ok outcome => cases outcome <;> exact ⟨congrArg _ hy.1, hy.2⟩
  | error e => exact ⟨congrArg _ hy.1, hy.2⟩

/-- Changes made one after the other, up to the first that fails. -/
inductive Carried : List Change → Dialogue → Option SqlError → Prop
  | done : Carried [] [] none
  | failed {c : Change} {changes : List Change} {e : SqlError} :
      Carried (c :: changes) [sent c.query (.error e)] (some e)
  | next {c : Change} {changes : List Change} {outcome : Outcome} {h : Dialogue}
      {fault : Option SqlError} (hrest : Carried changes h fault) :
      Carried (c :: changes) (sent c.query (.ok outcome) :: h) fault

/-- Losers deleted one after the other, each in a part of the transaction of its own, up to the
first failure that is worth another attempt: those that are deleted, and those whose delete was
refused, with the error. -/
inductive Deletes (plan : MergePlan) :
    List String → Dialogue → List String → List (String × SqlError) → Option SqlError → Prop
  | done : Deletes plan [] [] [] [] none
  | deleted {l : String} {losers : List String} {outcome : Outcome} {h : Dialogue}
      {gone : List String} {refused : List (String × SqlError)} {fault : Option SqlError}
      (hrest : Deletes plan losers h gone refused fault) :
      Deletes plan (l :: losers)
        (controlled (.savepoint 1) :: sent (plan.removal l).query (.ok outcome) ::
          controlled (.release 1) :: h) (l :: gone) refused fault
  | refused {l : String} {losers : List String} {e : SqlError} {h : Dialogue}
      {gone : List String} {refused : List (String × SqlError)} {fault : Option SqlError}
      (he : ¬ (failureOf e).isRetryable) (hrest : Deletes plan losers h gone refused fault) :
      Deletes plan (l :: losers)
        (controlled (.savepoint 1) :: sent (plan.removal l).query (.error e) ::
          controlled (.rollbackTo 1) :: h) gone ((l, e) :: refused) fault
  | abandoned {l : String} {losers : List String} {e : SqlError}
      (he : (failureOf e).isRetryable) :
      Deletes plan (l :: losers)
        [controlled (.savepoint 1), sent (plan.removal l).query (.error e),
          controlled (.rollbackTo 1)] [] [] (some e)

/-- The statements of a merge with its reply. -/
inductive MergeCourse (plan : MergePlan) : Dialogue → Reply (Option MergeOutcome) → Prop
  /-- A move failed. -/
  | stuck {h : Dialogue} {e : SqlError} (hmoves : Carried plan.moves h (some e)) :
      MergeCourse plan (controlled .begin :: (h ++ [controlled .rollback])) (.error (failureOf e))
  /-- A delete failed in a way that is worth another attempt. -/
  | abandoned {h h' : Dialogue} {gone : List String} {refused : List (String × SqlError)}
      {e : SqlError} (hmoves : Carried plan.moves h none)
      (hdeletes : Deletes plan plan.losers h' gone refused (some e)) :
      MergeCourse plan (controlled .begin :: (h ++ h' ++ [controlled .rollback]))
        (.error (failureOf e))
  | committed {h h' : Dialogue} {moved : Tally} {gone : List String}
      {refused : List (String × SqlError)} (hmoves : Carried plan.moves h none)
      (hdeletes : Deletes plan plan.losers h' gone refused none) :
      MergeCourse plan (controlled .begin :: (h ++ h' ++ [controlled .commit]))
        (.ok (some ⟨moved, gone, refused.map fun (l, e) => (l, (failureOf e).message)⟩))

theorem Carried.append (hh : Carried changes h none) (hh' : Carried changes' h' fault) :
    Carried (changes ++ changes') (h ++ h') fault := by
  generalize hnone : (none : Option SqlError) = fault₀ at hh
  induction hh with
  | done => exact hh'
  | failed => cases hnone
  | next _ ih => exact .next (ih hnone)

theorem Carried.append_of_some {e : SqlError} (hh : Carried changes h (some e)) :
    Carried (changes ++ changes') h (some e) := by
  generalize hsome : some e = fault₀ at hh
  induction hh with
  | done => cases hsome
  | failed => exact .failed
  | next _ ih => exact .next (ih hsome)

/-- The reply that changes give, as far as it tells whether one of them failed. -/
def Ends {α : Type} (reply : Reply α) : Option SqlError → Prop
  | none => ∃ a, reply = .ok a
  | some e => reply = .error (failureOf e)

theorem carried_of_yields_moveReferences {keep : String} {d : Dependent} {losers : List String}
    {n : Nat} {reply : Reply Nat} (hy : (moveReferences keep d losers n).Yields h reply) :
    ∃ fault, Carried (losers.map fun l => .move d.table d.column l keep) h fault ∧
      Ends reply fault := by
  induction losers generalizing n h with
  | nil =>
    obtain ⟨rfl, rfl⟩ := hy
    exact ⟨none, .done, n, rfl⟩
  | cons l losers ih =>
    obtain ⟨_, _, h₂, rfl, hexecute, hy⟩ := Program.yields_bind.mp hy
    obtain ⟨result, rfl, rfl⟩ := yields_execute hexecute
    cases result with
    | ok outcome =>
      obtain ⟨fault, hcarried, hends⟩ := ih hy
      exact ⟨fault, .next hcarried, hends⟩
    | error e =>
      obtain ⟨rfl, rfl⟩ := hy
      exact ⟨some e, .failed, rfl⟩

theorem carried_of_yields_moveAll {keep : String} {losers : List String}
    {dependents : List Dependent} {moved : Tally} {reply : Reply Tally}
    (hy : (moveAll keep losers dependents moved).Yields h reply) :
    ∃ fault, Carried (dependents.flatMap fun d => losers.map fun l =>
      .move d.table d.column l keep) h fault ∧ Ends reply fault := by
  induction dependents generalizing moved h with
  | nil =>
    obtain ⟨rfl, rfl⟩ := hy
    exact ⟨none, .done, moved, rfl⟩
  | cons d dependents ih =>
    obtain ⟨_, _, h₂, rfl, hmove, hy⟩ := Program.yields_bind.mp hy
    -- The moves of a dependent end with an error just where the merge sends nothing after them.
    obtain ⟨fault, hcarried, hends⟩ := carried_of_yields_moveReferences hmove
    cases fault with
    | none =>
      obtain ⟨n, rfl⟩ := hends
      obtain ⟨fault, hrest, hends⟩ := ih hy
      exact ⟨fault, hcarried.append hrest, hends⟩
    | some e =>
      obtain rfl := hends
      obtain ⟨rfl, rfl⟩ := hy
      rw [List.append_nil]
      exact ⟨some e, hcarried.append_of_some, rfl⟩

/-- An outcome with some more losers. -/
def withLosers (outcome : MergeOutcome) (gone : List String) (refused : List (String × SqlError)) :
    MergeOutcome :=
  { outcome with
    deleted := outcome.deleted ++ gone
    failed := outcome.failed ++ refused.map fun (l, e) => (l, (failureOf e).message) }

theorem deletes_of_yields {losers : List String} {outcome : MergeOutcome}
    {reply : Reply MergeOutcome} (hy : (deleteAll plan.entity losers outcome).Yields h reply) :
    ∃ gone refused fault, Deletes plan losers h gone refused fault ∧
      reply = fault.elim (.ok (withLosers outcome gone refused)) fun e => .error (failureOf e) := by
  induction losers generalizing outcome h with
  | nil =>
    obtain ⟨rfl, rfl⟩ := hy
    exact ⟨[], [], none, .done, by simp [withLosers]⟩
  | cons l losers ih =>
    obtain ⟨_, rfl, hdelete⟩ := yields_control hy
    obtain ⟨_, _, _, rfl, hexecute, hrelease⟩ := Program.yields_bind.mp hdelete
    obtain ⟨result, rfl, rfl⟩ := yields_execute hexecute
    obtain ⟨_, rfl, hlosers⟩ := yields_control hrelease
    cases result with
    | ok count =>
      obtain ⟨gone, refused, fault, hrest, hreply⟩ := ih hlosers
      refine ⟨l :: gone, refused, fault, .deleted hrest, ?_⟩
      simpa [withLosers] using hreply
    | error e =>
      by_cases he : (failureOf e).isRetryable
      · have hstep : LoserStep.ofDelete (countReply (.error e)) = .abandoned (failureOf e) :=
          if_pos he
        rw [hstep] at hlosers ⊢
        obtain ⟨rfl, rfl⟩ := hlosers
        exact ⟨[], [], some e, .abandoned he, rfl⟩
      · have hstep : LoserStep.ofDelete (countReply (.error e)) = .rejected (failureOf e) :=
          if_neg he
        rw [hstep] at hlosers ⊢
        obtain ⟨gone, refused, fault, hrest, hreply⟩ := ih hlosers
        refine ⟨gone, (l, e) :: refused, fault, .refused he hrest, ?_⟩
        simpa [withLosers] using hreply

theorem mergeCourse_of_yields {reply : Reply (Option MergeOutcome)}
    (hy : (merge plan).Yields h reply) : MergeCourse plan h reply := by
  obtain ⟨reply, h₁, h₂, rfl, htransaction, hy⟩ := Program.yields_bind.mp hy
  obtain ⟨_, rfl, hbegun⟩ := yields_control htransaction
  obtain ⟨_, _, _, rfl, hstatements, hcontrol⟩ := Program.yields_bind.mp hbegun
  obtain ⟨_, _, _, rfl, hmoves, hlosers⟩ := Program.yields_bind.mp hstatements
  obtain ⟨fault, hcarried, hends⟩ := carried_of_yields_moveAll hmoves
  cases fault with
  | some e =>
    obtain rfl := hends
    obtain ⟨rfl, rfl⟩ := hlosers
    obtain ⟨_, rfl, rfl, rfl⟩ := yields_control hcontrol
    obtain ⟨rfl, rfl⟩ := hy
    simpa using MergeCourse.stuck hcarried
  | none =>
    obtain ⟨moved, rfl⟩ := hends
    obtain ⟨gone, refused, fault, hdeletes, rfl⟩ := deletes_of_yields hlosers
    cases fault with
    | some e =>
      obtain ⟨_, rfl, rfl, rfl⟩ := yields_control hcontrol
      obtain ⟨rfl, rfl⟩ := hy
      simpa using MergeCourse.abandoned hcarried hdeletes
    | none =>
      obtain ⟨_, rfl, rfl, rfl⟩ := yields_control hcontrol
      obtain ⟨rfl, rfl⟩ := hy
      simpa [withLosers, noOutcome] using MergeCourse.committed hcarried hdeletes

/-! ## Statements -/

/-- The statements among some exchanges, but for those that control a transaction. -/
def queriesOf (h : Dialogue) : List Query :=
  h.filterMap fun e => match e.1 with
    | .query q => some q
    | .control _ => none

@[simp] theorem queriesOf_sent (q : Query) (result : Except SqlError Outcome) (h : Dialogue) :
    queriesOf (sent q result :: h) = q :: queriesOf h := rfl

@[simp] theorem queriesOf_controlled (c : Control) (h : Dialogue) :
    queriesOf (controlled c :: h) = queriesOf h := rfl

@[simp] theorem queriesOf_nil : queriesOf [] = [] := rfl

@[simp] theorem queriesOf_append (h h' : Dialogue) :
    queriesOf (h ++ h') = queriesOf h ++ queriesOf h' :=
  List.filterMap_append

theorem Carried.queries_prefix (hh : Carried changes h fault) :
    queriesOf h <+: changes.map Change.query := by
  induction hh with
  | done => exact List.prefix_rfl
  | failed => exact (List.prefix_cons_inj _).mpr (List.nil_prefix)
  | next _ ih => exact (List.prefix_cons_inj _).mpr ih

theorem Carried.queries (hh : Carried changes h none) :
    queriesOf h = changes.map Change.query := by
  generalize hnone : (none : Option SqlError) = fault at hh
  induction hh with
  | done => rfl
  | failed => cases hnone
  | next _ ih => exact congrArg _ (ih hnone)

/-- A statement that failed is the last one. -/
theorem Carried.not_mem_error (hh : Carried changes h none) (q : Query) (e : SqlError) :
    sent q (.error e) ∉ h := by
  generalize hnone : (none : Option SqlError) = fault at hh
  induction hh with
  | done => exact List.not_mem_nil
  | failed => cases hnone
  | next _ ih =>
    rintro (_ | ⟨_, hmem⟩)
    exact ih hnone hmem

theorem Carried.exists_error {e : SqlError} (hh : Carried changes h (some e)) :
    ∃ c ∈ changes, sent c.query (.error e) ∈ h := by
  generalize hsome : some e = fault at hh
  induction hh with
  | done => cases hsome
  | failed =>
    cases hsome
    exact ⟨_, List.mem_cons_self, List.mem_cons_self⟩
  | next _ ih =>
    obtain ⟨c, hc, hmem⟩ := ih hsome
    exact ⟨c, List.mem_cons_of_mem _ hc, List.mem_cons_of_mem _ hmem⟩

theorem Carried.not_mem_controlled (hh : Carried changes h fault) (c : Control) :
    controlled c ∉ h := by
  induction hh with
  | done => exact List.not_mem_nil
  | failed =>
    rintro (_ | ⟨_, hmem⟩)
    cases hmem
  | next _ ih =>
    rintro (_ | ⟨_, hmem⟩)
    exact ih hmem

section

variable {losers gone : List String} {refused : List (String × SqlError)}

theorem Deletes.queries_prefix (hh : Deletes plan losers h gone refused fault) :
    queriesOf h <+: (losers.map plan.removal).map Change.query := by
  induction hh with
  | done => exact List.prefix_rfl
  | deleted _ ih => exact (List.prefix_cons_inj _).mpr ih
  | refused _ _ ih => exact (List.prefix_cons_inj _).mpr ih
  | abandoned => exact (List.prefix_cons_inj _).mpr List.nil_prefix

theorem Deletes.queries (hh : Deletes plan losers h gone refused none) :
    queriesOf h = (losers.map plan.removal).map Change.query := by
  generalize hnone : (none : Option SqlError) = fault at hh
  induction hh with
  | done => rfl
  | deleted _ ih => exact congrArg _ (ih hnone)
  | refused _ _ ih => exact congrArg _ (ih hnone)
  | abandoned => cases hnone

theorem Deletes.not_mem_commit (hh : Deletes plan losers h gone refused fault) :
    controlled .commit ∉ h := by
  induction hh with
  | done => exact List.not_mem_nil
  | deleted _ ih => simpa using ih
  | refused _ _ ih => simpa using ih
  | abandoned => simp

/-- The deletes that failed are those of the losers that were refused. -/
theorem Deletes.mem_error_iff (hh : Deletes plan losers h gone refused none) {q : Query}
    {e : SqlError} :
    sent q (.error e) ∈ h ↔ ∃ l, (l, e) ∈ refused ∧ q = (plan.removal l).query := by
  generalize hnone : (none : Option SqlError) = fault at hh
  induction hh with
  | done => simp
  | deleted _ ih => simpa using ih hnone
  | @refused l' _ e' _ _ _ _ _ _ ih =>
    simp only [List.mem_cons, sent_ne_controlled, sent_inj, Except.error.injEq, ih hnone,
      false_or, Prod.mk.injEq, or_and_right, exists_or, and_assoc, exists_eq_left]
    exact or_congr_left and_comm
  | abandoned => cases hnone

theorem removal_query_inj {l l' : String}
    (heq : (plan.removal l).query = (plan.removal l').query) : l = l' := by
  have hchange := Change.query_injective heq
  rw [MergePlan.removal, MergePlan.removal, Change.remove.injEq] at hchange
  exact hchange.2.2

theorem Deletes.mem_messages_iff (hh : Deletes plan losers h gone refused none) {l why : String} :
    (l, why) ∈ refused.map (fun (l, e) => (l, (failureOf e).message)) ↔
      ∃ e, sent (plan.removal l).query (.error e) ∈ h ∧ why = (failureOf e).message := by
  simp only [hh.mem_error_iff, List.mem_map, Prod.exists, Prod.mk.injEq]
  constructor
  · rintro ⟨_, e, hmem, rfl, rfl⟩
    exact ⟨e, ⟨_, hmem, rfl⟩, rfl⟩
  · rintro ⟨e, ⟨l', hmem, heq⟩, rfl⟩
    exact ⟨l', e, hmem, (removal_query_inj heq).symm, rfl⟩

theorem Deletes.exists_error {e : SqlError} (hh : Deletes plan losers h gone refused (some e)) :
    (failureOf e).isRetryable ∧ ∃ l ∈ losers, sent (plan.removal l).query (.error e) ∈ h := by
  generalize hsome : some e = fault at hh
  induction hh with
  | done => cases hsome
  | deleted _ ih =>
    obtain ⟨he, l, hl, hmem⟩ := ih hsome
    exact ⟨he, l, List.mem_cons_of_mem _ hl, by simp [hmem]⟩
  | refused _ _ ih =>
    obtain ⟨he, l, hl, hmem⟩ := ih hsome
    exact ⟨he, l, List.mem_cons_of_mem _ hl, by simp [hmem]⟩
  | abandoned he =>
    cases hsome
    exact ⟨he, _, List.mem_cons_self, by simp⟩

theorem Deletes.not_retryable (hh : Deletes plan losers h gone refused fault) :
    ∀ r ∈ refused, ¬ (failureOf r.2).isRetryable := by
  induction hh with
  | done => exact nofun
  | deleted _ ih => exact ih
  | refused he _ ih => exact List.forall_mem_cons.mpr ⟨he, ih⟩
  | abandoned => exact nofun

theorem Deletes.gone_sublist (hh : Deletes plan losers h gone refused fault) :
    gone.Sublist losers := by
  induction hh with
  | done => exact .slnil
  | deleted _ ih => exact .cons_cons _ ih
  | refused _ _ ih => exact .cons _ ih
  | abandoned => exact List.nil_sublist _

theorem Deletes.refused_sublist (hh : Deletes plan losers h gone refused fault) :
    (refused.map Prod.fst).Sublist losers := by
  induction hh with
  | done => exact .slnil
  | deleted _ ih => exact .cons _ ih
  | refused _ _ ih => exact .cons_cons _ ih
  | abandoned => exact List.nil_sublist _

/-- Every loser is deleted or refused. -/
theorem Deletes.perm (hh : Deletes plan losers h gone refused none) :
    (gone ++ refused.map Prod.fst).Perm losers := by
  generalize hnone : (none : Option SqlError) = fault at hh
  induction hh with
  | done => exact .refl _
  | deleted _ ih => exact .cons _ (ih hnone)
  | refused _ _ ih => exact List.perm_middle.trans (.cons _ (ih hnone))
  | abandoned => cases hnone

end

end

end Sql

end RegistryDedup
