import Mathlib.Data.List.Induction
import Mathlib.Logic.Function.Basic
import Mathlib.Logic.Relation
import RegistryDedup.Proofs.Transcript

/-!
# Programs beside each other

Several programs ask one world, one question at a time and in any order. What they asked together is
a list of exchanges with the party that each belongs to.

- `Program.Interleaved`: what each party asked is what its program asks, given the answers. Any
  party may have been stopped, so that a statement over all such lists is one about every point of
  every order.
- `Interface.Environment.among`: a world in which others act before each question. All that they do,
  and all that the party does itself, are steps of one kind.
- `Program.Interleaved.among`: if no party makes other steps among parties that make such steps
  only, then none does, in whatever order they ask.
- `Program.weave`: the parties under a handler that answers in the order of some turns.
-/

namespace RegistryDedup

open Relation

/-- What several parties asked of one world, in the order in which they were answered. -/
abbrev Interface.Joint (I : Interface) (ι : Type) := List (ι × I.Exchange)

section Parties

variable {ι : Type} [DecidableEq ι] {I : Interface} {i j : ι} {h h' : I.Joint ι} {e : I.Exchange}

/-- What one party asked. -/
def partOf (i : ι) (h : I.Joint ι) : List I.Exchange :=
  (h.filter (·.1 = i)).map (·.2)

@[simp] theorem partOf_nil : partOf i ([] : I.Joint ι) = [] := rfl

@[simp] theorem partOf_append : partOf i (h ++ h') = partOf i h ++ partOf i h' := by
  simp [partOf]

theorem partOf_cons_self : partOf i ((i, e) :: h) = e :: partOf i h := by
  simp [partOf]

theorem partOf_cons_of_ne (hj : j ≠ i) : partOf i ((j, e) :: h) = partOf i h := by
  simp [partOf, hj]

/-- What one party asked by itself. -/
theorem partOf_map (i : ι) (h : List I.Exchange) : partOf i (h.map fun e => (i, e)) = h := by
  simp [partOf, List.filter_map, Function.comp_def]

theorem mem_partOf : e ∈ partOf i h ↔ (i, e) ∈ h := by
  simp [partOf]

end Parties

/-! ## Others -/

namespace Interface.Environment

variable {I : Interface} {σ : Type} {env : I.Environment σ} {step : σ → σ → Prop} {s s' : σ}
  {h : List I.Exchange}

/-- A world in which others act before each question. -/
def amid (env : I.Environment σ) (others : σ → σ → Prop) : I.Environment σ :=
  fun q s x s' => ∃ t, others s t ∧ env q t x s'

/-- A world in which others act before each question. All that they do are steps of one kind, and so
is what the party does itself. -/
def among (env : I.Environment σ) (step : σ → σ → Prop) : I.Environment σ :=
  amid (fun q s x s' => env q s x s' ∧ ReflTransGen step s s') (ReflTransGen step)

/-- What nobody else does, nobody does. -/
theorem amid_eq {q : I.Ask} {x : I.Answer q} : env.amid Eq q s x s' ↔ env q s x s' := by
  simp [amid]

theorem Follows.amid_mono {env' : I.Environment σ} {others : σ → σ → Prop}
    (henv : ∀ q s x s', env q s x s' → env' q s x s') (hf : (env.amid others).Follows s h s') :
    (env'.amid others).Follows s h s' := by
  refine hf.mono ?_
  rintro q s x s' ⟨t, hothers, hown⟩
  exact ⟨t, hothers, henv q t x s' hown⟩

/-- Each question was answered in a state in which holds what every exchange keeps. -/
theorem Follows.keeps_answers {P : σ → Prop} (hf : env.Follows s h s') (hs : P s)
    (hh : ∀ e ∈ h, ∀ t t', P t → env e.1 t e.2 t' → P t') :
    ∀ e ∈ h, ∃ t t', P t ∧ env e.1 t e.2 t' := by
  intro e he
  obtain ⟨front, back, rfl⟩ := List.append_of_mem he
  obtain ⟨t, hfront, t', hown, -⟩ := follows_append.mp hf
  exact ⟨t, t', hfront.keeps hs fun e' he' => hh e' (List.mem_append_left _ he'), hown⟩

theorem Follows.of_among (hf : (env.among step).Follows s h s') :
    (env.amid (ReflTransGen step)).Follows s h s' := by
  refine hf.mono ?_
  rintro q s x s' ⟨t, hothers, hown, -⟩
  exact ⟨t, hothers, hown⟩

/-- All together have made steps of that kind only. -/
theorem Follows.steps (hf : (env.among step).Follows s h s') : ReflTransGen step s s' := by
  refine hf.keeps (P := ReflTransGen step s) .refl ?_
  rintro e - t t' ht ⟨u, hothers, -, hown⟩
  exact (ht.trans hothers).trans hown

/-- Each question was answered in some state on the way. -/
theorem Follows.exists_answer (hf : (env.among step).Follows s h s') {e : I.Exchange}
    (he : e ∈ h) :
    ∃ t t', ReflTransGen step s t ∧ env e.1 t e.2 t' ∧ ReflTransGen step t' s' := by
  obtain ⟨front, back, rfl⟩ := List.append_of_mem he
  obtain ⟨u, hfront, v, ⟨t, hothers, hown, -⟩, hback⟩ := follows_append.mp hf
  exact ⟨t, v, hfront.steps.trans hothers, hown, hback.steps⟩

end Interface.Environment

/-! ## Parties -/

namespace Program

variable {ι : Type} [DecidableEq ι] {I : Interface} {α σ τ : Type} {programs : ι → Program I α}
  {h : I.Joint ι}

/-- What each party asked is what its program asks, given the answers. -/
def Interleaved (programs : ι → Program I α) (h : I.Joint ι) : Prop :=
  ∀ i, (programs i).Asks (partOf i h)

theorem Interleaved.of_append {h' : I.Joint ι} (hp : Interleaved programs (h ++ h')) :
    Interleaved programs h := by
  intro i
  have hasks := hp i
  rw [partOf_append] at hasks
  exact hasks.of_append

/-- If no party makes other steps among parties that make steps of one kind only, then none does, in
whatever order they ask: each is among such parties at every point. -/
theorem Interleaved.among {env : I.Environment σ} {step : σ → σ → Prop} {start s' : σ}
    (hparty : ∀ i asked e s t t', (programs i).Asks (asked ++ [e]) →
      (env.among step).Follows start asked s → ReflTransGen step s t → env e.1 t e.2 t' →
      ReflTransGen step t t')
    (hp : Interleaved programs h) (hf : env.Follows start (h.map (·.2)) s') :
    ReflTransGen step start s' ∧
      ∀ i, ∃ s, (env.among step).Follows start (partOf i h) s ∧ ReflTransGen step s s' := by
  induction h using List.reverseRecOn generalizing s' with
  | nil =>
    obtain rfl := hf
    exact ⟨.refl, fun i => ⟨s', rfl, .refl⟩⟩
  | append_singleton h last ih =>
    obtain ⟨j, e⟩ := last
    rw [List.map_append] at hf
    obtain ⟨t, hf, he⟩ := Interface.Environment.follows_append.mp hf
    rw [List.map_singleton, Interface.Environment.follows_singleton] at he
    obtain ⟨hall, heach⟩ := ih hp.of_append hf
    -- The last exchange belongs to a party that has been among such parties up to now.
    have hstep : ReflTransGen step t s' := by
      obtain ⟨s, hs, hothers⟩ := heach j
      have hasks := hp j
      rw [partOf_append, partOf_cons_self] at hasks
      exact hparty j _ e s t s' hasks hs hothers he
    refine ⟨hall.trans hstep, fun i => ?_⟩
    obtain ⟨s, hs, hothers⟩ := heach i
    by_cases hij : j = i
    · subst hij
      refine ⟨s', ?_, .refl⟩
      rw [partOf_append, partOf_cons_self]
      refine Interface.Environment.follows_append.mpr ⟨s, hs, ?_⟩
      rw [partOf_nil, Interface.Environment.follows_singleton]
      exact ⟨t, hothers, he, hstep⟩
    · refine ⟨s, ?_, hothers.trans hstep⟩
      rwa [partOf_append, partOf_cons_of_ne hij, partOf_nil, List.append_nil]

/-! ## Turns -/

/-- What became of parties that took some turns. -/
structure Woven (ι : Type) (I : Interface) (α σ : Type) where
  joint : I.Joint ι
  state : σ
  /-- What each party would have gone on with. -/
  rest : ι → Program I α

/-- The parties under a handler, in the order of some turns. In a turn a party asks one question; a
party that has come to its end lets its turn go. -/
def weave (answer : (q : I.Ask) → σ → I.Answer q × σ) :
    List ι → (ι → Program I α) → σ → Woven ι I α σ
  | [], programs, s => ⟨[], s, programs⟩
  | i :: turns, programs, s =>
    match programs i with
    | done _ => weave answer turns programs s
    | ask q next =>
      let (x, s) := answer q s
      let later := weave answer turns (Function.update programs i (next x)) s
      { later with joint := (i, ⟨q, x⟩) :: later.joint }

/-- The result of a program that has come to its end. -/
def result? : Program I α → Option α
  | done a => some a
  | ask _ _ => none

/-- In a turn of a party that goes on it asks its next question. -/
theorem weave_cons_ask {answer : (q : I.Ask) → σ → I.Answer q × σ} {i : ι} {turns : List ι}
    {q : I.Ask} {next : I.Answer q → Program I α} (hi : programs i = ask q next) (s : σ) :
    weave answer (i :: turns) programs s =
      { weave answer turns (Function.update programs i (next (answer q s).1)) (answer q s).2 with
        joint := (i, ⟨q, (answer q s).1⟩) :: (weave answer turns
          (Function.update programs i (next (answer q s).1)) (answer q s).2).joint } := by
  rw [weave, hi]

theorem weave_cons_done {answer : (q : I.Ask) → σ → I.Answer q × σ} {i : ι} {turns : List ι} {a : α}
    (hi : programs i = done a) (s : σ) :
    weave answer (i :: turns) programs s = weave answer turns programs s := by
  rw [weave, hi]

theorem interleaved_weave (answer : (q : I.Ask) → σ → I.Answer q × σ) (turns : List ι)
    (programs : ι → Program I α) (s : σ) :
    Interleaved programs (weave answer turns programs s).joint := by
  induction turns generalizing programs s with
  | nil => exact fun i => asks_nil _
  | cons i turns ih =>
    cases hi : programs i with
    | done a =>
      rw [weave_cons_done hi]
      exact ih programs s
    | ask q next =>
      rw [weave_cons_ask hi]
      intro j
      have hlater := ih (Function.update programs i (next (answer q s).1)) (answer q s).2 j
      by_cases hij : i = j
      · subst hij
        rw [Function.update_self] at hlater
        rw [partOf_cons_self, hi]
        exact .inr ⟨_, _, rfl, hlater⟩
      · rw [Function.update_of_ne (Ne.symm hij)] at hlater
        rwa [partOf_cons_of_ne hij]

/-- A party that has come to its end has its result by what it asked. -/
theorem yields_weave (answer : (q : I.Ask) → σ → I.Answer q × σ) {turns : List ι}
    {programs : ι → Program I α} {s : σ} {i : ι} {a : α}
    (hi : ((weave answer turns programs s).rest i).result? = some a) :
    (programs i).Yields (partOf i (weave answer turns programs s).joint) a := by
  induction turns generalizing programs s with
  | nil =>
    change (programs i).result? = some a at hi
    cases hprogram : programs i with
    | done b =>
      rw [hprogram] at hi
      cases hi
      exact ⟨rfl, rfl⟩
    | ask q next =>
      rw [hprogram] at hi
      cases hi
  | cons j turns ih =>
    cases hj : programs j with
    | done b =>
      rw [weave_cons_done hj] at hi ⊢
      exact ih hi
    | ask q next =>
      rw [weave_cons_ask hj] at hi ⊢
      have hlater := ih hi
      by_cases hij : j = i
      · subst hij
        rw [Function.update_self] at hlater
        rw [partOf_cons_self, hj]
        exact ⟨_, _, rfl, hlater⟩
      · rw [Function.update_of_ne (Ne.symm hij)] at hlater
        rwa [partOf_cons_of_ne hij]

/-- A handler that answers as an environment may takes the state along. -/
theorem follows_weave {env : I.Environment τ} {answer : (q : I.Ask) → σ → I.Answer q × σ}
    (view : σ → τ) (hanswer : ∀ q s, env q (view s) (answer q s).1 (view (answer q s).2))
    (turns : List ι) (programs : ι → Program I α) (s : σ) :
    env.Follows (view s) ((weave answer turns programs s).joint.map (·.2))
      (view (weave answer turns programs s).state) := by
  induction turns generalizing programs s with
  | nil => rfl
  | cons i turns ih =>
    cases hi : programs i with
    | done a =>
      rw [weave_cons_done hi]
      exact ih programs s
    | ask q next =>
      rw [weave_cons_ask hi]
      exact ⟨_, hanswer q s, ih _ _⟩

end Program

end RegistryDedup
