import RegistryDedup.Program

/-!
# Transcripts of programs

A transcript lists the questions that a program asked, each with the answer that it got. A statement
over all transcripts is a statement over every run against every world, and a statement over the
transcripts of a stopped program is one about every point of such a run.

- `Program.Yields`: given the answers of a transcript, a program asks just its questions and ends
  with a result.
- `Program.Asks`: the same for a program that may have been stopped on the way. By
  `Asks.exists_yields` every such transcript is the start of a complete one.
- `Program.Only`: all that a program may ask satisfies a predicate, whatever the answers.
- `Interface.Environment`: what may be answered in a state, and the state afterwards; `Follows`
  carries a state along a transcript.
- `Program.transcript`: the transcript under a handler, which ties `Program.run` to the above.
- `Program.run_answered`: a program whose questions are answered by programs runs as under a handler
  that runs these.
-/

namespace RegistryDedup

/-- A question with the answer that it got. -/
abbrev Interface.Exchange (I : Interface) := (q : I.Ask) × I.Answer q

namespace Program

variable {I : Interface} {α β σ : Type}

/-- Given the answers of a transcript, a program asks just its questions and ends with a result. -/
def Yields : Program I α → List I.Exchange → α → Prop
  | done a, h, b => h = [] ∧ b = a
  | ask q next, h, b => ∃ x rest, h = ⟨q, x⟩ :: rest ∧ (next x).Yields rest b

/-- Given the answers of a transcript, a program asks just its questions, and may then have been
stopped. -/
def Asks : Program I α → List I.Exchange → Prop
  | done _, h => h = []
  | ask q next, h => h = [] ∨ ∃ x rest, h = ⟨q, x⟩ :: rest ∧ (next x).Asks rest

@[simp] theorem yields_done {a b : α} {h : List I.Exchange} :
    (done a : Program I α).Yields h b ↔ h = [] ∧ b = a := Iff.rfl

@[simp] theorem asks_done {a : α} {h : List I.Exchange} :
    (done a : Program I α).Asks h ↔ h = [] := Iff.rfl

/-- A transcript of a sequence is one of its first program and then one of its second. -/
theorem yields_bind {p : Program I α} {f : α → Program I β} {h : List I.Exchange} {b : β} :
    (p.bind f).Yields h b ↔ ∃ a h₁ h₂, h = h₁ ++ h₂ ∧ p.Yields h₁ a ∧ (f a).Yields h₂ b := by
  induction p generalizing h with
  | done a =>
    constructor
    · intro hb
      exact ⟨a, [], h, rfl, ⟨rfl, rfl⟩, hb⟩
    · rintro ⟨_, h₁, h₂, rfl, ⟨rfl, rfl⟩, hb⟩
      exact hb
  | ask q next ih =>
    constructor
    · rintro ⟨x, rest, rfl, hb⟩
      obtain ⟨a, h₁, h₂, rfl, ha, hb⟩ := (ih x).mp hb
      exact ⟨a, ⟨q, x⟩ :: h₁, h₂, rfl, ⟨x, h₁, rfl, ha⟩, hb⟩
    · rintro ⟨a, h₁, h₂, rfl, ⟨x, rest, rfl, ha⟩, hb⟩
      exact ⟨x, rest ++ h₂, rfl, (ih x).mpr ⟨a, rest, h₂, rfl, ha, hb⟩⟩

/-- A sequence was stopped in its first program, or its first program ended. -/
theorem asks_bind {p : Program I α} {f : α → Program I β} {h : List I.Exchange} :
    (p.bind f).Asks h ↔
      p.Asks h ∨ ∃ a h₁ h₂, h = h₁ ++ h₂ ∧ p.Yields h₁ a ∧ (f a).Asks h₂ := by
  induction p generalizing h with
  | done a =>
    constructor
    · intro hb
      exact .inr ⟨a, [], h, rfl, ⟨rfl, rfl⟩, hb⟩
    · rintro (rfl | ⟨_, h₁, h₂, rfl, ⟨rfl, rfl⟩, hb⟩)
      · show (f a).Asks []
        cases hf : f a with
        | done b => rfl
        | ask q next => exact .inl rfl
      · exact hb
  | ask q next ih =>
    constructor
    · rintro (rfl | ⟨x, rest, rfl, hb⟩)
      · exact .inl (.inl rfl)
      · rcases (ih x).mp hb with ha | ⟨a, h₁, h₂, rfl, ha, hb⟩
        · exact .inl (.inr ⟨x, rest, rfl, ha⟩)
        · exact .inr ⟨a, ⟨q, x⟩ :: h₁, h₂, rfl, ⟨x, h₁, rfl, ha⟩, hb⟩
    · rintro ((rfl | ⟨x, rest, rfl, ha⟩) | ⟨a, h₁, h₂, rfl, ⟨x, rest, rfl, ha⟩, hb⟩)
      · exact .inl rfl
      · exact .inr ⟨x, rest, rfl, (ih x).mpr (.inl ha)⟩
      · exact .inr ⟨x, rest ++ h₂, rfl, (ih x).mpr (.inr ⟨a, rest, h₂, rfl, ha, hb⟩)⟩

theorem asks_nil (p : Program I α) : p.Asks [] := by
  cases p with
  | done a => rfl
  | ask q next => exact .inl rfl

theorem Yields.asks {p : Program I α} {h : List I.Exchange} {a : α} (hp : p.Yields h a) :
    p.Asks h := by
  induction p generalizing h with
  | done b => exact hp.1
  | ask q next ih =>
    obtain ⟨x, rest, rfl, hp⟩ := hp
    exact .inr ⟨x, rest, rfl, ih x hp⟩

/-- What a program asked up to some point it asked up to every earlier point. -/
theorem Asks.of_append {p : Program I α} {h₁ h₂ : List I.Exchange} (hp : p.Asks (h₁ ++ h₂)) :
    p.Asks h₁ := by
  induction p generalizing h₁ with
  | done b => exact (List.append_eq_nil_iff.mp hp).1
  | ask q next ih =>
    cases h₁ with
    | nil => exact .inl rfl
    | cons e h₁ =>
      obtain ⟨x, rest, he, hp⟩ := hp.resolve_left (List.cons_ne_nil _ _)
      obtain ⟨rfl, rfl⟩ := List.cons.inj he
      exact .inr ⟨x, h₁, rfl, ih x hp⟩

/-- A stopped program could have gone on to an end, if every question has an answer. -/
theorem Asks.exists_yields (hI : ∀ q : I.Ask, Nonempty (I.Answer q)) {p : Program I α}
    {h : List I.Exchange} (hp : p.Asks h) : ∃ rest a, p.Yields (h ++ rest) a := by
  induction p generalizing h with
  | done b =>
    rw [asks_done] at hp
    exact ⟨[], b, by simp [hp]⟩
  | ask q next ih =>
    rcases hp with rfl | ⟨x, rest, rfl, hp⟩
    · obtain ⟨x⟩ := hI q
      obtain ⟨rest, a, hr⟩ := ih x (asks_nil _)
      exact ⟨⟨q, x⟩ :: rest, a, x, rest, rfl, hr⟩
    · obtain ⟨rest', a, hr⟩ := ih x hp
      exact ⟨rest', a, x, rest ++ rest', rfl, hr⟩

/-- The answers settle where a program ends and with what. -/
theorem Yields.unique {p : Program I α} {h₁ h₂ r₁ r₂ : List I.Exchange} {a b : α}
    (ha : p.Yields h₁ a) (hb : p.Yields h₂ b) (h : h₁ ++ r₁ = h₂ ++ r₂) : h₁ = h₂ ∧ a = b := by
  induction p generalizing h₁ h₂ with
  | done c =>
    obtain ⟨rfl, rfl⟩ := ha
    obtain ⟨rfl, rfl⟩ := hb
    exact ⟨rfl, rfl⟩
  | ask q next ih =>
    obtain ⟨x, rest₁, rfl, ha⟩ := ha
    obtain ⟨y, rest₂, rfl, hb⟩ := hb
    obtain ⟨he, hr⟩ := List.cons.inj h
    obtain rfl : x = y := by simpa using he
    obtain ⟨rfl, rfl⟩ := ih x ha hb hr
    exact ⟨rfl, rfl⟩

/-- All that a program may ask satisfies a predicate, whatever the answers. -/
def Only (P : I.Ask → Prop) : Program I α → Prop
  | done _ => True
  | ask q next => P q ∧ ∀ x, (next x).Only P

@[simp] theorem only_done {P : I.Ask → Prop} {a : α} : (done a : Program I α).Only P := trivial

theorem Only.bind {P : I.Ask → Prop} {p : Program I α} {f : α → Program I β} (hp : p.Only P)
    (hf : ∀ a, (f a).Only P) : (p.bind f).Only P := by
  induction p with
  | done a => exact hf a
  | ask q next ih => exact ⟨hp.1, fun x => ih x (hp.2 x)⟩

theorem Only.mono {P Q : I.Ask → Prop} {p : Program I α} (hp : p.Only P) (h : ∀ q, P q → Q q) :
    p.Only Q := by
  induction p with
  | done a => trivial
  | ask q next ih => exact ⟨h q hp.1, fun x => ih x (hp.2 x)⟩

/-- What a program may ask covers all that is in its transcripts. -/
theorem Only.asks {P : I.Ask → Prop} {p : Program I α} {h : List I.Exchange} (hp : p.Only P)
    (hh : p.Asks h) : ∀ e ∈ h, P e.1 := by
  induction p generalizing h with
  | done a =>
    rw [asks_done] at hh
    simp [hh]
  | ask q next ih =>
    rcases hh with rfl | ⟨x, rest, rfl, hh⟩
    · simp
    · rintro e (_ | ⟨_, he⟩)
      · exact hp.1
      · exact ih x (hp.2 x) hh e he

theorem Only.yields {P : I.Ask → Prop} {p : Program I α} {h : List I.Exchange} {a : α}
    (hp : p.Only P) (hh : p.Yields h a) : ∀ e ∈ h, P e.1 :=
  hp.asks hh.asks

end Program

/-! ## Environments -/

/-- What may be answered to a question in a state, and the state afterwards. -/
abbrev Interface.Environment (I : Interface) (σ : Type) := (q : I.Ask) → σ → I.Answer q → σ → Prop

namespace Interface.Environment

variable {I : Interface} {σ : Type} {env : I.Environment σ}

/-- A transcript whose answers an environment may give, from one state to another. -/
def Follows (env : I.Environment σ) : σ → List I.Exchange → σ → Prop
  | s, [], s' => s' = s
  | s, e :: h, s' => ∃ t, env e.1 s e.2 t ∧ Follows env t h s'

@[simp] theorem follows_nil {s s' : σ} : env.Follows s [] s' ↔ s' = s := Iff.rfl

theorem follows_append {s s' : σ} {h₁ h₂ : List I.Exchange} :
    env.Follows s (h₁ ++ h₂) s' ↔ ∃ t, env.Follows s h₁ t ∧ env.Follows t h₂ s' := by
  induction h₁ generalizing s with
  | nil =>
    constructor
    · intro h
      exact ⟨s, rfl, h⟩
    · rintro ⟨t, rfl, h⟩
      exact h
  | cons e h₁ ih =>
    constructor
    · rintro ⟨t, he, h⟩
      obtain ⟨u, hu, h⟩ := ih.mp h
      exact ⟨u, ⟨t, he, hu⟩, h⟩
    · rintro ⟨u, ⟨t, he, hu⟩, h⟩
      exact ⟨t, he, ih.mpr ⟨u, hu, h⟩⟩

theorem follows_singleton {s s' : σ} {e : I.Exchange} :
    env.Follows s [e] s' ↔ env e.1 s e.2 s' := by
  constructor
  · rintro ⟨t, he, rfl⟩
    exact he
  · intro he
    exact ⟨s', he, rfl⟩

/-- What every exchange of a transcript keeps holds after it. -/
theorem Follows.keeps {P : σ → Prop} {s s' : σ} {h : List I.Exchange} (hf : env.Follows s h s')
    (hs : P s) (hh : ∀ e ∈ h, ∀ t t', P t → env e.1 t e.2 t' → P t') : P s' := by
  induction h generalizing s with
  | nil => exact hf ▸ hs
  | cons e h ih =>
    obtain ⟨t, he, hf⟩ := hf
    exact ih hf (hh e List.mem_cons_self s t hs he) fun e' he' => hh e' (List.mem_cons_of_mem _ he')

/-- What no exchange of a transcript changes is the same after it. -/
theorem Follows.unchanged {s s' : σ} {h : List I.Exchange} (hf : env.Follows s h s')
    (hh : ∀ e ∈ h, ∀ t t', env e.1 t e.2 t' → t' = t) : s' = s := by
  induction h generalizing s with
  | nil => exact hf
  | cons e h ih =>
    obtain ⟨t, he, hf⟩ := hf
    obtain rfl := hh e List.mem_cons_self s t he
    exact ih hf fun e' he' => hh e' (List.mem_cons_of_mem _ he')

/-- What no exchange of a transcript changes answers each of its questions. -/
theorem Follows.answers {s s' : σ} {h : List I.Exchange} (hf : env.Follows s h s')
    (hh : ∀ e ∈ h, ∀ t t', env e.1 t e.2 t' → t' = t) : ∀ e ∈ h, env e.1 s e.2 s := by
  induction h generalizing s with
  | nil => simp
  | cons e h ih =>
    obtain ⟨t, he, hf⟩ := hf
    obtain rfl := hh e List.mem_cons_self s t he
    rw [List.forall_mem_cons]
    exact ⟨he, ih hf fun e' he' => hh e' (List.mem_cons_of_mem _ he')⟩

/-- An environment that answers as another one might. -/
theorem Follows.mono {env' : I.Environment σ} (henv : ∀ q s x s', env q s x s' → env' q s x s')
    {s s' : σ} {h : List I.Exchange} (hf : env.Follows s h s') : env'.Follows s h s' := by
  induction h generalizing s with
  | nil => exact hf
  | cons e h ih =>
    obtain ⟨t, he, hf⟩ := hf
    exact ⟨t, henv _ _ _ _ he, ih hf⟩

end Interface.Environment

/-- In an environment that always has an answer, a program comes to an end. -/
theorem Program.exists_follows {I : Interface} {α σ : Type} {env : I.Environment σ}
    (hall : ∀ q s, ∃ x s', env q s x s') (p : Program I α) (s : σ) :
    ∃ h a s', p.Yields h a ∧ env.Follows s h s' := by
  induction p generalizing s with
  | done a => exact ⟨[], a, s, ⟨rfl, rfl⟩, rfl⟩
  | ask q next ih =>
    obtain ⟨x, t, hx⟩ := hall q s
    obtain ⟨h, a, s', hy, hf⟩ := ih x t
    exact ⟨⟨q, x⟩ :: h, a, s', ⟨x, h, rfl, hy⟩, ⟨t, hx, hf⟩⟩

/-! ## Handlers -/

namespace Program

variable {I J : Interface} {α β σ τ : Type}

/-- A program whose questions are answered by programs runs as under a handler that runs these. -/
theorem run_answered (answer : (q : J.Ask) → σ → J.Answer q × σ)
    (f : (q : I.Ask) → Program J (I.Answer q)) (p : Program I α) (s : σ) :
    (p.answered f).run answer s = p.run (fun q s => (f q).run answer s) s := by
  induction p generalizing s with
  | done a => rfl
  | ask q next ih =>
    rw [answered, run_bind, ih]
    rfl

/-- The transcript of a program under a handler. -/
def transcript (answer : (q : I.Ask) → σ → I.Answer q × σ) : Program I α → σ → List I.Exchange
  | done _, _ => []
  | ask q next, s =>
    ⟨q, (answer q s).1⟩ :: (next (answer q s).1).transcript answer (answer q s).2

/-- The transcript of a sequence is that of its first program and then, from the state that this one
leaves, that of its second. -/
theorem transcript_bind (answer : (q : I.Ask) → σ → I.Answer q × σ) (p : Program I α)
    (f : α → Program I β) (s : σ) :
    (p.bind f).transcript answer s = p.transcript answer s ++
      (f (p.run answer s).1).transcript answer (p.run answer s).2 := by
  induction p generalizing s with
  | done a => rfl
  | ask q next ih => simp [transcript, run, ih]

/-- The result under a handler is that of its transcript. -/
theorem yields_transcript (answer : (q : I.Ask) → σ → I.Answer q × σ) (p : Program I α) (s : σ) :
    p.Yields (p.transcript answer s) (p.run answer s).1 := by
  induction p generalizing s with
  | done a => exact ⟨rfl, rfl⟩
  | ask q next ih => exact ⟨(answer q s).1, _, rfl, ih _ _⟩

/-- A handler that answers as an environment may takes the state along its transcript. The
environment may see a part of the state only. -/
theorem follows_transcript {env : I.Environment τ} {answer : (q : I.Ask) → σ → I.Answer q × σ}
    (view : σ → τ) (h : ∀ q s, env q (view s) (answer q s).1 (view (answer q s).2))
    (p : Program I α) (s : σ) :
    env.Follows (view s) (p.transcript answer s) (view (p.run answer s).2) := by
  induction p generalizing s with
  | done a => rfl
  | ask q next ih => exact ⟨_, h q s, ih _ _⟩

end Program

end RegistryDedup
