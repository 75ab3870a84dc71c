/-!
# Programs that ask

A `Program` is a tree: it is done with a result, or it asks a question and goes on with the answer.
What a program does to the world is in its questions alone, so a statement over all answers is a
statement over all branches of the tree.

- `Interface`: the questions that a program may ask, and the type of the answers to each.
- `Program`: programs over an interface; they form a lawful monad.
- `Program.run`: the result under a handler that answers with a state in hand.
- `Program.runIn`: the result under a handler that acts in some monad.
- `Program.answered`: each question answered by a program over another interface.
-/

namespace RegistryDedup

/-- Questions, and the answers that each of them may get. -/
structure Interface where
  Ask : Type
  Answer : Ask → Type

/-- A program over an interface. -/
inductive Program (I : Interface) (α : Type) : Type where
  | done (result : α)
  | ask (question : I.Ask) (next : I.Answer question → Program I α)

namespace Program

variable {I J : Interface} {α β γ σ : Type}

/-- One program after another. -/
def bind : Program I α → (α → Program I β) → Program I β
  | done a, f => f a
  | ask q next, f => ask q fun a => (next a).bind f

instance : Monad (Program I) where
  pure := done
  bind := bind

/-- A single question. -/
def perform (q : I.Ask) : Program I (I.Answer q) :=
  ask q done

/-- The result and the state under a handler. -/
def run (answer : (q : I.Ask) → σ → I.Answer q × σ) : Program I α → σ → α × σ
  | done a, s => (a, s)
  | ask q next, s =>
    let (a, s) := answer q s
    (next a).run answer s

/-- The result under a handler that acts on the world outside. -/
def runIn {m : Type → Type} [Monad m] (answer : (q : I.Ask) → m (I.Answer q)) : Program I α → m α
  | done a => pure a
  | ask q next => do (next (← answer q)).runIn answer

/-- Each question of a program answered by another program. -/
def answered (answer : (q : I.Ask) → Program J (I.Answer q)) : Program I α → Program J α
  | done a => done a
  | ask q next => (answer q).bind fun a => (next a).answered answer

@[simp] theorem done_bind (a : α) (f : α → Program I β) : (done a).bind f = f a := rfl

@[simp] theorem ask_bind (q : I.Ask) (next : I.Answer q → Program I α) (f : α → Program I β) :
    (ask q next).bind f = ask q fun a => (next a).bind f := rfl

@[simp] theorem pure_eq (a : α) : (pure a : Program I α) = done a := rfl

@[simp] theorem bind_eq (p : Program I α) (f : α → Program I β) : p >>= f = p.bind f := rfl

@[simp] theorem bind_done (p : Program I α) : p.bind done = p := by
  induction p with
  | done a => rfl
  | ask q next ih => simp [ih]

theorem bind_assoc (p : Program I α) (f : α → Program I β) (g : β → Program I γ) :
    (p.bind f).bind g = p.bind fun a => (f a).bind g := by
  induction p with
  | done a => rfl
  | ask q next ih => simp [ih]

instance : LawfulMonad (Program I) :=
  LawfulMonad.mk' (Program I) (fun p => bind_done p) (fun _ _ => rfl) (fun p f g => bind_assoc p f g)

@[simp] theorem run_done (answer : (q : I.Ask) → σ → I.Answer q × σ) (a : α) (s : σ) :
    (done a : Program I α).run answer s = (a, s) := rfl

/-- A sequence runs its second program from the state that the first one leaves. -/
theorem run_bind (answer : (q : I.Ask) → σ → I.Answer q × σ) (p : Program I α)
    (f : α → Program I β) (s : σ) :
    (p.bind f).run answer s = (f (p.run answer s).1).run answer (p.run answer s).2 := by
  induction p generalizing s with
  | done a => rfl
  | ask q next ih => simp [run, ih]

end Program

end RegistryDedup
