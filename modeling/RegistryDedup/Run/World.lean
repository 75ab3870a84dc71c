import RegistryDedup.Files.Lock
import RegistryDedup.Run.Action

/-!
# The world of a run

A `World` is a store with its state, a directory with the lock file and the journal, and a clock
that stands still. `World.perform` gives a run its answers; of several calls in flight always the
first goes on.
-/

namespace RegistryDedup

/-- The state of the world. -/
structure World (σ : Type) where
  state : σ
  directory : Directory
  clock : Instant
  process : Nat

namespace World

variable {σ α : Type}

/-- The answer to one action. -/
def answer (store : Store σ) : (a : Action) → World σ → a.Answer × World σ
  | .call r, w =>
    let (reply, state) := store.call r w.state
    (.answered reply, { w with state })
  | .pick others, w => ((0 : Fin (others + 1)), w)
  | .now, w => (w.clock, w)
  | .acquireLock path, w =>
    match Lock.acquire w.directory path ⟨w.process, w.clock⟩ with
    | .ok directory => (.ok (), { w with directory })
    | .error e => (.error e, w)
  | .releaseLock path, w => ((), { w with directory := Lock.release w.directory path })
  | .openJournal path, w =>
    match w.directory.append path "" with
    | .ok directory => (.ok (), { w with directory })
    | .error e => (.error e, w)
  | .appendJournal path entry, w =>
    match w.directory.append path (Journal.append "" entry) with
    | .ok directory => (.ok (), { w with directory })
    | .error e => (.error e, w)

/-- The result of a run and the world after it. -/
def perform (store : Store σ) (run : Run α) (w : World σ) : α × World σ :=
  run.run (answer store) w

end World

end RegistryDedup
