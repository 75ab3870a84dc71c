import RegistryDedup.Store.Request
import RegistryDedup.Text.Split

/-!
# Faults on the way to a store

A `Faulty` store passes calls on to another store, keeps a log of them, and lets calls fail by a
schedule before they get there.

- `Fault`: which calls fail, how many of them get through first, and how many fail.
- `Faulty.strike`: the fault that strikes a call, and the schedule afterwards.
- `Faulty.call`: a call that is struck fails; any other is passed on.

A merge may also be answered from a queue of outcomes.
-/

namespace RegistryDedup

open Text

/-- Calls whose description begins with `start` fail with `failure`: the first `skip` of them get
through, and after them `times` of them fail, all of them where `times` is negative. -/
structure Fault where
  start : String
  failure : Failure
  skip : Nat := 0
  times : Int := -1

namespace Faulty

/-- The fault that strikes a call of some description, and the schedule afterwards. Faults are
tried in order. A fault that lets a call through counts it and leaves it to the next. -/
def strike (description : String) : List Fault → Option Failure × List Fault
  | [] => (none, [])
  | f :: rest =>
    if beginsWith f.start description && f.skip == 0 && f.times != 0 then
      (some f.failure, { f with times := if 0 < f.times then f.times - 1 else f.times } :: rest)
    else
      let f := if beginsWith f.start description then { f with skip := f.skip - 1 } else f
      let (struck, rest) := strike description rest
      (struck, f :: rest)

end Faulty

/-- The state of a store behind a schedule of faults. -/
structure Faulty (σ : Type) where
  inner : σ
  faults : List Fault := []
  /-- Answers to the merges that are not struck. An empty place leaves the answer to the store. -/
  merges : List (Option MergeOutcome) := []
  /-- The calls so far, in words; a struck call with the kind of its failure. -/
  log : List String := []

namespace Faulty

variable {σ : Type}

/-- A call passed on to the store behind. -/
def passOn (store : Store σ) (r : Request) (s : Faulty σ) : Reply r.Answer × Faulty σ :=
  let (reply, inner) := store.call r s.inner
  (reply, { s with inner })

/-- A call that is not struck: a merge is answered from the queue, anything else by the store. -/
def through (store : Store σ) : (r : Request) → Faulty σ → Reply r.Answer × Faulty σ
  | .merge plan, s =>
    match s.merges with
    | some outcome :: rest => (.ok (some outcome), { s with merges := rest })
    | none :: rest => passOn store (.merge plan) { s with merges := rest }
    | [] => passOn store (.merge plan) s
  | r, s => passOn store r s

/-- A call: struck by a fault, or else let through. -/
def call (store : Store σ) (r : Request) (s : Faulty σ) : Reply r.Answer × Faulty σ :=
  let description := r.describe
  let (struck, faults) := strike description s.faults
  match struck with
  | some failure =>
    (.error failure,
      { s with faults, log := s.log ++ [description ++ " !" ++ failure.kind.name] })
  | none => through store r { s with faults, log := s.log ++ [description] }

/-- A store behind a schedule of faults. -/
def store (inner : Store σ) : Store (Faulty σ) where
  backend := inner.backend
  call := call inner

end Faulty

end RegistryDedup
