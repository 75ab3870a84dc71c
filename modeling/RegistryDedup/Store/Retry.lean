import RegistryDedup.Program
import RegistryDedup.Store.Failure

/-!
# Trying again

A call is tried again as long as it fails transiently or exceeds its time limit, up to a number of
attempts. Any other result ends the attempts.

- `Attempt`: what became of one call.
- `RetryPolicy`: how many attempts, how long to wait in between, and the time limit of each.
- `retrying`: the attempts as a program.
-/

namespace RegistryDedup

/-- What became of one call: it was answered, or the time limit passed first. -/
inductive Attempt (α : Type) where
  | answered (reply : Except Failure α)
  | late

/-- How a call is tried again. The waiting time starts at `baseDelay`, is doubled after each
attempt, and stays below `maxDelay`. -/
structure RetryPolicy where
  maxAttempts : Nat := 4
  baseDelay : Span := .millis 250
  maxDelay : Span := .seconds 5
  callTimeout : Span := .seconds 30
  deriving DecidableEq

namespace Attempt

variable {α : Type}

/-- The reply of an attempt. A call that exceeds its time limit has failed transiently. -/
def reply (policy : RetryPolicy) (operation : String) : Attempt α → Except Failure α
  | answered r => r
  | late => .error (.late operation policy.callTimeout)

end Attempt

variable {I : Interface} {α : Type}

/-- A call that is tried again up to `more` times after the first. -/
def attempts (policy : RetryPolicy) (operation : String) (call : Program I (Attempt α)) :
    (more : Nat) → Program I (Except Failure α)
  | 0 => do return (← call).reply policy operation
  | more + 1 => do
    match (← call).reply policy operation with
    | .ok a => return .ok a
    | .error e =>
      if e.isRetryable then attempts policy operation call more else return .error e

/-- A call with all the attempts of a policy, of which there is at least one. -/
def retrying (policy : RetryPolicy) (operation : String) (call : Program I (Attempt α)) :
    Program I (Except Failure α) :=
  attempts policy operation call (policy.maxAttempts - 1)

end RegistryDedup
