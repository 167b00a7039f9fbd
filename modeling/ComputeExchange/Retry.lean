/-!
# Trying again

An action that fails is tried again after a wait, a few times.  How long each wait really is lies
with whoever performs it; here stands how long it is at most.
-/

namespace ComputeExchange.Retry

/-- The longest waits between tries, in nanoseconds: four tries in all. -/
def waits : List Nat := [500000000, 10000000000, 10000000000]

variable {m : Type → Type} [Monad m] {ε α : Type}

/-- Tries an action, and again after each wait as long as it fails.  The last failure stands. -/
def attempt (pause : Nat → m Unit) (action : m (Except ε α)) : List Nat → m (Except ε α)
  | [] => action
  | wait :: rest => do
    match ← action with
    | .ok a => return .ok a
    | .error _ =>
      pause wait
      attempt pause action rest

end ComputeExchange.Retry
