/-!
# Processes

A computation over a world that others share: it acts, or waits until the world is ready for it or
its time has come.  Between two waits it acts alone.  A process always comes to an end; a loop is a
process for each of its turns.
-/

namespace ComputeExchange.Lab

/-- A computation over worlds `σ` with a result in `α`. -/
inductive Process (σ α : Type) where
  | done (a : α)
  /-- Changes the world by `update`, and goes on as `next` says of the world as it was. -/
  | act (update : σ → σ) (next : σ → Process σ α)
  /-- Waits until the world is ready or the timer has come to `due`. -/
  | wait (due : Option Nat) (isReady : σ → Bool) (next : Process σ α)

namespace Process

variable {σ α β : Type}

/-- Goes on with the result of a process. -/
def bind : Process σ α → (α → Process σ β) → Process σ β
  | done a, f => f a
  | act update next, f => act update fun s => (next s).bind f
  | wait due isReady next, f => wait due isReady (next.bind f)

instance : Monad (Process σ) where
  pure := done
  bind := bind

/-- Performs an action on the world. -/
def perform (action : σ → α × σ) : Process σ α :=
  act (fun s => (action s).2) fun s => done (action s).1

/-- Looks at the world. -/
def look (view : σ → α) : Process σ α := perform fun s => (view s, s)

/-- Changes the world. -/
def change (update : σ → σ) : Process σ Unit := perform fun s => ((), update s)

/-- Waits until the world is ready or the timer has come to `due`. -/
def await (due : Option Nat) (isReady : σ → Bool) : Process σ Unit := wait due isReady (done ())

/-- Whether a wait is over. -/
def isOver (due : Option Nat) (isReady : σ → Bool) (timer : Nat) (s : σ) : Bool :=
  isReady s || due.any (· ≤ timer)

/-- Runs a process until it ends or has to wait; the timer stands still meanwhile.  The last part of
the answer tells whether it has gone on at all. -/
def advance (timer : σ → Nat) : Process σ α → σ → Process σ α × σ × Bool
  | done a, s => (done a, s, false)
  | act update next, s =>
    let (p, s, _) := (next s).advance timer (update s)
    (p, s, true)
  | wait due isReady next, s =>
    if isOver due isReady (timer s) s then
      let (p, s, _) := next.advance timer s
      (p, s, true)
    else (wait due isReady next, s, false)

/-- The time a process waits for. -/
def due? : Process σ α → Option Nat
  | wait due _ _ => due
  | _ => none

/-- The result of a process that has ended. -/
def result? : Process σ α → Option α
  | done a => some a
  | _ => none

theorem bind_done (a : α) (f : α → Process σ β) : (done a : Process σ α).bind f = f a := rfl

theorem bind_pure (p : Process σ α) : p.bind done = p := by
  induction p with
  | done a => rfl
  | act update next ih => simp only [bind, ih]
  | wait due isReady next ih => simp only [bind, ih]

theorem bind_assoc {γ : Type} (p : Process σ α) (f : α → Process σ β) (g : β → Process σ γ) :
    (p.bind f).bind g = p.bind fun a => (f a).bind g := by
  induction p with
  | done a => rfl
  | act update next ih => simp only [bind, ih]
  | wait due isReady next ih => simp only [bind, ih]

end Process

end ComputeExchange.Lab
