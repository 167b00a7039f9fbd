import ComputeExchange.Lab.Task

/-!
# Running tasks together

Tasks run in turn, each until it waits.  Once nobody can go on, the timer jumps to the next time
that somebody waits for; what is awaited in the foreground then goes first.
-/

namespace ComputeExchange.Lab

/-- A world with tasks in it. -/
structure Bench where
  world : World
  tasks : List Task
  /-- The subscriptions that are held by name. -/
  inboxes : List (String × Nat)
  /-- The synchronizers that are not run by a task. -/
  syncs : List (String × SyncUnit)
  /-- The jobs that are kept as they were read. -/
  snapshots : List (String × Job)
  deriving Inhabited

namespace Bench

/-- A world without tasks. -/
def start (world : World) : Bench := ⟨world, [], [], [], []⟩

/-- How many turns and passes are made at most before somebody must wait. -/
def patience : Nat := 1000000

/-- Runs each task once, and tells whether one has gone on. -/
def runEach : List Task → World → List Task × World × Bool
  | [], w => ([], w, false)
  | t :: rest, w =>
    let (t, w, moved) := t.run patience w
    let (rest, w, movedLater) := runEach rest w
    (t :: rest, w, moved || movedLater)

/-- Runs tasks until all of them wait. -/
def settleTasks : (fuel : Nat) → List Task → World → List Task × World
  | 0, tasks, w => (tasks, w)
  | fuel + 1, tasks, w =>
    match runEach tasks w with
    | (tasks, w, true) => settleTasks fuel tasks w
    | (tasks, w, false) => (tasks, w)

/-- Runs the tasks until all of them wait. -/
def settle (bench : Bench) : Bench :=
  let (tasks, world) := settleTasks patience bench.tasks bench.world
  { bench with tasks := tasks, world := world }

/-- The earliest of some times. -/
def earliest (dues : List (Option Nat)) : Option Nat :=
  dues.foldl (fun found due =>
    match found, due with
    | some a, some b => some (min a b)
    | some a, none => some a
    | none, due => due) none

/-- The times for which tasks wait. -/
def taskDues (tasks : List Task) : List (Option Nat) := tasks.map fun t => t.state.due?

/-- Runs processes in the foreground, in order, until they wait or end. -/
def advanceEach {α : Type} : List (Proc α) → World → List (Proc α) × World × Bool
  | [], w => ([], w, false)
  | p :: rest, w =>
    let (p, w, moved) := p.advance World.timer w
    let (rest, w, movedLater) := advanceEach rest w
    (p :: rest, w, moved || movedLater)

/-- Runs processes in the foreground to their ends, with the tasks beside them.  A process that can
never go on has no result. -/
def runAll {α : Type} : (fuel : Nat) → List (Proc α) → Bench → List (Option α) × Bench
  | 0, ps, bench => (ps.map Process.result?, bench)
  | fuel + 1, ps, bench =>
    let (ps, world, moved) := advanceEach ps bench.world
    if ps.all fun p => p.result?.isSome then (ps.map Process.result?, { bench with world := world })
    else
      let (tasks, world, movedTasks) := runEach bench.tasks world
      let bench := { bench with tasks := tasks, world := world }
      if moved || movedTasks then runAll fuel ps bench
      else
        match earliest (ps.map Process.due? ++ taskDues tasks) with
        | none => (ps.map Process.result?, bench)
        | some due => runAll fuel ps { bench with world := { world with timer := due } }

/-- Runs a process in the foreground to its end. -/
def run {α : Type} (p : Proc α) : StateM Bench (Option α) := fun bench =>
  let (results, bench) := runAll patience [p] bench
  (results.head?.join, bench)

/-- Lets the timer come to a time, with the tasks going on as their times come. -/
def passTo : (fuel : Nat) → (time : Nat) → Bench → Bench
  | 0, time, bench => { bench with world := { bench.world with timer := time } }
  | fuel + 1, time, bench =>
    let bench := bench.settle
    match earliest (taskDues bench.tasks) with
    | some due =>
      if due ≤ time then passTo fuel time { bench with world := { bench.world with timer := due } }
      else ({ bench with world := { bench.world with timer := time } } : Bench).settle
    | none => ({ bench with world := { bench.world with timer := time } } : Bench).settle

/-- Lets seconds pass on both clocks; at each second the wall clock goes first. -/
def sleep : (seconds : Nat) → Bench → Bench
  | 0, bench => bench
  | seconds + 1, bench =>
    let wall := (bench.world.wall.add? nanosPerSecond).getD bench.world.wall
    let time := bench.world.timer + nanosPerSecond
    sleep seconds (passTo patience time { bench with world := { bench.world with wall := wall } })

/-- Starts a task, and lets it come to its first wait. -/
def spawn (bench : Bench) (task : Task) : Bench :=
  ({ bench with tasks := bench.tasks ++ [task] } : Bench).settle

/-- The ends of the tasks of the services. -/
def ends (bench : Bench) : List (String × Option TaskEnd) :=
  (bench.tasks.filter (·.isService)).map fun t => (t.name, t.end?)

/-- Tells the services to stop. -/
def trigger (bench : Bench) : Bench :=
  { bench with world := { bench.world with isStopping := true } }

/-- Lets time pass until every task of the services has ended. -/
def awaitEnds : (fuel : Nat) → Bench → Bench
  | 0, bench => bench
  | fuel + 1, bench =>
    let bench := bench.settle
    if bench.ends.all fun e => e.2.isSome then bench
    else
      match earliest (taskDues bench.tasks) with
      | none => bench
      | some due => awaitEnds fuel { bench with world := { bench.world with timer := due } }

/-- Tells the services to stop, and waits for their ends. -/
def shutdown (bench : Bench) : Bench := awaitEnds patience bench.trigger

end Bench

end ComputeExchange.Lab
