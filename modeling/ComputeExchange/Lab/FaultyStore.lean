import ComputeExchange.Store.Memory

/-!
# A store that fails on demand

The store in memory with faults queued for its calls: each fault is met once, by the next call of
its kind, before the store looks at the call.
-/

namespace ComputeExchange.Lab

/-- What a call meets. -/
inductive Fault where
  /-- Nothing: the call goes through. -/
  | pass
  | fail (e : StoreError)
  /-- The record is said to be there already. -/
  | duplicate
  /-- The record is said not to be there. -/
  | notFound
  /-- The call answers that nothing was found, and does nothing. -/
  | nothing

/-- A store in memory with the faults to come. -/
structure FaultyStore where
  store : MemoryStore
  faults : List (StoreCall.Kind × Fault)
  deriving Inhabited

namespace FaultyStore

/-- A store without rows and faults. -/
def empty : FaultyStore := ⟨.empty, []⟩

/-- Queues faults for calls of a kind. -/
def addFaults (s : FaultyStore) (kind : StoreCall.Kind) (fault : Fault) (times : Nat) :
    FaultyStore :=
  { s with faults := s.faults ++ List.replicate times (kind, fault) }

/-- The next fault for a kind of call, and the faults after it. -/
def next (kind : StoreCall.Kind) :
    List (StoreCall.Kind × Fault) → Option Fault × List (StoreCall.Kind × Fault)
  | [] => (none, [])
  | (k, fault) :: rest =>
    if k = kind then (some fault, rest)
    else
      let (found, rest) := next kind rest
      (found, (k, fault) :: rest)

/-- Lets a call through to the store. -/
def pass (s : FaultyStore) (c : StoreCall) : Except StoreError c.Answer × FaultyStore :=
  let (answer, store) := s.store.perform c
  (answer, { s with store := store })

/-- Performs a call. -/
def perform (s : FaultyStore) (c : StoreCall) : Except StoreError c.Answer × FaultyStore :=
  let (fault, faults) := next c.kind s.faults
  let s := { s with faults := faults }
  match fault with
  | none => s.pass c
  | some .pass => s.pass c
  | some (.fail e) => (.error e, s)
  | some .duplicate => (.error (.duplicate c.key), s)
  | some .notFound => (.error (.notFound c.key), s)
  | some .nothing =>
    match c.nothing? with
    | some answer => (.ok answer, s)
    | none => s.pass c

end FaultyStore

end ComputeExchange.Lab
