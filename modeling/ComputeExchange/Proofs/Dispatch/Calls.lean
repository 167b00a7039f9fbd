import ComputeExchange.Dispatch.Engine
import ComputeExchange.Proofs.Protocol
import ComputeExchange.Store.Memory

/-!
# The calls of dispatch

`Dispatcher.asking` is the dispatcher over programs: its store, its bus and its clock are calls.
`Dispatcher.World` is what all that dispatch does at the same time shares, and `World.Serves` how a
call may be answered there: a store or a bus may fail at any call, which then has done nothing.
-/

namespace ComputeExchange

/-- What dispatch asks of its surroundings. -/
inductive DispatchCall : Type where
  | store (c : StoreCall)
  | publish (subject : String) (payload : Payload)
  | request (subject : String) (payload : Payload) (wait : Nat)
  | clock

/-- What each call is answered with. -/
abbrev DispatchCall.Answer : DispatchCall → Type
  | .store c => Except StoreError c.Answer
  | .publish .. => Except BusError Unit
  | .request .. => Except BusError Payload
  | .clock => Timestamp

namespace Dispatcher

/-- What all that dispatch does at the same time shares. -/
structure World where
  /-- What the wall clock shows. -/
  wall : Timestamp
  store : MemoryStore
  published : List Message

namespace World

/-- The row of a job. -/
def job? (w : World) (id : String) : Option Job := w.store.jobs.get? id

/-- How a call may be answered, and what it leaves behind. -/
inductive Serves : World → (q : DispatchCall) → q.Answer → World → Prop where
  | stored (w : World) (c : StoreCall) :
      Serves w (.store c) (w.store.perform c).1 { w with store := (w.store.perform c).2 }
  | unstored (w : World) (c : StoreCall) (e : StoreError) : Serves w (.store c) (.error e) w
  | published (w : World) (subject : String) (payload : Payload) :
      Serves w (.publish subject payload) (.ok ())
        { w with published := w.published ++ [⟨subject, none, payload⟩] }
  | unpublished (w : World) (subject : String) (payload : Payload) (e : BusError) :
      Serves w (.publish subject payload) (.error e) w
  | requested (w : World) (subject : String) (payload : Payload) (wait : Nat)
      (answer : Except BusError Payload) : Serves w (.request subject payload wait) answer w
  | told (w : World) : Serves w .clock w.wall w

/-- A call to the store is answered by it, or fails and does nothing. -/
lemma Serves.of_store {w w' : World} {c : StoreCall} {answer : Except StoreError c.Answer}
    (h : Serves w (.store c) answer w') :
    answer = (w.store.perform c).1 ∧ w' = { w with store := (w.store.perform c).2 } ∨
      (∃ e, answer = .error e) ∧ w' = w := by
  cases h with
  | stored => exact Or.inl ⟨rfl, rfl⟩
  | unstored _ e => exact Or.inr ⟨⟨e, rfl⟩, rfl⟩

end World

open Program

/-- The dispatcher whose surroundings are calls. -/
def asking : Dispatcher (Program DispatchCall.Answer) where
  store := ⟨fun c => ask (A := DispatchCall.Answer) (.store c)⟩
  bus :=
    { publish := fun subject payload => ask (A := DispatchCall.Answer) (.publish subject payload)
      request := fun subject payload wait =>
        ask (A := DispatchCall.Answer) (.request subject payload wait) }
  clock := ask (A := DispatchCall.Answer) .clock

/-- What dispatch is asked to do. -/
inductive Operation : Type where
  | jobEscrowed (new : NewJob)
  | handle (event : JobEscrowed)
  | redispatch (id : String)
  | applyUpdate (update : JobStatusUpdate)

/-- What an operation ends with. -/
abbrev Operation.Result : Operation → Type
  | .jobEscrowed _ => Except DispatchError Job
  | .handle _ => Except HandleError Unit
  | .redispatch _ => Except DispatchError Job
  | .applyUpdate _ => Except DispatchError Job

/-- The program of an operation. -/
def Operation.body : (o : Operation) → Program DispatchCall.Answer o.Result
  | .jobEscrowed new => (asking.jobEscrowed new).run
  | .handle event => asking.handle event
  | .redispatch id => (asking.redispatch id).run
  | .applyUpdate update => (asking.applyUpdate update).run

end Dispatcher

end ComputeExchange
