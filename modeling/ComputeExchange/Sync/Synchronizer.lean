import ComputeExchange.Clamp
import ComputeExchange.Health.Tracker
import ComputeExchange.Retry
import ComputeExchange.Store.Call
import ComputeExchange.Sync.Error

/-!
# Following a chain

A synchronizer hands the events of a chain to a handler, window by window of blocks.  Its cursor is
the last block of the last window it has completed; it lives in memory and is saved after each
window, so that a restart goes on where the last one ended.  A window is scanned again until it is
completed, and none is left out.
-/

namespace ComputeExchange

/-- A chain with events of the kinds `κ`. -/
structure Source (m : Type → Type) (κ ε : Type) where
  /-- The name of a kind. -/
  label : κ → String
  /-- The number of the latest block. -/
  head : m (Except Cause UInt64)
  /-- The events of a kind in the blocks from the first to the last. -/
  fetch : κ → (first last : UInt64) → m (Except Cause (List ε))

/-- What becomes of an event. -/
abbrev Handler (m : Type → Type) (ε : Type) := ε → m (Except HandleError Unit)

namespace Sync

/-- How a chain is followed. -/
structure Config where
  /-- The key under which the cursor is saved. -/
  service : String
  /-- Nanoseconds between passes. -/
  pollInterval : Nat
  /-- How many blocks a window has at most. -/
  rangeSize : UInt64
  /-- The first block to scan; it counts only if the saved cursor lies before it. -/
  startBlock : Option UInt64

/-- What a pass has done. -/
inductive Outcome where
  | upToDate
  | advanced (first last : UInt64) (events failed : Nat)
  deriving DecidableEq

end Sync

/-- Everything that following a chain needs. -/
structure Synchronizer (m : Type → Type) (κ ε : Type) where
  source : Source m κ ε
  handle : Handler m ε
  cursors : Store m
  kinds : List κ
  config : Sync.Config
  /-- Waits between tries, at most so many nanoseconds. -/
  pause : Nat → m Unit
  /-- Where the health report is told. -/
  tell : Health.Event → m Unit

namespace Synchronizer

open Sync

variable {m : Type → Type} [Monad m] {κ ε : Type}

/-! ### The cursor -/

/-- Saves a cursor.  A failure to do so, after every try, changes nothing. -/
def persist (s : Synchronizer m κ ε) (block : UInt64) : m Unit := do
  let _ ← Retry.attempt s.pause (s.cursors.perform (.saveCursor s.config.service block)) Retry.waits

/-- The cursor that a configured first block asks for. -/
def requested (start : UInt64) : UInt64 := Clamp.sub start 1

/-- The starting cursor, if a saved one or else the head of the chain is `found`. -/
def startingCursor (config : Config) (saved : Option UInt64) (found : UInt64) : UInt64 :=
  match config.startBlock with
  | none => found
  | some start =>
    match saved with
    | some block => if requested start ≤ block then block else requested start
    | none => requested start

/-- Resolves the starting cursor and saves it. -/
def resolve (s : Synchronizer m κ ε) : m (Except SyncError UInt64) := do
  if s.config.rangeSize = 0 then return .error .zeroRange
  match ← Retry.attempt s.pause (s.cursors.perform (.loadCursor s.config.service)) Retry.waits with
  | .error e => return .error (.cursor (Explained.cause e))
  | .ok saved =>
    let found ←
      match saved with
      | some block => pure (.ok block)
      | none => s.source.head
    match found with
    | .error cause => return .error (.head cause)
    | .ok block =>
      let cursor := startingCursor s.config saved block
      s.persist cursor
      return .ok cursor

/-- Resolves the starting cursor and keeps it.  The second part of the answer is the cursor
afterwards, which is the one before if none is resolved. -/
def start (s : Synchronizer m κ ε) (cursor : Option UInt64) :
    m (Except SyncError UInt64 × Option UInt64) := do
  match ← s.resolve with
  | .ok resolved => return (.ok resolved, some resolved)
  | .error e => return (.error e, cursor)

/-! ### A window -/

/-- The last block of the window that starts with `first`. -/
def windowEnd (range first head : UInt64) : UInt64 := min (Clamp.add first (range - 1)) head

/-- Fetches the events of every kind in a window, kind after kind. -/
def fetchAll (s : Synchronizer m κ ε) (first last : UInt64) :
    List κ → m (Except SyncError (List ε))
  | [] => return .ok []
  | kind :: kinds => do
    match ← s.source.fetch kind first last with
    | .error cause => return .error (.fetch (s.source.label kind) first last cause)
    | .ok events =>
      match ← s.fetchAll first last kinds with
      | .error e => return .error e
      | .ok more => return .ok (events ++ more)

/-- How many events have been handed out, and how many of them were left out. -/
structure Tally where
  events : Nat
  failed : Nat

/-- Hands out events in order, until one asks for another try. -/
def handleAll (s : Synchronizer m κ ε) : List ε → Tally → m (Except Cause Tally)
  | [], tally => return .ok tally
  | event :: events, tally => do
    match ← s.handle event with
    | .ok () => s.handleAll events ⟨tally.events + 1, tally.failed⟩
    | .error (.skip _) => s.handleAll events ⟨tally.events + 1, tally.failed + 1⟩
    | .error (.retry cause) => return .error cause

/-! ### A pass -/

theorem windowEnd_le (range first head : UInt64) : windowEnd range first head ≤ head := by
  unfold windowEnd
  rw [UInt64.le_iff_toNat_le]
  by_cases h : Clamp.add first (range - 1) ≤ head
  · rw [show min (Clamp.add first (range - 1)) head = Clamp.add first (range - 1) from
      if_pos h]
    exact UInt64.le_iff_toNat_le.mp h
  · exact Nat.le_of_eq (congrArg UInt64.toNat (if_neg h))

theorem le_windowEnd (range : UInt64) {first head : UInt64} (h : first ≤ head) :
    first ≤ windowEnd range first head := by
  have hadd := Clamp.toNat_add first (range - 1)
  have hlt : first.toNat ≤ UInt64.size - 1 := Nat.le_sub_one_of_lt first.toNat_lt
  rw [UInt64.le_iff_toNat_le] at h ⊢
  unfold windowEnd
  by_cases hm : Clamp.add first (range - 1) ≤ head
  · rw [show min (Clamp.add first (range - 1)) head = Clamp.add first (range - 1) from
      if_pos hm]
    omega
  · rw [show min (Clamp.add first (range - 1)) head = head from if_neg hm]
    exact h

-- The linter does not see that the bounds `hf` and `hl` are used for termination.
set_option linter.unusedVariables false in
/-- Completes the windows from the block `from_` on, up to the head.  The second part of the answer
is the cursor at the end. -/
def walk (s : Synchronizer m κ ε) (first head from_ cursor : UInt64) (tally : Tally) :
    m (Except SyncError Outcome × UInt64) :=
  if hf : from_ ≤ head then do
    let last := windowEnd s.config.rangeSize from_ head
    match ← s.fetchAll from_ last s.kinds with
    | .error e => return (.error e, cursor)
    | .ok events =>
      match ← s.handleAll events tally with
      | .error cause => return (.error (.handler from_ last cause), cursor)
      | .ok tally =>
        s.persist last
        s.tell (.progress (some last))
        if hl : last = Clamp.greatest then return (.error .exhausted, last)
        else s.walk first head (last + 1) last tally
  else return (.ok (.advanced first head tally.events tally.failed), cursor)
termination_by head.toNat + 1 - from_.toNat
decreasing_by
  have h₁ := UInt64.le_iff_toNat_le.mp (le_windowEnd s.config.rangeSize hf)
  have h₂ := UInt64.le_iff_toNat_le.mp (windowEnd_le s.config.rangeSize from_ head)
  have h₃ : (windowEnd s.config.rangeSize from_ head).toNat ≠ UInt64.size - 1 := fun e =>
    hl (UInt64.toNat_inj.mp (by rw [Clamp.toNat_greatest]; exact e))
  have h₄ : (windowEnd s.config.rangeSize from_ head).toNat ≤ UInt64.size - 1 :=
    Nat.le_sub_one_of_lt (windowEnd s.config.rangeSize from_ head).toNat_lt
  have h₅ : UInt64.size = 18446744073709551616 := rfl
  rw [UInt64.toNat_add, UInt64.toNat_one, Nat.mod_eq_of_lt (by omega)]
  omega

/-- One pass from the cursor to the head of the chain.  The second part of the answer is the cursor
at the end, `none` if it is not resolved. -/
def poll (s : Synchronizer m κ ε) (cursor : Option UInt64) :
    m (Except SyncError Outcome × Option UInt64) := do
  let resolved ←
    match cursor with
    | some cursor => pure (.ok cursor)
    | none => s.resolve
  match resolved with
  | .error e => return (.error e, none)
  | .ok cursor =>
    match ← s.source.head with
    | .error cause => return (.error (.head cause), some cursor)
    | .ok head =>
      s.tell (.head head)
      if head ≤ cursor then return (.ok .upToDate, some cursor)
      else
        let (result, cursor) ← s.walk (cursor + 1) head (cursor + 1) cursor ⟨0, 0⟩
        return (result, some cursor)

/-- One pass of the loop, with its end told to the health report: the cursor to go on with, or why
the loop cannot go on. -/
def turn (s : Synchronizer m κ ε) (cursor : Option UInt64) :
    m (Except SyncError (Option UInt64)) := do
  match ← s.poll cursor with
  | (.ok .upToDate, cursor) =>
    s.tell (.progress none)
    return .ok cursor
  | (.ok (.advanced ..), cursor) => return .ok cursor
  | (.error .exhausted, _) => return .error .exhausted
  | (.error e, cursor) =>
    s.tell (.error e.message)
    return .ok cursor

end Synchronizer

end ComputeExchange
