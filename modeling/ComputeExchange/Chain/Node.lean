import ComputeExchange.Chain.Event
import ComputeExchange.Retry
import ComputeExchange.Sync.Synchronizer

/-!
# Talking to a chain

A node of a chain tells its head, its log entries and what functions of contracts answer, and it
takes transactions.  Reading the head and the log is tried again when it fails; calls and
transactions are made once.  The sources of events read the log through a node.
-/

namespace ComputeExchange

/-- What a transaction has come to. -/
structure Receipt where
  transaction : String
  block : Option UInt64
  isSuccess : Bool
  logs : List Log

/-- A node of a chain. -/
structure Node (m : Type → Type) where
  head : m (Except Cause UInt64)
  /-- The log entries of a contract with a first topic, in the blocks from the first to the last. -/
  logs : Address → (topic : Word) → (first last : UInt64) → m (Except Cause (List Log))
  /-- What a contract answers to some data. -/
  call : Address → List UInt8 → m (Except Cause (List UInt8))
  /-- Sends data to a contract in a transaction, and waits until it has come to something. -/
  send : Address → List UInt8 → m (Except Cause Receipt)

/-- Reads the log of one contract. -/
structure LogClient (m : Type → Type) where
  node : Node m
  contract : Address
  /-- Waits between tries, at most so many nanoseconds. -/
  pause : Nat → m Unit

namespace LogClient

variable {m : Type → Type} [Monad m]

/-- The number of the latest block. -/
def head (c : LogClient m) : m (Except Cause UInt64) := do
  match ← Retry.attempt c.pause c.node.head Retry.waits with
  | .ok block => return .ok block
  | .error cause =>
    return .error (cause.within "Failed to fetch the latest block number from the RPC")

/-- The log entries of a kind of event. -/
def logs (c : LogClient m) (kind : Contract.EventKind) (first last : UInt64) :
    m (Except Cause (List Log)) := do
  match ← Retry.attempt c.pause (c.node.logs c.contract kind.topic first last) Retry.waits with
  | .ok entries => return .ok entries
  | .error cause =>
    return .error
      (cause.within s!"Failed to fetch {kind.signature} logs for blocks ({first}, {last})")

/-- The events of a kind, each read by `read`; the first that cannot be read is the failure. -/
def events {ε : Type} (c : LogClient m) (kind : Contract.EventKind) (read : Log → Except Cause ε)
    (first last : UInt64) : m (Except Cause (List ε)) := do
  match ← c.logs kind first last with
  | .ok entries => return entries.mapM read
  | .error cause => return .error cause

/-- The source of one kind of event. -/
def source {ε : Type} (c : LogClient m) (kind : Contract.EventKind)
    (read : Log → Except Cause ε) : Source m Unit ε where
  label _ := kind.name
  head := c.head
  fetch _ := c.events kind read

end LogClient

/-- What the registry follows: registrations, then heartbeats. -/
inductive RegistryKind where
  | registered
  | heartbeat
  deriving DecidableEq

/-- The kinds in the order in which each window is dealt with. -/
def RegistryKind.all : List RegistryKind := [registered, heartbeat]

namespace LogClient

variable {m : Type → Type} [Monad m]

/-- Jobs put into escrow on the payment chain. -/
def escrows (c : LogClient m) : Source m Unit JobEscrowed :=
  c.source .jobCreated JobEscrowed.ofLog

/-- Jobs confirmed on the payment chain. -/
def confirmations (c : LogClient m) : Source m Unit JobConfirmation :=
  c.source .jobConfirmed JobConfirmation.ofLog

/-- Registrations and heartbeats on the reputation chain. -/
def registry (c : LogClient m) : Source m RegistryKind RegistryEvent where
  label
    | .registered => Contract.EventKind.nodeRegistered.name
    | .heartbeat => Contract.EventKind.nodeHeartbeat.name
  head := c.head
  fetch
    | .registered => c.events .nodeRegistered fun log =>
        (ProviderRegistered.ofLog log).map .registered
    | .heartbeat => c.events .nodeHeartbeat fun log =>
        (ProviderHeartbeat.ofLog log).map .heartbeat

end LogClient

end ComputeExchange
