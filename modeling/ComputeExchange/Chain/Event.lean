import ComputeExchange.Chain.Contract
import ComputeExchange.Clamp
import ComputeExchange.Job.Basic
import ComputeExchange.Provider.Basic

/-!
# What the chains tell

The events of the contracts in the terms of the marketplace: addresses with their checksum, amounts
in decimal, counts in 64-bit words, and where on the chain the event stands.
-/

namespace ComputeExchange

/-- Where on a chain an event stands. -/
structure Position where
  block : UInt64
  transaction : String
  deriving DecidableEq, Inhabited

/-- Where a log entry stands. -/
def Position.ofLog (log : Log) : Position := ⟨log.blockNumber, log.transactionHash⟩

/-- The failure to read a log entry as an event. -/
def undecodable (kind : Contract.EventKind) (log : Log) : Cause :=
  Cause.ofText s!"Failed to ABI decode {kind.name} in tx {log.transactionHash}"

/-- Reads a log entry as an event of a kind. -/
def readLog {α β : Type} (kind : Contract.EventKind) (read : Log → Option α)
    (build : α → Position → β) (log : Log) : Except Cause β :=
  match read log with
  | some event => .ok (build event (Position.ofLog log))
  | none => .error (undecodable kind log)

/-- A job has been put into escrow. -/
structure JobEscrowed where
  job : NewJob
  position : Position
  deriving DecidableEq, Inhabited

/-- The job of a log entry. -/
def JobEscrowed.ofLog : Log → Except Cause JobEscrowed :=
  readLog .jobCreated Contract.JobCreated.ofLog? fun e position =>
    { job :=
        { id := e.jobId.hex
          renter := e.renter.checksummed
          provider := e.provider.checksummed
          dockerImage := e.dockerImage
          inputCid := e.inputCid
          payment := String.ofList (Json.digits e.payment.val) }
      position := position }

/-- A renter has confirmed a job. -/
structure JobConfirmation where
  jobId : Word
  confirmedAt : UInt64
  position : Position
  deriving DecidableEq, Inhabited

/-- The confirmation of a log entry. -/
def JobConfirmation.ofLog : Log → Except Cause JobConfirmation :=
  readLog .jobConfirmed Contract.JobConfirmed.ofLog? fun e position =>
    ⟨e.jobId, Clamp.word e.confirmedAt.val, position⟩

/-- A provider has registered. -/
structure ProviderRegistered where
  registration : Registration
  position : Position
  deriving DecidableEq, Inhabited

/-- The registration of a log entry. -/
def ProviderRegistered.ofLog : Log → Except Cause ProviderRegistered :=
  readLog .nodeRegistered Contract.NodeRegistered.ofLog? fun e position =>
    ⟨⟨e.provider.checksummed, e.gpuModel, Clamp.signed e.vram.val⟩, position⟩

/-- A provider has shown that it is alive; the time is the chain's own. -/
structure ProviderHeartbeat where
  wallet : String
  timestamp : UInt64
  position : Position
  deriving DecidableEq, Inhabited

/-- The heartbeat of a log entry. -/
def ProviderHeartbeat.ofLog : Log → Except Cause ProviderHeartbeat :=
  readLog .nodeHeartbeat Contract.NodeHeartbeat.ofLog? fun e position =>
    ⟨e.provider.checksummed, Clamp.word e.timestamp.val, position⟩

/-- What the registry of providers follows. -/
inductive RegistryEvent where
  | registered (e : ProviderRegistered)
  | heartbeat (e : ProviderHeartbeat)
  deriving DecidableEq

end ComputeExchange
