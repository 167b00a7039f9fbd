import ComputeExchange.Chain.Node

/-!
# The ledgers of settlement

The payment chain knows for which provider a job was put into escrow; the reputation chain counts
the jobs of each provider.  Both are reached through the contracts of `Contract`.
-/

namespace ComputeExchange

/-- What crediting a provider has come to. -/
structure SettlementReceipt where
  transaction : String
  block : Option UInt64
  isSuccess : Bool
  /-- The count that the contract has told in its event. -/
  newCount : Option UInt64
  deriving DecidableEq

/-- The payment side: the provider of a job, the zero address if the job is not known. -/
structure JobLedger (m : Type → Type) where
  provider : Word → m (Except Cause Address)

/-- The reputation side. -/
structure ReputationLedger (m : Type → Type) where
  /-- Credits a provider with one job, and waits for what comes of it. -/
  increment : Address → m (Except Cause SettlementReceipt)
  /-- The number of jobs a provider has been credited with. -/
  jobsCompleted : Address → m (Except Cause UInt64)

variable {m : Type → Type} [Monad m]

namespace JobLedger

/-- The payment side on a chain. -/
def onChain (c : LogClient m) : JobLedger m where
  provider job := do
    let failure := s!"getJobInfo({job.hex}) failed"
    match ← c.node.call c.contract (Contract.Call.getJobInfo job).data with
    | .error cause => return .error (cause.within failure)
    | .ok answer =>
      match Contract.JobInfo.provider? answer with
      | some provider => return .ok provider
      | none => return .error ((Cause.ofText "undecodable answer").within failure)

end JobLedger

namespace ReputationLedger

/-- The count that the logs of a receipt tell of a provider: that of the first entry which the
contract itself has emitted and which names the provider. -/
def reportedCount (contract provider : Address) (logs : List Log) : Option Contract.Uint256 :=
  ((logs.filter (·.address == contract)).filterMap Contract.JobCountIncremented.ofLog?
    |>.find? (·.provider == provider)).map (·.newCount)

/-- The reputation side on a chain. -/
def onChain (contract : Address) (node : Node m) : ReputationLedger m where
  increment provider := do
    match ← node.send contract (Contract.Call.incrementJobs provider).data with
    | .error cause =>
      return .error (cause.within s!"Failed to submit incrementJobs({provider.checksummed})")
    | .ok receipt =>
      return .ok {
        transaction := receipt.transaction
        block := receipt.block
        isSuccess := receipt.isSuccess
        newCount := (reportedCount contract provider receipt.logs).map fun n =>
          Clamp.word n.val }
  jobsCompleted provider := do
    let failure := s!"getProviderInfo({provider.checksummed}) failed"
    match ← node.call contract (Contract.Call.getProviderInfo provider).data with
    | .error cause => return .error (cause.within failure)
    | .ok answer =>
      match Contract.ProviderInfo.jobCount? answer with
      | some count => return .ok (Clamp.word count.val)
      | none => return .error ((Cause.ofText "undecodable answer").within failure)

end ReputationLedger

end ComputeExchange
