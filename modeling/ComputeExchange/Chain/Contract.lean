import ComputeExchange.Chain.Abi
import ComputeExchange.Chain.Log

/-!
# The contracts of the marketplace

The job manager lives on the payment chain and holds the escrow of jobs.  The node reputation lives
on the other chain and holds registrations, heartbeats and the number of jobs each provider has
completed.  Here are the events they emit and the functions they offer, with their layouts.
-/

namespace ComputeExchange.Contract

/-- A number of a contract. -/
abbrev Uint256 := Fin (Nat.pow 2 256)

/-- The number of a word. -/
def Uint256.ofWord (w : Word) : Uint256 := Fin.ofNat (Nat.pow 2 256) w.toNat

/-- The number in the `i`-th word of some data. -/
def uint256? (data : List UInt8) (i : Nat) : Option Uint256 :=
  (Abi.wordAt? data (32 * i)).map Uint256.ofWord

/-! ### Signatures -/

/-- The hash of a signature. -/
def signatureHash (signature : String) : Word :=
  Bytes.lastOf 32 (Keccak.hash256 (Utf8.encode signature))

/-- The first four bytes of the hash of a signature, by which a function is called. -/
def selector (signature : String) : List UInt8 := (signatureHash signature).toList.take 4

/-- The kinds of event. -/
inductive EventKind where
  | jobCreated
  | jobConfirmed
  | nodeRegistered
  | nodeHeartbeat
  | jobCountIncremented
  deriving DecidableEq, Repr

namespace EventKind

/-- The name of a kind. -/
def name : EventKind → String
  | jobCreated => "JobCreated"
  | jobConfirmed => "JobConfirmed"
  | nodeRegistered => "NodeRegistered"
  | nodeHeartbeat => "NodeHeartbeat"
  | jobCountIncremented => "JobCountIncremented"

/-- The signature of a kind. -/
def signature : EventKind → String
  | jobCreated => "JobCreated(bytes32,address,address,uint256,string,string)"
  | jobConfirmed => "JobConfirmed(bytes32,uint256)"
  | nodeRegistered => "NodeRegistered(address,string,uint256)"
  | nodeHeartbeat => "NodeHeartbeat(address,uint256)"
  | jobCountIncremented => "JobCountIncremented(address,uint256)"

/-- All kinds. -/
def all : List EventKind :=
  [jobCreated, jobConfirmed, nodeRegistered, nodeHeartbeat, jobCountIncremented]

/-- The hashes of the signatures, computed once. -/
def topics : List (EventKind × Word) := all.map fun kind => (kind, signatureHash kind.signature)

/-- The first topic of the events of a kind. -/
def topic (kind : EventKind) : Word := (topics.lookup kind).getD default

end EventKind

/-- What an event carries outside its address and position: topics and data. -/
structure Emission where
  topics : List Word
  data : List UInt8
  deriving DecidableEq

/-- The topics after the first, if the first is that of the kind. -/
def indexed? (kind : EventKind) (log : Log) : Option (List Word) :=
  match log.topics with
  | first :: rest => if first = kind.topic then some rest else none
  | [] => none

/-! ### Events -/

/-- A job has been put into escrow. -/
structure JobCreated where
  jobId : Word
  renter : Address
  provider : Address
  payment : Uint256
  dockerImage : String
  inputCid : String
  deriving DecidableEq

/-- A renter has confirmed a job. -/
structure JobConfirmed where
  jobId : Word
  confirmedAt : Uint256
  deriving DecidableEq

/-- A provider has registered. -/
structure NodeRegistered where
  provider : Address
  gpuModel : String
  vram : Uint256
  deriving DecidableEq

/-- A provider has shown that it is alive. -/
structure NodeHeartbeat where
  provider : Address
  timestamp : Uint256
  deriving DecidableEq

/-- A provider has been credited with a job. -/
structure JobCountIncremented where
  provider : Address
  newCount : Uint256
  deriving DecidableEq

namespace JobCreated

/-- How the event is emitted. -/
def emit (e : JobCreated) : Emission :=
  ⟨[EventKind.jobCreated.topic, e.jobId, Word.ofAddress e.renter, Word.ofAddress e.provider],
    Abi.encode [.nat e.payment, .string e.dockerImage, .string e.inputCid]⟩

/-- The event of a log entry. -/
def ofLog? (log : Log) : Option JobCreated := do
  match ← indexed? .jobCreated log with
  | [jobId, renter, provider] =>
    let payment ← uint256? log.data 0
    let dockerImage ← Abi.string? log.data 1
    let inputCid ← Abi.string? log.data 2
    return ⟨jobId, renter.toAddress, provider.toAddress, payment, dockerImage, inputCid⟩
  | _ => none

end JobCreated

namespace JobConfirmed

/-- How the event is emitted. -/
def emit (e : JobConfirmed) : Emission :=
  ⟨[EventKind.jobConfirmed.topic, e.jobId], Abi.encode [.nat e.confirmedAt]⟩

/-- The event of a log entry. -/
def ofLog? (log : Log) : Option JobConfirmed := do
  match ← indexed? .jobConfirmed log with
  | [jobId] => return ⟨jobId, ← uint256? log.data 0⟩
  | _ => none

end JobConfirmed

namespace NodeRegistered

/-- How the event is emitted. -/
def emit (e : NodeRegistered) : Emission :=
  ⟨[EventKind.nodeRegistered.topic, Word.ofAddress e.provider],
    Abi.encode [.string e.gpuModel, .nat e.vram]⟩

/-- The event of a log entry. -/
def ofLog? (log : Log) : Option NodeRegistered := do
  match ← indexed? .nodeRegistered log with
  | [provider] =>
    let gpuModel ← Abi.string? log.data 0
    let vram ← uint256? log.data 1
    return ⟨provider.toAddress, gpuModel, vram⟩
  | _ => none

end NodeRegistered

namespace NodeHeartbeat

/-- How the event is emitted. -/
def emit (e : NodeHeartbeat) : Emission :=
  ⟨[EventKind.nodeHeartbeat.topic, Word.ofAddress e.provider], Abi.encode [.nat e.timestamp]⟩

/-- The event of a log entry. -/
def ofLog? (log : Log) : Option NodeHeartbeat := do
  match ← indexed? .nodeHeartbeat log with
  | [provider] => return ⟨provider.toAddress, ← uint256? log.data 0⟩
  | _ => none

end NodeHeartbeat

namespace JobCountIncremented

/-- How the event is emitted. -/
def emit (e : JobCountIncremented) : Emission :=
  ⟨[EventKind.jobCountIncremented.topic, Word.ofAddress e.provider], Abi.encode [.nat e.newCount]⟩

/-- The event of a log entry. -/
def ofLog? (log : Log) : Option JobCountIncremented := do
  match ← indexed? .jobCountIncremented log with
  | [provider] => return ⟨provider.toAddress, ← uint256? log.data 0⟩
  | _ => none

end JobCountIncremented

/-! ### Functions -/

/-- A call of a function. -/
inductive Call where
  | getJobInfo (jobId : Word)
  | incrementJobs (provider : Address)
  | getProviderInfo (provider : Address)
  deriving DecidableEq

/-- The data of a call: the selector and the arguments. -/
def Call.data : Call → List UInt8
  | .getJobInfo jobId => selector "getJobInfo(bytes32)" ++ Abi.encode [.word jobId]
  | .incrementJobs provider => selector "incrementJobs(address)" ++ Abi.encode [.address provider]
  | .getProviderInfo provider =>
    selector "getProviderInfo(address)" ++ Abi.encode [.address provider]

/-- What the job manager knows of a job. -/
structure JobInfo where
  jobId : Word
  renter : Address
  provider : Address
  payment : Uint256
  status : Nat
  createdAt : Uint256
  confirmedAt : Uint256

namespace JobInfo

/-- The answer of `getJobInfo`. -/
def encode (j : JobInfo) : List UInt8 :=
  Abi.encode [.word j.jobId, .address j.renter, .address j.provider, .nat j.payment, .nat j.status,
    .nat j.createdAt, .nat j.confirmedAt]

/-- The provider named by an answer of `getJobInfo`, which must have all its words. -/
def provider? (answer : List UInt8) : Option Address := do
  if answer.length < 7 * 32 then none
  Abi.address? answer 2

end JobInfo

/-- What the node reputation knows of a provider. -/
structure ProviderInfo where
  gpuModel : String
  vram : Uint256
  lastSeen : Uint256
  isRegistered : Bool
  jobCount : Uint256

namespace ProviderInfo

/-- The answer of `getProviderInfo`. -/
def encode (p : ProviderInfo) : List UInt8 :=
  Abi.encode [.content (Abi.encode [.string p.gpuModel, .nat p.vram, .nat p.lastSeen,
    .nat (if p.isRegistered then 1 else 0)]), .nat p.jobCount]

/-- The job count in an answer of `getProviderInfo`, whose record must be readable too. -/
def jobCount? (answer : List UInt8) : Option Uint256 := do
  let record ← Abi.content? answer 0
  let jobCount ← uint256? answer 1
  let _ ← Abi.string? record 0
  let _ ← Abi.nat? record 3
  return jobCount

end ProviderInfo

end ComputeExchange.Contract
