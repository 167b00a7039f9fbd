import ComputeExchange.Chain.Event
import ComputeExchange.Proofs.Chain.Abi
import ComputeExchange.Proofs.Chain.Address
import ComputeExchange.Proofs.Json.Digits

/-!
# Events are read as they were emitted

An event of a contract that is emitted into a log entry is read from it (`JobCreated.ofLog?_entry`
and its siblings), whatever address, block and transaction the entry has.  What the marketplace
makes of the event is then given field by field: texts as they are, addresses with their checksum,
amounts in decimal, and counts cut to the range of their words (`events_read_as_emitted`).

The data of an event that carries texts must be addressable, that is, its length must be a machine
word.
-/

namespace ComputeExchange

namespace Contract

/-- The log entry into which an event is emitted. -/
def Emission.entry (e : Emission) (contract : Address) (block : Option UInt64)
    (transaction : Option Word) : Log :=
  ⟨contract, e.topics, e.data, block, transaction⟩

/-! ### The events of entries -/

/-- A number of a contract is read back from its word. -/
lemma Uint256.ofWord_ofNat (n : Uint256) : ofWord (Word.ofNat n.val) = n := by
  have hlt : n.val < Nat.pow 256 32 := n.isLt.trans_eq (by decide)
  refine Fin.ext ?_
  rw [ofWord, Word.toNat_ofNat hlt]
  exact Nat.mod_eq_of_lt n.isLt

/-- A number is read in its turn. -/
lemma uint256?_encode (before after : List Abi.Part) (n : Uint256) :
    uint256? (Abi.encode (before ++ .nat n :: after)) before.length = some n := by
  rw [uint256?, Abi.Part.nat, Abi.wordAt?_encode, Option.map_some, Uint256.ofWord_ofNat]

variable (contract : Address) (block : Option UInt64) (transaction : Option Word)

/-- The topics behind the first one are those that the event indexes. -/
lemma indexed?_entry {kind : EventKind} {e : Emission} {topics : List Word}
    (h : e.topics = kind.topic :: topics) :
    indexed? kind (e.entry contract block transaction) = some topics := by
  rw [indexed?, Emission.entry]
  simp only [h, if_true]

/-- A job put into escrow is read from its entry. -/
theorem JobCreated.ofLog?_entry (e : JobCreated) (h : e.emit.data.length < UInt64.size) :
    ofLog? (e.emit.entry contract block transaction) = some e := by
  have hindexed := indexed?_entry contract block transaction (e := e.emit) rfl
  have hpayment : uint256? e.emit.data 0 = some e.payment :=
    uint256?_encode [] [.string e.dockerImage, .string e.inputCid] e.payment
  have himage : Abi.string? e.emit.data 1 = some e.dockerImage :=
    Abi.string?_encode [.nat e.payment] [.string e.inputCid] e.dockerImage h
  have hcid : Abi.string? e.emit.data 2 = some e.inputCid :=
    Abi.string?_encode [.nat e.payment, .string e.dockerImage] [] e.inputCid h
  rw [ofLog?, hindexed]
  simp only [Option.bind_eq_bind, Option.bind_some, Emission.entry, hpayment, himage, hcid,
    Word.toAddress_ofAddress]
  rfl

/-- A confirmation is read from its entry. -/
theorem JobConfirmed.ofLog?_entry (e : JobConfirmed) :
    ofLog? (e.emit.entry contract block transaction) = some e := by
  have hindexed := indexed?_entry contract block transaction (e := e.emit) rfl
  have hconfirmed : uint256? e.emit.data 0 = some e.confirmedAt :=
    uint256?_encode [] [] e.confirmedAt
  rw [ofLog?, hindexed]
  simp only [Option.bind_eq_bind, Option.bind_some, Emission.entry, hconfirmed]
  rfl

/-- A registration is read from its entry. -/
theorem NodeRegistered.ofLog?_entry (e : NodeRegistered) (h : e.emit.data.length < UInt64.size) :
    ofLog? (e.emit.entry contract block transaction) = some e := by
  have hindexed := indexed?_entry contract block transaction (e := e.emit) rfl
  have hgpu : Abi.string? e.emit.data 0 = some e.gpuModel :=
    Abi.string?_encode [] [.nat e.vram] e.gpuModel h
  have hvram : uint256? e.emit.data 1 = some e.vram :=
    uint256?_encode [.string e.gpuModel] [] e.vram
  rw [ofLog?, hindexed]
  simp only [Option.bind_eq_bind, Option.bind_some, Emission.entry, hgpu, hvram,
    Word.toAddress_ofAddress]
  rfl

/-- A heartbeat is read from its entry. -/
theorem NodeHeartbeat.ofLog?_entry (e : NodeHeartbeat) :
    ofLog? (e.emit.entry contract block transaction) = some e := by
  have hindexed := indexed?_entry contract block transaction (e := e.emit) rfl
  have htimestamp : uint256? e.emit.data 0 = some e.timestamp := uint256?_encode [] [] e.timestamp
  rw [ofLog?, hindexed]
  simp only [Option.bind_eq_bind, Option.bind_some, Emission.entry, htimestamp,
    Word.toAddress_ofAddress]
  rfl

/-- A credit is read from its entry. -/
theorem JobCountIncremented.ofLog?_entry (e : JobCountIncremented) :
    ofLog? (e.emit.entry contract block transaction) = some e := by
  have hindexed := indexed?_entry contract block transaction (e := e.emit) rfl
  have hcount : uint256? e.emit.data 0 = some e.newCount := uint256?_encode [] [] e.newCount
  rw [ofLog?, hindexed]
  simp only [Option.bind_eq_bind, Option.bind_some, Emission.entry, hcount,
    Word.toAddress_ofAddress]
  rfl

end Contract

/-! ### In the terms of the marketplace -/

/-- The position of an entry: an unknown block is zero, and an unknown transaction is empty. -/
structure Position.IsOf (p : Position) (block : Option UInt64) (transaction : Option Word) :
    Prop where
  block_eq : p.block = block.getD 0
  transaction_eq : p.transaction = transaction.elim "" fun h => Hex.spelled Hex.lower h.toList

/-- What is made of a job put into escrow. -/
structure JobEscrowed.Tells (r : JobEscrowed) (e : Contract.JobCreated) : Prop where
  id_eq : r.job.id = Hex.spelled Hex.lower e.jobId.toList
  renter_eq : r.job.renter = Hex.spelled e.renter.isUpper e.renter.toList
  provider_eq : r.job.provider = Hex.spelled e.provider.isUpper e.provider.toList
  dockerImage_eq : r.job.dockerImage = e.dockerImage
  inputCid_eq : r.job.inputCid = e.inputCid
  payment_isDecimal : Json.IsDecimal e.payment.val r.job.payment

/-- What is made of a confirmation. -/
structure JobConfirmation.Tells (r : JobConfirmation) (e : Contract.JobConfirmed) : Prop where
  jobId_eq : r.jobId.hex = Hex.spelled Hex.lower e.jobId.toList
  confirmedAt_eq : r.confirmedAt.toNat = min e.confirmedAt.val (UInt64.size - 1)

/-- What is made of a registration. -/
structure ProviderRegistered.Tells (r : ProviderRegistered) (e : Contract.NodeRegistered) :
    Prop where
  wallet_eq : r.registration.wallet = Hex.spelled e.provider.isUpper e.provider.toList
  gpuModel_eq : r.registration.gpuModel = e.gpuModel
  vram_eq : r.registration.vram.toInt = min (e.vram.val : Int) Int64.maxValue.toInt

/-- What is made of a heartbeat. -/
structure ProviderHeartbeat.Tells (r : ProviderHeartbeat) (e : Contract.NodeHeartbeat) : Prop where
  wallet_eq : r.wallet = Hex.spelled e.provider.isUpper e.provider.toList
  timestamp_eq : r.timestamp.toNat = min e.timestamp.val (UInt64.size - 1)

/-- An entry tells where it stands. -/
lemma Position.isOf_ofLog (log : Log) : (ofLog log).IsOf log.block log.transaction where
  block_eq := rfl
  transaction_eq := by
    rw [ofLog, Log.transactionHash]
    cases log.transaction with
    | none => rfl
    | some h => exact h.hex_eq_spelled

/-- A number of a contract is cut to the range of signed words. -/
lemma toInt_signed_uint256 (n : Contract.Uint256) :
    (Clamp.signed n.val).toInt = min (n.val : Int) Int64.maxValue.toInt := by
  have hmin := Int64.toInt_minValue
  have hmax := Int64.toInt_maxValue
  rw [Clamp.toInt_signed]
  omega

/-- What is made of an event that is read from an entry.  (The reader stays unknown here, as a
reader with a signature would have the hash of the signature computed.) -/
lemma readLog_of_some {α β : Type} {kind : Contract.EventKind} {read : Log → Option α}
    {build : α → Position → β} {log : Log} {event : α} (h : read log = some event) :
    readLog kind read build log = .ok (build event (Position.ofLog log)) := by
  rw [readLog, h]

section Told

variable (contract : Address) (block : Option UInt64) (transaction : Option Word)

/-- A job put into escrow is told from its entry. -/
lemma JobEscrowed.ofLog_entry {e : Contract.JobCreated} (h : e.emit.data.length < UInt64.size) :
    ∃ r, JobEscrowed.ofLog (e.emit.entry contract block transaction) = .ok r ∧
      r.Tells e ∧ r.position.IsOf block transaction :=
  ⟨_, readLog_of_some (e.ofLog?_entry contract block transaction h),
    ⟨e.jobId.hex_eq_spelled, e.renter.checksummed_eq_spelled, e.provider.checksummed_eq_spelled,
      rfl, rfl, Json.isDecimal_digits _⟩,
    Position.isOf_ofLog (e.emit.entry contract block transaction)⟩

/-- A confirmation is told from its entry. -/
lemma JobConfirmation.ofLog_entry (e : Contract.JobConfirmed) :
    ∃ r, JobConfirmation.ofLog (e.emit.entry contract block transaction) = .ok r ∧
      r.Tells e ∧ r.position.IsOf block transaction :=
  ⟨_, readLog_of_some (e.ofLog?_entry contract block transaction),
    ⟨e.jobId.hex_eq_spelled, Clamp.toNat_word _⟩,
    Position.isOf_ofLog (e.emit.entry contract block transaction)⟩

/-- A registration is told from its entry. -/
lemma ProviderRegistered.ofLog_entry {e : Contract.NodeRegistered}
    (h : e.emit.data.length < UInt64.size) :
    ∃ r, ProviderRegistered.ofLog (e.emit.entry contract block transaction) = .ok r ∧
      r.Tells e ∧ r.position.IsOf block transaction :=
  ⟨_, readLog_of_some (e.ofLog?_entry contract block transaction h),
    ⟨e.provider.checksummed_eq_spelled, rfl, toInt_signed_uint256 _⟩,
    Position.isOf_ofLog (e.emit.entry contract block transaction)⟩

/-- A heartbeat is told from its entry. -/
lemma ProviderHeartbeat.ofLog_entry (e : Contract.NodeHeartbeat) :
    ∃ r, ProviderHeartbeat.ofLog (e.emit.entry contract block transaction) = .ok r ∧
      r.Tells e ∧ r.position.IsOf block transaction :=
  ⟨_, readLog_of_some (e.ofLog?_entry contract block transaction),
    ⟨e.provider.checksummed_eq_spelled, Clamp.toNat_word _⟩,
    Position.isOf_ofLog (e.emit.entry contract block transaction)⟩

end Told

/-- Every event of the contracts that is emitted into an entry, at any place of a chain, is read and
told as it is: words in lower case, addresses with their checksum, texts unchanged, amounts in
decimal, and counts as the nearest number that their words hold. -/
theorem events_read_as_emitted (contract : Address) (block : Option UInt64)
    (transaction : Option Word) :
    (∀ e : Contract.JobCreated, e.emit.data.length < UInt64.size →
      ∃ r, JobEscrowed.ofLog (e.emit.entry contract block transaction) = .ok r ∧
        r.Tells e ∧ r.position.IsOf block transaction) ∧
    (∀ e : Contract.JobConfirmed,
      ∃ r, JobConfirmation.ofLog (e.emit.entry contract block transaction) = .ok r ∧
        r.Tells e ∧ r.position.IsOf block transaction) ∧
    (∀ e : Contract.NodeRegistered, e.emit.data.length < UInt64.size →
      ∃ r, ProviderRegistered.ofLog (e.emit.entry contract block transaction) = .ok r ∧
        r.Tells e ∧ r.position.IsOf block transaction) ∧
    (∀ e : Contract.NodeHeartbeat,
      ∃ r, ProviderHeartbeat.ofLog (e.emit.entry contract block transaction) = .ok r ∧
        r.Tells e ∧ r.position.IsOf block transaction) :=
  ⟨fun _ => JobEscrowed.ofLog_entry contract block transaction,
    JobConfirmation.ofLog_entry contract block transaction,
    fun _ => ProviderRegistered.ofLog_entry contract block transaction,
    ProviderHeartbeat.ofLog_entry contract block transaction⟩

/-- A job of the greatest payment without an image, whose input has a name outside ASCII. -/
def dearJob : Contract.JobCreated :=
  ⟨Word.ofNat 7, Bytes.fill 20 0xAB, Bytes.fill 20 0xCD, Fin.last _, String.ofList [],
    String.ofList ['Q', 'm', 'é', '€', '😀']⟩

/-- A provider with more memory than a signed word holds. -/
def vastProvider : Contract.NodeRegistered :=
  ⟨Bytes.fill 20 0xEF, String.ofList ['R', 'T', 'X'], Fin.last _⟩

/-- Both are read from entries that have not been mined yet. -/
theorem pending_events_read :
    (∃ r, JobEscrowed.ofLog (dearJob.emit.entry default none none) = .ok r ∧
      r.Tells dearJob ∧ r.position.IsOf none none) ∧
    (∃ r, ProviderRegistered.ofLog (vastProvider.emit.entry default none none) = .ok r ∧
      r.Tells vastProvider ∧ r.position.IsOf none none) := by
  have hjob : dearJob.emit.data.length < UInt64.size := by
    simp [dearJob, Contract.JobCreated.emit, Abi.length_encode_parts, Abi.contents, Abi.Part.nat,
      Abi.string_eq, Abi.stringContent, Abi.padding, Bytes.length_eq, Utf8.encode_eq,
      String.utf8EncodeChar, UInt64.size]
  have hprovider : vastProvider.emit.data.length < UInt64.size := by
    simp [vastProvider, Contract.NodeRegistered.emit, Abi.length_encode_parts, Abi.contents,
      Abi.Part.nat, Abi.string_eq, Abi.stringContent, Abi.padding, Bytes.length_eq, Utf8.encode_eq,
      String.utf8EncodeChar, UInt64.size]
  have hread := events_read_as_emitted default none none
  exact ⟨hread.1 dearJob hjob, hread.2.2.1 vastProvider hprovider⟩

end ComputeExchange
