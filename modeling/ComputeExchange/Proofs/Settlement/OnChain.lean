import ComputeExchange.Proofs.Chain.Emitted
import ComputeExchange.Proofs.Protocol
import ComputeExchange.Proofs.Store.Providers
import ComputeExchange.Settlement.Engine

/-!
# Settlement with the contract on the chain

`Settler.onChain` is the settler whose reputation side is the contract on the chain, reached through
a node: a credit is a transaction, and the count that is copied into the row of the provider is read
from the log entries of its receipt, or else asked for.

A receipt may hold the entries of any contracts, of any kinds and of any providers.  Only those
count that `Contract.creditOf` reads, the credits of the provider by the contract itself, and of
these the first (`Contract.reportedCount_eq`).  If the contract is asked, the count is the second
word of its answer (`Contract.ProviderInfo.jobCount?_encode`).  `Settler.Ended` tells the traces of
a settlement with their results, and `Settler.ended_iff_runs` that these are all.
-/

namespace ComputeExchange

namespace Contract

/-- The count that a log entry tells of a provider, if it is one of the contract itself by which the
provider has been credited. -/
def creditOf (contract provider : Address) (log : Log) : Option Uint256 :=
  if log.address = contract then
    (JobCountIncremented.ofLog? log).bind fun e =>
      if e.provider = provider then some e.newCount else none
  else none

/-- An entry of a contract tells what has been credited by it. -/
lemma creditOf_entry (e : JobCountIncremented) (contract provider emitter : Address)
    (block : Option UInt64) (transaction : Option Word) :
    creditOf contract provider (e.emit.entry emitter block transaction) =
      if emitter = contract ∧ e.provider = provider then some e.newCount else none := by
  rw [creditOf, e.ofLog?_entry, Option.bind_some, ite_and]
  rfl

/-- The count that is reported is that of the first entry by which the provider is credited. -/
lemma reportedCount_eq (contract provider : Address) (logs : List Log) :
    ReputationLedger.reportedCount contract provider logs =
      logs.findSome? (creditOf contract provider) := by
  unfold ReputationLedger.reportedCount
  induction logs with
  | nil => rfl
  | cons log logs ih =>
    rw [List.findSome?_cons, ← ih, creditOf]
    by_cases haddress : log.address = contract
    · rw [List.filter_cons_of_pos (by simpa using haddress), if_pos haddress]
      cases hread : JobCountIncremented.ofLog? log with
      | none => rw [List.filterMap_cons_none hread, Option.bind_none]
      | some e =>
        rw [List.filterMap_cons_some hread, Option.bind_some]
        by_cases hprovider : e.provider = provider
        · rw [List.find?_cons_of_pos (by simpa using hprovider), if_pos hprovider]
          rfl
        · rw [List.find?_cons_of_neg (by simpa using hprovider), if_neg hprovider]
    · rw [List.filter_cons_of_neg (by simpa using haddress), if_neg haddress]

/-- Entries by which the provider is not credited do not count. -/
lemma findSome?_creditOf_filter (contract provider : Address) (logs : List Log) :
    (logs.filter fun log => (creditOf contract provider log).isSome).findSome?
      (creditOf contract provider) = logs.findSome? (creditOf contract provider) := by
  rw [← List.head?_filterMap, ← List.head?_filterMap, List.filterMap_filter]
  congr 2
  funext log
  cases creditOf contract provider log <;> rfl

/-- The record in the answer of the contract for a provider. -/
def ProviderInfo.record (info : ProviderInfo) : List UInt8 :=
  Abi.encode [.string info.gpuModel, .nat info.vram, .nat info.lastSeen,
    .nat (if info.isRegistered then 1 else 0)]

/-- The count of a provider is read from the answer of the contract. -/
theorem ProviderInfo.jobCount?_encode (info : ProviderInfo)
    (h : info.encode.length < UInt64.size) : jobCount? info.encode = some info.jobCount := by
  have hfits : info.record.length < UInt64.size :=
    ((Nat.le_add_left _ _).trans
      (Abi.distance_add_length_le [] [.nat info.jobCount] info.record)).trans_lt h
  have hrecord : Abi.content? info.encode 0 = some (info.record ++ []) :=
    Abi.content?_encode [] [.nat info.jobCount] info.record h
  have hcount : uint256? info.encode 1 = some info.jobCount :=
    uint256?_encode [.content info.record] [] info.jobCount
  have hgpu : Abi.string? info.record 0 = some info.gpuModel :=
    Abi.string?_encode [] _ info.gpuModel hfits
  have hflag : Abi.wordAt? info.record (32 * 3) = some _ :=
    Abi.wordAt?_encode [.string info.gpuModel, .nat info.vram, .nat info.lastSeen] [] _
  rw [jobCount?, hrecord, List.append_nil]
  simp only [Option.bind_eq_bind, Option.bind_some, hcount, hgpu, Abi.nat?, hflag,
    Option.map_some]
  rfl

/-- Whatever the contract answers, the count is the number in the second word. -/
lemma ProviderInfo.uint256?_of_jobCount? {answer : List UInt8} {n : Uint256}
    (h : jobCount? answer = some n) : uint256? answer 1 = some n := by
  rw [jobCount?] at h
  simp only [Option.bind_eq_bind, Option.bind_eq_some_iff, Option.pure_def, Option.some_inj] at h
  obtain ⟨record, -, count, hcount, gpuModel, -, flag, -, rfl⟩ := h
  exact hcount

end Contract

/-- What is asked of a node of a chain. -/
inductive NodeCall : Type where
  | head
  | logs (contract : Address) (topic : Word) (first last : UInt64)
  | call (contract : Address) (data : List UInt8)
  | send (contract : Address) (data : List UInt8)

/-- What a node answers. -/
abbrev NodeCall.Answer : NodeCall → Type
  | .head => Except Cause UInt64
  | .logs .. => Except Cause (List Log)
  | .call .. => Except Cause (List UInt8)
  | .send .. => Except Cause Receipt

/-- What settlement with the contract on the chain asks of its surroundings. -/
inductive MirrorCall : Type where
  | provider (job : Word)
  | acquire
  | release
  | node (c : NodeCall)
  | clock
  | store (c : StoreCall)

/-- What each call is answered with. -/
abbrev MirrorCall.Answer : MirrorCall → Type
  | .provider _ => Except Cause Address
  | .acquire => Unit
  | .release => Unit
  | .node c => c.Answer
  | .clock => Timestamp
  | .store c => Except StoreError c.Answer

/-- What settlement has called, with the answers. -/
abbrev MirrorTrace : Type := Program.Trace MirrorCall.Answer

namespace MirrorCall

/-- How a call may be answered, and the store after it: a call to the store is performed, or fails
and leaves it as it is, and the others may be answered in any way. -/
inductive Serves : MemoryStore → (q : MirrorCall) → q.Answer → MemoryStore → Prop where
  | performed (s : MemoryStore) (c : StoreCall) :
      Serves s (.store c) (s.perform c).1 (s.perform c).2
  | failed (s : MemoryStore) (c : StoreCall) (e : StoreError) : Serves s (.store c) (.error e) s
  | elsewhere (s : MemoryStore) {q : MirrorCall} (h : ∀ c, q ≠ .store c) (answer : q.Answer) :
      Serves s q answer s

variable {s s' : MemoryStore}

/-- Only a call to the store changes it. -/
lemma Serves.eq_of_ne {q : MirrorCall} {answer : q.Answer} (h : Serves s q answer s')
    (hq : ∀ c, q ≠ .store c) : s' = s := by
  cases h with
  | performed c => exact absurd rfl (hq c)
  | failed c => exact absurd rfl (hq c)
  | elsewhere => rfl

/-- A call to record a settlement changes the row of the wallet if there is one and the call
succeeds, and else nothing. -/
lemma Serves.of_recordSettlement {wallet : String} {count : Int64} {now : Timestamp}
    {written : Except StoreError Bool}
    (h : Serves s (.store (.recordSettlement wallet count now)) written s') :
    s' = s ∧ (s.providers.get? wallet = none ∨ ∃ e, written = .error e) ∨
      ∃ row, s.providers.get? wallet = some row ∧ written = .ok true ∧
        s' = { s with providers := s.providers.put wallet (row.settle count now) } := by
  cases h with
  | performed =>
    unfold MemoryStore.perform
    by_cases hdown : s.isUnavailable = true
    · rw [if_pos hdown]
      exact Or.inl ⟨rfl, Or.inr ⟨_, rfl⟩⟩
    · rw [if_neg hdown]
      cases hrow : s.providers.get? wallet with
      | none => exact Or.inl ⟨by simp only [hrow], Or.inl rfl⟩
      | some row => exact Or.inr ⟨row, rfl, by simp only [hrow], by simp only [hrow]⟩
  | failed _ e => exact Or.inl ⟨rfl, Or.inr ⟨e, rfl⟩⟩
  | elsewhere hne => exact absurd rfl (hne _)

end MirrorCall

namespace Settler

open Program Contract

/-- The node whose answers are unknown. -/
def askedNode : Node (Program MirrorCall.Answer) where
  head := ask (A := MirrorCall.Answer) (.node .head)
  logs contract topic first last :=
    ask (A := MirrorCall.Answer) (.node (.logs contract topic first last))
  call contract data := ask (A := MirrorCall.Answer) (.node (.call contract data))
  send contract data := ask (A := MirrorCall.Answer) (.node (.send contract data))

/-- The settler that credits providers with the contract on the chain. -/
def onChain (contract : Address) : Settler (Program MirrorCall.Answer) where
  jobs := ⟨fun job => ask (A := MirrorCall.Answer) (.provider job)⟩
  reputation := ReputationLedger.onChain contract askedNode
  store := ⟨fun c => ask (A := MirrorCall.Answer) (.store c)⟩
  clock := ask (A := MirrorCall.Answer) .clock
  lock :=
    { acquire := ask (A := MirrorCall.Answer) .acquire
      release := ask (A := MirrorCall.Answer) .release }

/-! ### The traces of a settlement -/

/-- The calls of a submission, with what has come of its transaction. -/
def crediting (contract provider : Address) (outcome : Except Cause Receipt) : MirrorTrace :=
  [⟨.acquire, ()⟩, ⟨.node (.send contract (Call.incrementJobs provider).data), outcome⟩,
    ⟨.release, ()⟩]

/-- What is told of the receipt of a transaction. -/
def toldReceipt (contract provider : Address) (receipt : Receipt) : SettlementReceipt where
  transaction := receipt.transaction
  block := receipt.block
  isSuccess := receipt.isSuccess
  newCount := (ReputationLedger.reportedCount contract provider receipt.logs).map
    fun n => Clamp.word n.val

/-- What is told of a transaction. -/
def told (contract provider : Address) : Except Cause Receipt → Except Cause SettlementReceipt
  | .ok receipt => .ok (toldReceipt contract provider receipt)
  | .error cause =>
    .error (cause.within s!"Failed to submit incrementJobs({provider.checksummed})")

/-- The count of an answer to the question for a provider. -/
def countOf : Except Cause (List UInt8) → Option Uint256
  | .ok answer => ProviderInfo.jobCount? answer
  | .error _ => none

/-- What is told of an answer to the question for a provider. -/
def toldCount (provider : Address) (answer : Except Cause (List UInt8)) : Except Cause UInt64 :=
  let failure := s!"getProviderInfo({provider.checksummed}) failed"
  match answer with
  | .error cause => .error (cause.within failure)
  | .ok data =>
    match ProviderInfo.jobCount? data with
    | some n => .ok (Clamp.word n.val)
    | none => .error ((Cause.ofText "undecodable answer").within failure)

/-- The calls with which the count of a provider is found, and what is found: the count that is
reported, or else the one that the contract answers. -/
inductive Finds (contract provider : Address) (logs : List Log) :
    MirrorTrace → Option Uint256 → Prop where
  | reported {n : Uint256} (h : logs.findSome? (creditOf contract provider) = some n) :
      Finds contract provider logs [] (some n)
  | read (h : logs.findSome? (creditOf contract provider) = none)
      (answer : Except Cause (List UInt8)) :
      Finds contract provider logs
        [⟨.node (.call contract (Call.getProviderInfo provider).data), answer⟩] (countOf answer)

/-- A count as it is written into a row. -/
def rowCount (n : Uint256) : Int64 := Clamp.signedOfWord (Clamp.word n.val)

/-- The calls with which a count is copied. -/
inductive Copies (provider : Address) : Option Uint256 → MirrorTrace → Prop where
  | nothing : Copies provider none []
  | count (n : Uint256) (now : Timestamp) (written : Except StoreError Bool) :
      Copies provider (some n) [⟨.clock, now⟩,
        ⟨.store (.recordSettlement provider.checksummed (rowCount n) now), written⟩]

/-- The traces of the settlement of a job, with their results. -/
inductive Ended (contract : Address) (job : Word) :
    MirrorTrace → Except SettlementError Settlement → Prop where
  | unresolved (cause : Cause) :
      Ended contract job [⟨.provider job, .error cause⟩] (.error (.resolve job.hex cause))
  | unknown :
      Ended contract job [⟨.provider job, .ok (Bytes.zero 20)⟩] (.error (.unknownJob job.hex))
  | unsent {provider : Address} (hknown : provider ≠ Bytes.zero 20) (cause : Cause) :
      Ended contract job
        (⟨.provider job, .ok provider⟩ :: crediting contract provider (.error cause))
        (.error (.submit job.hex provider
          (cause.within s!"Failed to submit incrementJobs({provider.checksummed})")))
  | reverted {provider : Address} (hknown : provider ≠ Bytes.zero 20) {receipt : Receipt}
      (hreverted : receipt.isSuccess = false) :
      Ended contract job
        (⟨.provider job, .ok provider⟩ :: crediting contract provider (.ok receipt))
        (.error (.reverted job.hex receipt.transaction))
  | credited {provider : Address} (hknown : provider ≠ Bytes.zero 20) {receipt : Receipt}
      (hsuccess : receipt.isSuccess = true) {u v : MirrorTrace} {n : Option Uint256}
      (hfinds : Finds contract provider receipt.logs u n) (hcopies : Copies provider n v) :
      Ended contract job
        (⟨.provider job, .ok provider⟩ :: crediting contract provider (.ok receipt) ++ (u ++ v))
        (.ok ⟨job.hex, provider, toldReceipt contract provider receipt⟩)

/-- Crediting is one transaction, of which the receipt is told. -/
lemma increment_onChain (contract provider : Address) :
    (onChain contract).reputation.increment provider = (do
      let sent ← ask (A := MirrorCall.Answer)
        (.node (.send contract (Call.incrementJobs provider).data))
      return told contract provider sent) := by
  refine congrArg (bind _) (funext fun sent => ?_)
  cases sent <;> rfl

/-- Reading a count is one question to the contract, of which the answer is told. -/
lemma jobsCompleted_onChain (contract provider : Address) :
    (onChain contract).reputation.jobsCompleted provider = (do
      let answer ← ask (A := MirrorCall.Answer)
        (.node (.call contract (Call.getProviderInfo provider).data))
      return toldCount provider answer) := by
  refine congrArg (bind _) (funext fun answer => ?_)
  cases answer with
  | error cause => rfl
  | ok data =>
    dsimp only [toldCount]
    cases ProviderInfo.jobCount? data <;> rfl

/-- A submission sends one transaction under the lock, and tells what is known of its receipt. -/
lemma runs_submit_onChain {contract provider : Address} {t : MirrorTrace}
    {outcome : Except Cause SettlementReceipt} :
    Runs ((onChain contract).submit provider) t outcome ↔
      ∃ sent, t = crediting contract provider sent ∧ outcome = told contract provider sent := by
  unfold submit
  rw [increment_onChain]
  constructor
  · intro h
    cases h with
    | call _ h =>
      cases h with
      | call sent h =>
        cases h with
        | call _ h =>
          cases h
          exact ⟨sent, rfl, rfl⟩
  · rintro ⟨sent, rfl, rfl⟩
    exact .call _ (.call _ (.call _ (.here _)))

/-- Copying a count is a look at the clock and a call to the store. -/
lemma runs_copy_onChain {contract provider : Address} {n : Uint256} {t : MirrorTrace} :
    Runs ((onChain contract).copy provider (Clamp.word n.val)) t () ↔
      Copies provider (some n) t := by
  constructor
  · intro h
    cases h with
    | call now h =>
      cases h with
      | call written h =>
        cases h
        exact .count n now written
  · intro h
    cases h
    exact .call _ (.call _ (.here _))

/-- Copies a count that has been asked for, if there is one. -/
def copyAnswered (contract provider : Address) (answer : Except Cause (List UInt8)) :
    Program MirrorCall.Answer Unit :=
  match toldCount provider answer with
  | .ok count => (onChain contract).copy provider count
  | .error _ => pure ()

/-- A count that has been asked for is copied if there is one. -/
lemma runs_copyAnswered {contract provider : Address} {answer : Except Cause (List UInt8)}
    {v : MirrorTrace} :
    Runs (copyAnswered contract provider answer) v () ↔ Copies provider (countOf answer) v := by
  have hnothing : Runs (pure () : Program MirrorCall.Answer Unit) v () ↔
      Copies provider none v := by
    rw [runs_pure]
    constructor
    · rintro ⟨rfl, -⟩
      exact .nothing
    · intro h
      cases h
      exact ⟨rfl, rfl⟩
  cases answer with
  | error cause => exact hnothing
  | ok data =>
    dsimp only [copyAnswered, toldCount, countOf]
    cases ProviderInfo.jobCount? data with
    | none => exact hnothing
    | some n => exact runs_copy_onChain

/-- Without a reported count, the contract is asked for it. -/
lemma runs_reflect_asked {contract provider : Address} {t : MirrorTrace} :
    Runs ((onChain contract).reflect provider none) t () ↔
      ∃ answer v, Copies provider (countOf answer) v ∧
        t = ⟨.node (.call contract (Call.getProviderInfo provider).data), answer⟩ :: v := by
  unfold reflect
  rw [jobsCompleted_onChain]
  constructor
  · intro h
    cases h with
    | call answer h => exact ⟨answer, _, runs_copyAnswered.mp h, rfl⟩
  · rintro ⟨answer, v, hcopies, rfl⟩
    exact runs_bind.mpr
      ⟨[⟨_, answer⟩], _, v, rfl, .call _ (.here _), runs_copyAnswered.mpr hcopies⟩

/-- After a credit the count is found, and copied. -/
lemma runs_reflect_onChain {contract provider : Address} {receipt : Receipt} {t : MirrorTrace} :
    Runs ((onChain contract).reflect provider (toldReceipt contract provider receipt).newCount)
        t () ↔
      ∃ u n v, Finds contract provider receipt.logs u n ∧ Copies provider n v ∧ t = u ++ v := by
  rw [toldReceipt, reportedCount_eq]
  cases hcount : receipt.logs.findSome? (creditOf contract provider) with
  | some n =>
    refine runs_copy_onChain.trans ⟨fun h => ⟨[], some n, t, .reported hcount, h, rfl⟩, ?_⟩
    rintro ⟨u, n', v, hfinds, hcopies, rfl⟩
    cases hfinds with
    | reported hcount' =>
      obtain rfl := Option.some.inj (hcount.symm.trans hcount')
      exact hcopies
    | read hnone answer => exact absurd (hcount.symm.trans hnone) (by simp)
  | none =>
    refine runs_reflect_asked.trans ⟨?_, ?_⟩
    · rintro ⟨answer, v, hcopies, rfl⟩
      exact ⟨_, _, v, .read hcount answer, hcopies, rfl⟩
    · rintro ⟨u, n, v, hfinds, hcopies, rfl⟩
      cases hfinds with
      | reported hcount' => exact absurd (hcount.symm.trans hcount') (by simp)
      | read _ answer => exact ⟨answer, v, hcopies, rfl⟩

/-- What is left of a settlement once the credit has been submitted. -/
def conclude (contract : Address) (job : Word) (provider : Address) :
    Except Cause SettlementReceipt → Program MirrorCall.Answer (Except SettlementError Settlement)
  | .error cause => pure (.error (.submit job.hex provider cause))
  | .ok receipt =>
    if receipt.isSuccess then do
      (onChain contract).reflect provider receipt.newCount
      return .ok ⟨job.hex, provider, receipt⟩
    else pure (.error (.reverted job.hex receipt.transaction))

/-- A settlement whose provider is known submits the credit and concludes. -/
lemma runs_settle_known {contract : Address} {job : Word} {provider : Address}
    (hknown : provider ≠ Bytes.zero 20) {t : MirrorTrace} {r : Except SettlementError Settlement} :
    Runs ((onChain contract).settle job) (⟨.provider job, .ok provider⟩ :: t) r ↔
      ∃ sent t', t = crediting contract provider sent ++ t' ∧
        Runs (conclude contract job provider (told contract provider sent)) t' r := by
  constructor
  · intro h
    cases h with
    | call _ hrest =>
      change Runs (if provider = Bytes.zero 20 then pure (.error (.unknownJob job.hex))
        else (onChain contract).submit provider >>= conclude contract job provider) t r at hrest
      rw [if_neg hknown] at hrest
      obtain ⟨t₁, outcome, t', rfl, hsubmit, hafter⟩ := runs_bind.mp hrest
      obtain ⟨sent, rfl, rfl⟩ := runs_submit_onChain.mp hsubmit
      exact ⟨sent, t', rfl, hafter⟩
  · rintro ⟨sent, t', rfl, hafter⟩
    refine runs_bind.mpr ⟨[_], .ok provider, _, rfl, runs_ask.mpr rfl, ?_⟩
    simp only [if_neg hknown]
    exact runs_bind.mpr ⟨_, _, t', rfl, runs_submit_onChain.mpr ⟨sent, rfl, rfl⟩, hafter⟩

/-- A settlement has the traces that are told, and no others. -/
theorem ended_iff_runs {contract : Address} {job : Word} {t : MirrorTrace}
    {r : Except SettlementError Settlement} :
    Runs ((onChain contract).settle job) t r ↔ Ended contract job t r := by
  constructor
  · intro h
    obtain ⟨t₁, resolved, t₂, rfl, hresolve, hrest⟩ := runs_bind.mp h
    obtain rfl := runs_ask.mp hresolve
    cases resolved with
    | error cause =>
      obtain ⟨rfl, rfl⟩ := runs_pure.mp hrest
      exact .unresolved cause
    | ok provider =>
      by_cases hzero : provider = Bytes.zero 20
      · simp only [if_pos hzero] at hrest
        obtain ⟨rfl, rfl⟩ := runs_pure.mp hrest
        rw [hzero]
        exact .unknown
      · obtain ⟨sent, t', rfl, hafter⟩ := (runs_settle_known hzero).mp h
        cases sent with
        | error cause =>
          obtain ⟨rfl, rfl⟩ := runs_pure.mp hafter
          exact .unsent hzero cause
        | ok receipt =>
          by_cases hsuccess : (toldReceipt contract provider receipt).isSuccess = true
          · simp only [told, conclude, if_pos hsuccess] at hafter
            obtain ⟨t₅, _, t₆, rfl, hreflect, hend⟩ := runs_bind.mp hafter
            obtain ⟨rfl, rfl⟩ := runs_pure.mp hend
            obtain ⟨u, n, v, hfinds, hcopies, rfl⟩ := runs_reflect_onChain.mp hreflect
            rw [List.append_nil]
            exact .credited hzero hsuccess hfinds hcopies
          · simp only [told, conclude, if_neg hsuccess] at hafter
            obtain ⟨rfl, rfl⟩ := runs_pure.mp hafter
            exact .reverted hzero (Bool.eq_false_of_not_eq_true hsuccess)
  · intro h
    cases h with
    | unresolved cause => exact .call _ (.here _)
    | unknown => exact .call _ (.here _)
    | unsent hknown cause =>
      exact (runs_settle_known hknown).mpr ⟨.error cause, [], (List.append_nil _).symm, .here _⟩
    | @reverted _ hknown receipt hreverted =>
      refine (runs_settle_known hknown).mpr ⟨.ok receipt, [], (List.append_nil _).symm, ?_⟩
      simp only [told, conclude, toldReceipt, hreverted, Bool.false_eq_true, if_false]
      exact .here _
    | @credited _ hknown receipt hsuccess _ _ _ hfinds hcopies =>
      refine (runs_settle_known hknown).mpr ⟨.ok receipt, _, rfl, ?_⟩
      simp only [told, conclude]
      rw [if_pos (show (toldReceipt contract _ _).isSuccess = true from hsuccess)]
      exact runs_bind.mpr ⟨_, (), [], (List.append_nil _).symm,
        runs_reflect_onChain.mpr ⟨_, _, _, hfinds, hcopies, rfl⟩, .here _⟩

end Settler

end ComputeExchange
