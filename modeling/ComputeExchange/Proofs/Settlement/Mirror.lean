import ComputeExchange.Proofs.Settlement.Calls
import ComputeExchange.Proofs.Settlement.OnChain

/-!
# What a settlement writes

A settlement that ends well copies a count into the row of the provider: `mirroredCount`, which is
told by the first entry of the receipt that credits the provider, and else by the contract, which is
then asked (`Finds.sourced`).  `Copies.mirrored` says what becomes of the store then, and
`eq_of_served` that nothing else touches it.

The entries that do not credit the provider may be exchanged for any others (`relogged`): what is
read from the receipt stays the same, and so does the whole settlement (`Ended.relogged`).  Both
make up `written_by_settlement`.
-/

namespace ComputeExchange

namespace Settler

open Program Contract

/-- The log entries of the receipts in a trace. -/
def receiptLogs (t : MirrorTrace) : List Log :=
  t.flatMap fun
    | ⟨.node (.send _ _), .ok receipt⟩ => receipt.logs
    | _ => []

/-- The count that the contract has answered for a provider. -/
def countRead (contract provider : Address) (t : MirrorTrace) : Option Uint256 :=
  t.findSome? fun
    | ⟨.node (.call asked data), answer⟩ =>
      if asked = contract ∧ data = (Call.getProviderInfo provider).data then countOf answer
      else none
    | _ => none

/-- The count of a provider: that of the first entry of the receipt by which the contract credits
the provider, or else the one that the contract has answered. -/
def mirroredCount (contract provider : Address) (t : MirrorTrace) : Option Uint256 :=
  ((receiptLogs t).findSome? (creditOf contract provider)).or (countRead contract provider t)

/-- Where the count of a provider comes from.  The first entry of the receipt by which the contract
has credited the provider tells it.  Without one the contract is asked, and the count is the one of
its answer, if this can be read. -/
structure Sourced (contract provider : Address) (t : MirrorTrace) : Prop where
  reported : ∀ (e : JobCountIncremented) before block transaction after,
    receiptLogs t = before ++ e.emit.entry contract block transaction :: after →
    before.findSome? (creditOf contract provider) = none → e.provider = provider →
    mirroredCount contract provider t = some e.newCount
  asked : (receiptLogs t).findSome? (creditOf contract provider) = none →
    ∃ answer, ⟨.node (.call contract (Call.getProviderInfo provider).data), answer⟩ ∈ t ∧
      (∀ info : ProviderInfo, answer = .ok info.encode → info.encode.length < UInt64.size →
        mirroredCount contract provider t = some info.jobCount) ∧
      ∀ n, mirroredCount contract provider t = some n →
        ∃ bytes, answer = .ok bytes ∧ uint256? bytes 1 = some n

/-- A store in which one row has been changed by a settlement. -/
structure Mirrored (wallet : String) (row : Provider) (count : Int64) (now : Timestamp)
    (s s' : MemoryStore) : Prop where
  row_eq : s'.providers.get? wallet =
    some { row with
      reputation := count, jobsCompleted := row.jobsCompleted + 1, updatedAt := now }
  others_eq : ∀ other, other ≠ wallet → s'.providers.get? other = s.providers.get? other
  keys_eq : s'.providers.keys = s.providers.keys
  rest_eq : s' = { s with providers := s'.providers }

/-- The same trace with other log entries in its receipts. -/
def relogged (logs : List Log) : Event MirrorCall.Answer → Event MirrorCall.Answer
  | ⟨.node (.send contract data), .ok receipt⟩ =>
    ⟨.node (.send contract data), .ok { receipt with logs := logs }⟩
  | e => e

/-- A count is cut to the range of the column it is written into. -/
lemma toInt_signedOfWord_word (n : ℕ) :
    (Clamp.signedOfWord (Clamp.word n)).toInt = min (n : Int) (2 ^ 63 - 1) := by
  have hmin := Int64.toInt_minValue
  have hmax := Int64.toInt_maxValue
  rw [Clamp.signedOfWord, Clamp.toInt_signed, Clamp.toNat_word]
  have hsize : UInt64.size = 2 ^ 64 := rfl
  omega

lemma toInt_rowCount (n : Uint256) : (rowCount n).toInt = min (n.val : Int) (2 ^ 63 - 1) :=
  toInt_signedOfWord_word n.val

/-- Copying a count tells nothing of it. -/
lemma Copies.tells_nothing {provider : Address} {n : Option Uint256} {v : MirrorTrace}
    (h : Copies provider n v) (contract : Address) :
    receiptLogs v = [] ∧ countRead contract provider v = none := by
  cases h with
  | nothing => exact ⟨rfl, rfl⟩
  | count => exact ⟨rfl, rfl⟩

/-- Finding a count tells which it is. -/
lemma Finds.tells {contract provider : Address} {logs : List Log} {u : MirrorTrace}
    {n : Option Uint256} (h : Finds contract provider logs u n) :
    receiptLogs u = [] ∧
      (logs.findSome? (creditOf contract provider)).or (countRead contract provider u) = n := by
  cases h with
  | reported h => exact ⟨rfl, by rw [h, Option.some_or]⟩
  | read h answer =>
    refine ⟨rfl, ?_⟩
    rw [h, Option.none_or, countRead, List.findSome?_singleton]
    exact if_pos ⟨rfl, rfl⟩

/-- The entries of the receipt of a settlement, and the count that it finds. -/
lemma mirroredCount_eq {contract provider : Address} {job : Word} {receipt : Receipt}
    {u v : MirrorTrace} {n : Option Uint256} (hfinds : Finds contract provider receipt.logs u n)
    (hcopies : Copies provider n v) :
    receiptLogs (⟨.provider job, .ok provider⟩ :: crediting contract provider (.ok receipt) ++
      (u ++ v)) = receipt.logs ∧
    mirroredCount contract provider (⟨.provider job, .ok provider⟩ ::
      crediting contract provider (.ok receipt) ++ (u ++ v)) = n := by
  obtain ⟨hlogs, hcount⟩ := hfinds.tells
  obtain ⟨hlogs', hcount'⟩ := hcopies.tells_nothing contract
  have hreceipt : receiptLogs (⟨.provider job, .ok provider⟩ ::
      crediting contract provider (.ok receipt) ++ (u ++ v)) = receipt.logs := by
    unfold receiptLogs at *
    rw [List.flatMap_append, List.flatMap_append, hlogs, hlogs']
    exact (List.append_nil _).trans (List.append_nil _)
  refine ⟨hreceipt, ?_⟩
  rw [mirroredCount, hreceipt, ← hcount, countRead, List.findSome?_append, List.findSome?_append,
    ← countRead, ← countRead, ← countRead, hcount', Option.or_none]
  rfl

/-- A settlement finds the count where it comes from. -/
lemma Finds.sourced {contract provider : Address} {job : Word} {receipt : Receipt}
    {u v : MirrorTrace} {n : Option Uint256} (hfinds : Finds contract provider receipt.logs u n)
    (hcopies : Copies provider n v) :
    Sourced contract provider (⟨.provider job, .ok provider⟩ ::
      crediting contract provider (.ok receipt) ++ (u ++ v)) := by
  obtain ⟨hlogs, hcount⟩ := @mirroredCount_eq _ _ job _ _ _ _ hfinds hcopies
  constructor
  · intro e before block transaction after hreceipt hbefore hprovider
    have hcredit : creditOf contract provider (e.emit.entry contract block transaction) =
        some e.newCount := (creditOf_entry ..).trans (if_pos ⟨rfl, hprovider⟩)
    rw [hreceipt] at hlogs
    have hfirst : receipt.logs.findSome? (creditOf contract provider) = some e.newCount := by
      rw [← hlogs, List.findSome?_append, hbefore, Option.none_or, List.findSome?_cons, hcredit]
    rw [hcount]
    cases hfinds with
    | reported h => exact h.symm.trans hfirst
    | read h => exact absurd (h.symm.trans hfirst) (by simp)
  · intro hnone
    rw [hlogs] at hnone
    rw [hcount]
    cases hfinds with
    | reported h => exact absurd (hnone.symm.trans h) (by simp)
    | read _ answer =>
      refine ⟨answer, by simp, ?_, fun m hm => ?_⟩
      · rintro info rfl hfits
        exact info.jobCount?_encode hfits
      · cases answer with
        | error cause => cases hm
        | ok bytes => exact ⟨bytes, rfl, ProviderInfo.uint256?_of_jobCount? hm⟩

/-- Nothing but a call to the store changes it. -/
lemma eq_of_served {s s' : MemoryStore} {t : MirrorTrace}
    (h : Protocol.Served MirrorCall.Serves s t s') (ht : ∀ e ∈ t, ∀ c, e.1 ≠ .store c) :
    s' = s := by
  induction h with
  | nil => rfl
  | cons hserves _ ih =>
    rw [List.forall_mem_cons] at ht
    rw [ih ht.2, hserves.eq_of_ne ht.1]

/-- A store stays as it is while a count is found. -/
lemma Finds.served {contract provider : Address} {logs : List Log} {u : MirrorTrace}
    {n : Option Uint256} (h : Finds contract provider logs u n) (s : MemoryStore) :
    Protocol.Served MirrorCall.Serves s u s := by
  cases h with
  | reported => exact .nil s
  | read => exact .cons (.elsewhere s (by simp) _) (.nil s)

/-- What copying a count does to a store. -/
lemma Copies.mirrored {provider : Address} {n : Option Uint256} {v : MirrorTrace}
    {s s' : MemoryStore} (h : Copies provider n v)
    (hserved : Protocol.Served MirrorCall.Serves s v s') :
    (n = none → s' = s) ∧
    ∀ m, n = some m → ∃ count now written, count.toInt = min (m.val : Int) (2 ^ 63 - 1) ∧
      v = [⟨.clock, now⟩,
        ⟨.store (.recordSettlement provider.checksummed count now), written⟩] ∧
      (s' = s ∧ (s.providers.get? provider.checksummed = none ∨ ∃ e, written = .error e) ∨
        ∃ row, s.providers.get? provider.checksummed = some row ∧ written = .ok true ∧
          Mirrored provider.checksummed row count now s s') := by
  cases h with
  | nothing => exact ⟨fun _ => eq_of_served hserved (by simp), fun m hm => nomatch hm⟩
  | count m now written =>
    refine ⟨fun hm => absurd hm (Option.some_ne_none m), ?_⟩
    rintro _ ⟨⟩
    refine ⟨rowCount m, now, written, toInt_rowCount m, rfl, ?_⟩
    cases hserved with
    | cons hclock hrest =>
      obtain rfl := hclock.eq_of_ne (by simp)
      rcases hrest.of_singleton.of_recordSettlement with hsame | ⟨row, hrow, hwritten, rfl⟩
      · exact Or.inl hsame
      · refine Or.inr ⟨row, hrow, hwritten, ?_, ?_, Table.keys_put_of_some hrow _, rfl⟩
        · exact (Table.get?_put ..).trans (if_pos rfl)
        · exact fun other hother => (Table.get?_put ..).trans (if_neg (Ne.symm hother))

/-- Entries that agree where a provider is credited lead to the same count. -/
lemma Finds.of_logs {contract provider : Address} {logs logs' : List Log} {u : MirrorTrace}
    {n : Option Uint256} (h : Finds contract provider logs u n)
    (hlogs : logs'.findSome? (creditOf contract provider) =
      logs.findSome? (creditOf contract provider)) : Finds contract provider logs' u n := by
  cases h with
  | reported h => exact .reported (hlogs.trans h)
  | read h answer => exact .read (hlogs.trans h) answer

/-- Other log entries are put into the answer to a transaction, and nowhere else. -/
lemma relogged_cases (logs : List Log) (e : Event MirrorCall.Answer) :
    (∃ contract data receipt, e = ⟨.node (.send contract data), .ok receipt⟩ ∧
      relogged logs e = ⟨.node (.send contract data), .ok { receipt with logs := logs }⟩) ∨
    relogged logs e = e := by
  unfold relogged
  split
  · exact Or.inl ⟨_, _, _, rfl, rfl⟩
  · exact Or.inr rfl

lemma Finds.map_relogged {contract provider : Address} {logs : List Log} {u : MirrorTrace}
    {n : Option Uint256} (h : Finds contract provider logs u n) (others : List Log) :
    u.map (relogged others) = u := by
  cases h <;> rfl

lemma Copies.map_relogged {provider : Address} {n : Option Uint256} {v : MirrorTrace}
    (h : Copies provider n v) (others : List Log) : v.map (relogged others) = v := by
  cases h <;> rfl

/-- The store does the same whatever the log entries are. -/
lemma served_relogged {s s' : MemoryStore} {t : MirrorTrace} (logs : List Log)
    (h : Protocol.Served MirrorCall.Serves s t s') :
    Protocol.Served MirrorCall.Serves s (t.map (relogged logs)) s' := by
  induction h with
  | nil s => exact .nil s
  | @cons s s₁ s' q answer t hserves _ ih =>
    rw [List.map_cons]
    rcases relogged_cases logs ⟨q, answer⟩ with ⟨contract, data, receipt, heq, hlogged⟩ | hsame
    · cases heq
      obtain rfl := hserves.eq_of_ne (fun c => by simp)
      rw [hlogged]
      exact .cons (.elsewhere _ (fun c => by simp) _) ih
    · rw [hsame]
      exact .cons hserves ih

/-- The same settlement with other entries in the receipt, none of which credits the provider. -/
lemma Ended.relogged {contract : Address} {job : Word} {t : MirrorTrace}
    {r : Except SettlementError Settlement} (h : Ended contract job t r) {logs : List Log}
    (hlogs : ∀ provider, ⟨.provider job, .ok provider⟩ ∈ t →
      logs.findSome? (creditOf contract provider) =
        (receiptLogs t).findSome? (creditOf contract provider)) :
    Ended contract job (t.map (relogged logs)) r := by
  cases h with
  | unresolved cause => exact .unresolved cause
  | unknown => exact .unknown
  | unsent hknown cause => exact .unsent hknown cause
  | @reverted provider hknown receipt hreverted =>
    have hreverted' : { receipt with logs := logs }.isSuccess = false := hreverted
    exact .reverted hknown hreverted'
  | @credited provider hknown receipt hsuccess u v n hfinds hcopies =>
    have hsame := hlogs provider (List.mem_cons_self ..)
    rw [(mirroredCount_eq hfinds hcopies).1] at hsame
    have htold : toldReceipt contract provider { receipt with logs := logs } =
        toldReceipt contract provider receipt := by
      simp only [toldReceipt, reportedCount_eq, hsame]
    have hsuccess' : { receipt with logs := logs }.isSuccess = true := hsuccess
    rw [List.map_append, List.map_append, hfinds.map_relogged, hcopies.map_relogged, ← htold]
    exact .credited hknown hsuccess' (hfinds.of_logs hsame) hcopies

/-- What a settlement that is run alone leaves in a store.  If it fails, nothing has changed.  If it
ends well, a count was found or not, in the receipt or else by asking the contract; without one
nothing has changed, and with one it was copied: if the provider has a row and the call to the store
succeeds, this row has changed and nothing else.

And the entries of the receipt by which other contracts tell something, or the contract something
else, or of other providers, make no difference: with any others in their place, anywhere, the
settlement makes the same calls, comes to the same and leaves the same store. -/
theorem written_by_settlement {contract : Address} {job : Word} {t : MirrorTrace}
    {r : Except SettlementError Settlement} {s s' : MemoryStore}
    (hrun : Runs ((onChain contract).settle job) t r)
    (hserved : Protocol.Served MirrorCall.Serves s t s') :
    (∀ e, r = .error e → s' = s) ∧
    (∀ settlement, r = .ok settlement →
      Sourced contract settlement.provider t ∧
      (mirroredCount contract settlement.provider t = none → s' = s) ∧
      ∀ n, mirroredCount contract settlement.provider t = some n →
        ∃ count now written, count.toInt = min (n.val : Int) (2 ^ 63 - 1) ∧
          [⟨.clock, now⟩, ⟨.store (.recordSettlement settlement.provider.checksummed count now),
            written⟩] <:+ t ∧
          (s' = s ∧ (s.providers.get? settlement.provider.checksummed = none ∨
              ∃ e, written = .error e) ∨
            ∃ row, s.providers.get? settlement.provider.checksummed = some row ∧
              written = .ok true ∧
              Mirrored settlement.provider.checksummed row count now s s')) ∧
    ∀ logs, (∀ provider, ⟨.provider job, .ok provider⟩ ∈ t →
        logs.filter (fun log => (creditOf contract provider log).isSome) =
          (receiptLogs t).filter fun log => (creditOf contract provider log).isSome) →
      Runs ((onChain contract).settle job) (t.map (relogged logs)) r ∧
        Protocol.Served MirrorCall.Serves s (t.map (relogged logs)) s' := by
  have hended := ended_iff_runs.mp hrun
  refine ⟨?_, ?_, ?_⟩
  · rintro e rfl
    refine eq_of_served hserved ?_
    cases hended with
    | unresolved => simp
    | unknown => simp
    | unsent => simp [crediting]
    | reverted => simp [crediting]
  · rintro settlement rfl
    cases hended with
    | @credited provider hknown receipt hsuccess u v n hfinds hcopies =>
      obtain ⟨s₁, hbefore, hafter⟩ := hserved.of_append
      obtain ⟨s₂, hfound, hcopied⟩ := hafter.of_append
      obtain rfl : s₁ = s := eq_of_served hbefore (by simp [crediting])
      obtain rfl : s₂ = s₁ := eq_of_served hfound (by cases hfinds <;> simp)
      refine ⟨hfinds.sourced hcopies, ?_⟩
      rw [(mirroredCount_eq hfinds hcopies).2]
      obtain ⟨hnone, hsome⟩ := hcopies.mirrored hcopied
      refine ⟨hnone, fun m hm => ?_⟩
      obtain ⟨count, now, written, hcount, rfl, hwritten⟩ := hsome m hm
      exact ⟨count, now, written, hcount, ⟨_, List.append_assoc .. ⟩, hwritten⟩
  · intro logs hlogs
    refine ⟨ended_iff_runs.mpr (hended.relogged fun provider hprovider => ?_),
      served_relogged logs hserved⟩
    rw [← findSome?_creditOf_filter, hlogs provider hprovider, findSome?_creditOf_filter]

/-- A contract that counts jobs. -/
def someContract : Address := Bytes.fill 20 0xCC

/-- The entry of a credit. -/
def creditEntry (emitter provider : Address) (count : Uint256) : Log :=
  (JobCountIncremented.mk provider count).emit.entry emitter (some 100) none

/-- Entries in which another contract credits the provider, and the contract another one. -/
def foreignEntries : List Log :=
  [creditEntry (Bytes.fill 20 0xDD) someProvider ⟨7, by decide⟩,
    creditEntry someContract (Bytes.fill 20 0x22) ⟨8, by decide⟩]

/-- The provider is not credited by the foreign entries. -/
lemma creditOf_foreignEntries :
    ∀ log ∈ foreignEntries, creditOf someContract someProvider log = none := by
  intro log hlog
  rcases List.mem_pair.mp hlog with rfl | rfl
  · exact (creditOf_entry ..).trans (if_neg (by decide))
  · exact (creditOf_entry ..).trans (if_neg (by decide))

/-- A store with the row of one provider. -/
def oneProvider : MemoryStore :=
  { MemoryStore.empty with providers := Table.empty.put someProvider.checksummed default }

/-- A settlement after which a count is copied. -/
def mirrorTrace (logs : List Log) (u : MirrorTrace) (n : Uint256) : MirrorTrace :=
  ⟨.provider default, .ok someProvider⟩ ::
    crediting someContract someProvider (.ok ⟨"0x1", some 100, true, logs⟩) ++
    (u ++ [⟨.clock, default⟩,
      ⟨.store (.recordSettlement someProvider.checksummed (rowCount n) default), .ok true⟩])

/-- The settlement goes through with the store, if the count is found. -/
lemma exists_mirrored {logs : List Log} {u : MirrorTrace} {n : Uint256}
    (hfinds : Finds someContract someProvider logs u (some n)) :
    ∃ settlement s', settlement.provider = someProvider ∧ s' ≠ oneProvider ∧
      Runs ((onChain someContract).settle default) (mirrorTrace logs u n) (.ok settlement) ∧
      Protocol.Served MirrorCall.Serves oneProvider (mirrorTrace logs u n) s' := by
  have hrow : oneProvider.providers.get? someProvider.checksummed = some default :=
    (Table.get?_put ..).trans (if_pos rfl)
  have hstored := MirrorCall.Serves.performed oneProvider
    (.recordSettlement someProvider.checksummed (rowCount n) default)
  rw [MemoryStore.perform, if_neg (show oneProvider.isUnavailable ≠ true by decide)] at hstored
  simp only [hrow] at hstored
  have hcopied : Protocol.Served MirrorCall.Serves oneProvider [⟨.clock, default⟩,
      ⟨.store (.recordSettlement someProvider.checksummed (rowCount n) default), .ok true⟩] _ :=
    .cons (.elsewhere _ (by simp) _) (.cons hstored (.nil _))
  refine ⟨_, _, rfl, ?_, ended_iff_runs.mpr (.credited (by decide) rfl hfinds (.count ..)),
    .append (.cons (.elsewhere _ (by simp) _) (.cons (.elsewhere _ (by simp) _)
      (.cons (.elsewhere _ (by simp) _) (.cons (.elsewhere _ (by simp) _) (.nil _)))))
      ((hfinds.served _).append hcopied)⟩
  intro hsame
  have hget := congrArg (fun s : MemoryStore => s.providers.get? someProvider.checksummed) hsame
  simp only [Table.get?_put, if_true, hrow] at hget
  have hjobs : (default : Provider).jobsCompleted + 1 = (default : Provider).jobsCompleted :=
    congrArg Provider.jobsCompleted (Option.some.inj hget)
  exact absurd hjobs (by decide)

/-- A settlement after which the store is another one has written its count into the row. -/
lemma reputation_of_changed {wallet : String} {count : Int64} {now : Timestamp}
    {s s' : MemoryStore} {unwritten written : Prop} {rows : Provider → Prop}
    (h : s' = s ∧ unwritten ∨ ∃ row, rows row ∧ written ∧ Mirrored wallet row count now s s')
    (hchanged : s' ≠ s) :
    (s'.providers.get? wallet).map (·.reputation.toInt) = some count.toInt := by
  rcases h with ⟨hsame, -⟩ | ⟨row, -, -, hmirrored⟩
  · exact absurd hsame hchanged
  · rw [hmirrored.row_eq]
    rfl

/-- What the contract knows of the provider. -/
def someInfo : ProviderInfo :=
  ⟨String.ofList ['H', '1', '0', '0'], ⟨80, by decide⟩, ⟨0, by decide⟩, true, ⟨41, by decide⟩⟩

lemma someInfo_fits : someInfo.encode.length < UInt64.size := by
  simp [someInfo, ProviderInfo.encode, Abi.length_encode_parts, Abi.contents, Abi.Part.nat,
    Abi.string_eq, Abi.stringContent, Abi.padding, Bytes.length_eq, Utf8.encode_eq,
    String.utf8EncodeChar, UInt64.size]

/-- The calls by which the contract is asked for the provider. -/
def askingCalls : MirrorTrace :=
  [⟨.node (.call someContract (Call.getProviderInfo someProvider).data), .ok someInfo.encode⟩]

/-- The entry in which the contract credits the provider with the greatest count that there is. -/
def ownEntry : Log := creditEntry someContract someProvider (Fin.last _)

/-- A settlement of which the receipt has the credit behind foreign entries. -/
def crowdedTrace : MirrorTrace := mirrorTrace (foreignEntries ++ [ownEntry]) [] (Fin.last _)

/-- A settlement of which the receipt has foreign entries alone, so that the contract is asked. -/
def askedTrace : MirrorTrace := mirrorTrace foreignEntries askingCalls someInfo.jobCount

/-- The greatest count is cut to the greatest one that a row can hold, and is written although
others are told before it; without these the same is written.  And if no entry credits the provider,
the count that the contract answers is written. -/
theorem written_by_settlement_crowded :
    (∃ r s', Runs ((onChain someContract).settle default) crowdedTrace r ∧
      Protocol.Served MirrorCall.Serves oneProvider crowdedTrace s' ∧
      Runs ((onChain someContract).settle default) (crowdedTrace.map (relogged [ownEntry])) r ∧
      (s'.providers.get? someProvider.checksummed).map (·.reputation.toInt) =
        some (2 ^ 63 - 1)) ∧
    ∃ r s', Runs ((onChain someContract).settle default) askedTrace r ∧
      Protocol.Served MirrorCall.Serves oneProvider askedTrace s' ∧
      (s'.providers.get? someProvider.checksummed).map (·.reputation.toInt) = some 41 := by
  have hforeign : foreignEntries.findSome? (creditOf someContract someProvider) = none :=
    List.findSome?_eq_none_iff.mpr creditOf_foreignEntries
  have hown : creditOf someContract someProvider ownEntry = some (Fin.last _) :=
    (creditOf_entry ..).trans (if_pos ⟨rfl, rfl⟩)
  constructor
  · have hfinds : Finds someContract someProvider (foreignEntries ++ [ownEntry]) []
        (some (Fin.last _)) := by
      refine .reported ?_
      rw [List.findSome?_append, hforeign, Option.none_or, List.findSome?_singleton, hown]
    obtain ⟨settlement, s', hprovider, hchanged, hrun, hserved⟩ := exists_mirrored hfinds
    obtain ⟨-, hwritten, hsame⟩ := written_by_settlement hrun hserved
    obtain ⟨hsourced, -, hcopied⟩ := hwritten settlement rfl
    rw [hprovider] at hsourced hcopied
    have hlogs : receiptLogs crowdedTrace = foreignEntries ++ [ownEntry] := rfl
    have hfound : mirroredCount someContract someProvider crowdedTrace = some (Fin.last _) :=
      hsourced.reported ⟨someProvider, Fin.last _⟩ foreignEntries (some 100) none [] hlogs hforeign
        rfl
    obtain ⟨count, now, written, hclamped, -, hstored⟩ := hcopied _ hfound
    refine ⟨_, s', hrun, hserved, (hsame _ fun provider hprovider => ?_).1, ?_⟩
    · obtain rfl : provider = someProvider := by
        simpa [mirrorTrace, crediting] using hprovider
      have hnone : foreignEntries.filter
          (fun log => (creditOf someContract someProvider log).isSome) = [] :=
        List.filter_eq_nil_iff.mpr fun log hlog => by
          rw [creditOf_foreignEntries log hlog]
          simp
      change _ = (receiptLogs crowdedTrace).filter _
      rw [hlogs, List.filter_append, hnone, List.nil_append]
    · exact (reputation_of_changed hstored hchanged).trans (congrArg some hclamped)
  · have hanswer : countOf (.ok someInfo.encode) = some someInfo.jobCount :=
      someInfo.jobCount?_encode someInfo_fits
    have hfinds : Finds someContract someProvider foreignEntries askingCalls
        (some someInfo.jobCount) := by
      rw [← hanswer]
      exact .read hforeign (.ok someInfo.encode)
    obtain ⟨settlement, s', hprovider, hchanged, hrun, hserved⟩ := exists_mirrored hfinds
    obtain ⟨-, hwritten, -⟩ := written_by_settlement hrun hserved
    obtain ⟨hsourced, -, hcopied⟩ := hwritten settlement rfl
    rw [hprovider] at hsourced hcopied
    obtain ⟨answer, hasked, hread, -⟩ := hsourced.asked hforeign
    have hanswered : answer = .ok someInfo.encode := by
      simpa [mirrorTrace, crediting, askingCalls] using hasked
    have hfound := hread someInfo hanswered someInfo_fits
    obtain ⟨count, now, written, hclamped, -, hstored⟩ := hcopied _ hfound
    exact ⟨_, s', hrun, hserved,
      (reputation_of_changed hstored hchanged).trans (congrArg some hclamped)⟩

end Settler

end ComputeExchange
