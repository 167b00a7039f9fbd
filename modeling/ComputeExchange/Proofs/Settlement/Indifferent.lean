import ComputeExchange.Proofs.Overlooking
import ComputeExchange.Proofs.Settlement.Calls

/-!
# Settlement and the table of providers

The count of the chain is copied into the row of a provider, and that is all a settler has to do
with the store: nothing that the store does, or fails to do, can be seen in what a settlement comes
to, or in what is called on the ledgers then and later.

The copy shows nothing and tells nothing (`overlooks_copy`), all other calls but those on the lock
are calls on the ledgers, and so a settlement overlooks the store.  Requests that are served one
after another do so too, which is `same_on_ledgers`.
-/

namespace ComputeExchange

/-- What a settler may be asked to do: to settle the confirmation of a job, or to handle one that
has been found on the chain. -/
inductive SettlementRequest : Type where
  | settle (job : Word)
  | handle (event : JobConfirmation)

/-- What comes of a request. -/
abbrev SettlementRequest.Result : SettlementRequest → Type
  | .settle _ => Except SettlementError Settlement
  | .handle _ => Except HandleError Unit

namespace Settler

open Program

/-- Serves a request. -/
def serve : (r : SettlementRequest) → Program SettlementCall.Answer r.Result
  | .settle job => asking.settle job
  | .handle event => asking.handle event

/-- Serves requests one after another, each with what comes of it. -/
def serveAll : List SettlementRequest →
    Program SettlementCall.Answer (List ((r : SettlementRequest) × r.Result))
  | [] => pure []
  | r :: rs => do
    let result ← serve r
    let results ← serveAll rs
    return ⟨r, result⟩ :: results

/-- Whether a call goes to one of the ledgers. -/
def isOnLedger : SettlementCall → Bool
  | .provider _ => true
  | .submit _ => true
  | .receipt _ => true
  | .count _ => true
  | .acquire => false
  | .release => false
  | .clock => false
  | .store _ => false

/-- The wallet and the count that the store is asked to record. -/
def recording : SettlementCall → Option (String × Int64)
  | .store (.recordSettlement wallet count _) => some (wallet, count)
  | _ => none

/-! ### The parts -/

/-- Copying a count makes no call on a ledger, asks the store to record that count, and tells
nothing of how it went. -/
lemma overlooks_copy (provider : Address) (count : UInt64) :
    Overlooks isOnLedger recording (asking.copy provider count) := by
  refine overlooks_of_hidden [(provider.checksummed, Clamp.signedOfWord count)] fun t _ hrun => ?_
  obtain ⟨t₁, now, t₂, rfl, hclock, hrest⟩ := runs_bind.mp hrun
  obtain ⟨t₃, answer, t₄, rfl, hstore, hend⟩ := runs_bind.mp hrest
  obtain rfl := runs_ask.mp hclock
  obtain rfl := runs_ask.mp hstore
  obtain ⟨rfl, -⟩ := runs_pure.mp hend
  exact ⟨by simp [isOnLedger], fun _ => Iff.rfl⟩

/-- Only the count that is read, if none was reported, comes from a ledger. -/
lemma overlooks_reflect (provider : Address) (reported : Option UInt64) :
    Overlooks isOnLedger recording (asking.reflect provider reported) := by
  cases reported with
  | some count => exact overlooks_copy provider count
  | none =>
    refine (overlooks_ask rfl).bind fun answer => ?_
    cases answer with
    | error cause => exact overlooks_pure ()
    | ok count => exact overlooks_copy provider count

/-- A submission is made on a ledger, under the lock. -/
lemma overlooks_submit (provider : Address) :
    Overlooks isOnLedger recording (asking.submit provider) := by
  have hincrement : Overlooks isOnLedger recording (asking.reputation.increment provider) :=
    (overlooks_ask rfl).bind fun _ => overlooks_ask rfl
  refine (overlooks_ask_hidden rfl).bind fun _ => hincrement.bind fun receipt => ?_
  exact (overlooks_ask_hidden rfl).bind fun _ => overlooks_pure receipt

/-- A settlement overlooks the store. -/
lemma overlooks_settle (job : Word) : Overlooks isOnLedger recording (asking.settle job) := by
  refine (overlooks_ask rfl).bind fun resolved => ?_
  cases resolved with
  | error cause => exact overlooks_pure _
  | ok provider =>
    dsimp only
    split_ifs with hzero
    · exact overlooks_pure _
    · refine (overlooks_submit provider).bind fun outcome => ?_
      cases outcome with
      | error cause => exact overlooks_pure _
      | ok receipt =>
        dsimp only
        split_ifs with hsuccess
        · exact (overlooks_reflect provider receipt.newCount).bind fun _ => overlooks_pure _
        · exact overlooks_pure _

/-- Whatever it is asked, a settler overlooks the store. -/
lemma overlooks_serve (r : SettlementRequest) : Overlooks isOnLedger recording (serve r) := by
  cases r with
  | settle job => exact overlooks_settle job
  | handle event =>
    refine (overlooks_settle event.jobId).bind fun result => ?_
    cases result with
    | ok settlement => exact overlooks_pure _
    | error e => exact overlooks_pure _

/-- Requests that are served one after another overlook the store, all of them. -/
lemma overlooks_serveAll (rs : List SettlementRequest) :
    Overlooks isOnLedger recording (serveAll rs) := by
  induction rs with
  | nil => exact overlooks_pure []
  | cons r rs ih =>
    exact (overlooks_serve r).bind fun result => ih.bind fun results => overlooks_pure _

/-! ### Two runs -/

/-- Requests can be served to the end whatever the ledgers answer to the calls on them, and whatever
the store, the clock and the lock do besides.  And however much the store differs, the same ledgers
see the same calls in the same order, every request comes to the same, and the store is asked to
record the same counts. -/
theorem same_on_ledgers (rs : List SettlementRequest)
    (ledgers : SettlementTrace → (q : SettlementCall) → q.Answer) :
    (∀ surroundings : SettlementTrace → (q : SettlementCall) → q.Answer,
      ∃ t results, Runs (serveAll rs) t results ∧ AnsweredBy ledgers (shown isOnLedger t) ∧
        ∀ before q x after, t = before ++ ⟨q, x⟩ :: after → isOnLedger q = false →
          x = surroundings before q) ∧
    ∀ t t' results results', Runs (serveAll rs) t results → Runs (serveAll rs) t' results' →
      AnsweredBy ledgers (shown isOnLedger t) → AnsweredBy ledgers (shown isOnLedger t') →
        shown isOnLedger t = shown isOnLedger t' ∧
          (∀ v, v ∈ marked recording t ↔ v ∈ marked recording t') ∧ results = results' :=
  ⟨fun surroundings => exists_runs_amid isOnLedger (serveAll rs) ledgers surroundings,
    fun _ _ _ _ hrun hrun' hanswers hanswers' =>
      overlooks_serveAll rs hrun hrun' hanswers hanswers'⟩

/-- Ledgers that know one provider, credit it, and count the credits. -/
def countingLedgers (before : SettlementTrace) : (q : SettlementCall) → q.Answer
  | .provider _ => .ok someProvider
  | .acquire => ()
  | .submit _ => ()
  | .receipt _ => .ok creditReceipt
  | .release => ()
  | .count _ => .ok (UInt64.ofNat (before.filter fun e => e.1 matches .submit _).length)
  | .clock => default
  | .store _ => .error .unavailable

/-- The calls of a settlement that ends well, with the count it reads and the answer of the
store. -/
def creditTrace (count : UInt64) (written : Except StoreError Bool) : SettlementTrace :=
  ⟨.provider default, .ok someProvider⟩ :: submission someProvider (.ok creditReceipt) ++
    [⟨.count someProvider, .ok count⟩, ⟨.clock, default⟩,
      ⟨.store (.recordSettlement someProvider.checksummed (Clamp.signedOfWord count) default),
        written⟩]

/-- Two requests that end well. -/
def twoRequests : List SettlementRequest := [.settle default, .handle default]

/-- What the two requests come to. -/
def twoCredited : List ((r : SettlementRequest) × r.Result) :=
  [⟨.settle default, .ok ⟨Bytes.hex (default : Word), someProvider, creditReceipt⟩⟩,
    ⟨.handle default, .ok ()⟩]

/-- The ledgers cannot tell a store that is out of reach at first from one that has no row for the
provider and is out of reach later. -/
theorem same_on_ledgers_of_outage :
    Runs (serveAll twoRequests)
      (creditTrace 1 (.error .unavailable) ++ creditTrace 2 (.ok true)) twoCredited ∧
    Runs (serveAll twoRequests)
      (creditTrace 1 (.ok false) ++ creditTrace 2 (.error .unavailable)) twoCredited ∧
    AnsweredBy countingLedgers
      (shown isOnLedger (creditTrace 1 (.error .unavailable) ++ creditTrace 2 (.ok true))) ∧
    shown isOnLedger (creditTrace 1 (.error .unavailable) ++ creditTrace 2 (.ok true)) =
      shown isOnLedger (creditTrace 1 (.ok false) ++ creditTrace 2 (.error .unavailable)) := by
  have hruns : ∀ written written', Runs (serveAll twoRequests)
      (creditTrace 1 written ++ creditTrace 2 written') twoCredited := fun written written' =>
    .call _ (.call _ (.call _ (.call _ (.call _ (.call _ (.call _ (.call _ (.call _ (.call _
      (.call _ (.call _ (.call _ (.call _ (.call _ (.call _ (.here _))))))))))))))))
  have hanswers : ∀ written written', AnsweredBy countingLedgers
      (shown isOnLedger (creditTrace 1 written ++ creditTrace 2 written')) := by
    intro written written'
    have hshown : ∀ count written, shown isOnLedger (creditTrace count written) =
        [⟨.provider default, .ok someProvider⟩, ⟨.submit someProvider, ()⟩,
          ⟨.receipt someProvider, .ok creditReceipt⟩, ⟨.count someProvider, .ok count⟩] :=
      fun _ _ => rfl
    simp only [shown_append, hshown, List.cons_append, List.nil_append, answeredBy_cons]
    exact ⟨rfl, trivial, rfl, rfl, rfl, trivial, rfl, rfl, answeredBy_nil _⟩
  obtain ⟨-, hsame⟩ := same_on_ledgers twoRequests countingLedgers
  obtain ⟨hcalls, -⟩ := hsame _ _ _ _ (hruns (.error .unavailable) (.ok true))
    (hruns (.ok false) (.error .unavailable)) (hanswers _ _) (hanswers _ _)
  exact ⟨hruns _ _, hruns _ _, hanswers _ _, hcalls⟩

end Settler

end ComputeExchange
