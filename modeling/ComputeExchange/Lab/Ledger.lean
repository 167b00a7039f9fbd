import ComputeExchange.Settlement.Ledger

/-!
# Ledgers on demand

The escrow of jobs and the counts of providers, with outcomes that are set beforehand.
-/

namespace ComputeExchange.Lab

/-- What crediting a provider comes to. -/
structure LedgerOutcome where
  /-- The text of a failure. -/
  failure : Option String
  isReverted : Bool
  /-- The count after it, one more than before if it is not given. -/
  count : Option UInt64
  block : Option UInt64
  /-- Whether the receipt does not tell the count. -/
  isSilent : Bool

/-- Nothing special. -/
def LedgerOutcome.plain : LedgerOutcome := ⟨none, false, none, none, false⟩

/-- The ledgers. -/
structure ScriptedLedger where
  escrows : List (Word × Address)
  isUnreachable : Bool
  areCountsFailing : Bool
  outcomes : List LedgerOutcome
  counts : List (Address × UInt64)
  /-- How many submissions there have been. -/
  submitted : Nat
  trace : List String
  deriving Inhabited

namespace ScriptedLedger

/-- Ledgers that know nothing. -/
def empty : ScriptedLedger := ⟨[], false, false, [], [], 0, []⟩

/-- Puts a job into escrow for a provider. -/
def escrow (l : ScriptedLedger) (job : Word) (provider : Address) : ScriptedLedger :=
  { l with escrows := (job, provider) :: l.escrows }

/-- The provider of a job. -/
def provider (l : ScriptedLedger) (job : Word) : Except Cause Address :=
  if l.isUnreachable then
    .error ((Cause.ofText "connection refused").within "payment rpc unreachable")
  else .ok ((l.escrows.lookup job).getD (Bytes.zero 20))

/-- The count of a provider. -/
def count (l : ScriptedLedger) (provider : Address) : UInt64 := (l.counts.lookup provider).getD 0

/-- The count of a provider, unless reading it fails. -/
def readCount (l : ScriptedLedger) (provider : Address) : Except Cause UInt64 :=
  if l.areCountsFailing then .error (Cause.ofText "reputation rpc unreachable")
  else .ok (l.count provider)

/-- A submission begins: its number and its outcome to come. -/
def beginIncrement (l : ScriptedLedger) (provider : Address) :
    (Nat × LedgerOutcome) × ScriptedLedger :=
  ((l.submitted + 1, l.outcomes.head?.getD .plain),
    { l with
      submitted := l.submitted + 1
      outcomes := l.outcomes.drop 1
      trace := l.trace ++ [s!"begin {provider.checksummed}"] })

/-- A submission ends. -/
def endIncrement (l : ScriptedLedger) (provider : Address) (number : Nat)
    (outcome : LedgerOutcome) : Except Cause SettlementReceipt × ScriptedLedger :=
  let l := { l with trace := l.trace ++ [s!"end {provider.checksummed}"] }
  match outcome.failure with
  | some text => (.error (Cause.ofText text), l)
  | none =>
    if outcome.isReverted then (.ok ⟨s!"0xreverted{number}", some 100, false, none⟩, l)
    else
      let count := outcome.count.getD (Clamp.add (l.count provider) 1)
      (.ok ⟨s!"0xinc{number}", outcome.block, true, if outcome.isSilent then none else some count⟩,
        { l with counts := (provider, count) :: l.counts })

end ScriptedLedger

end ComputeExchange.Lab
