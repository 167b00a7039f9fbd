import ComputeExchange.Chain.Address

/-!
# Log entries

What a contract emits: up to four topics, of which the first tells the kind of event, and data.  An
entry that has been mined has a block and a transaction.
-/

namespace ComputeExchange

/-- A log entry of a contract. -/
structure Log where
  address : Address
  topics : List Word
  data : List UInt8
  block : Option UInt64
  transaction : Option Word
  deriving DecidableEq

namespace Log

/-- The block of an entry, zero if it is not known. -/
def blockNumber (log : Log) : UInt64 := log.block.getD 0

/-- The hash of the transaction of an entry, empty if it is not known. -/
def transactionHash (log : Log) : String := (log.transaction.map Bytes.hex).getD ""

end Log

end ComputeExchange
