import StakeLedger.Bitcoin.Amount
import StakeLedger.Bitcoin.Txid

/-!
# Transactions

A transaction spends outputs of earlier transactions and makes new ones. Scripts and witnesses are
kept as bytes.
-/

namespace StakeLedger

/-- A reference to an output of an earlier transaction: the output at position `index` in `txid`. -/
structure OutPoint where
  txid : Txid
  index : UInt32
  deriving DecidableEq

/-- An output being spent, with the `script` and the `witness` that unlock it. -/
structure TxInput where
  previousOutput : OutPoint
  script : List UInt8
  sequence : UInt32
  witness : List (List UInt8)
  deriving DecidableEq

/-- An output being made, which `script` locks. -/
structure TxOutput where
  value : Amount
  script : List UInt8
  deriving DecidableEq

/-- A Bitcoin transaction, which spends `inputs` and makes `outputs`. -/
structure Transaction where
  version : Int32
  lockTime : UInt32
  inputs : List TxInput
  outputs : List TxOutput
  deriving DecidableEq

end StakeLedger
