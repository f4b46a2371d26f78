import StakeLedger.Delegation.Marker

/-!
# Checkpoint Parameters

A transaction counts as final once enough blocks stand on top of it. The block it is in counts as
its first confirmation.
-/

namespace StakeLedger

/-- When a Bitcoin transaction counts as final, and when a checkpoint does. -/
structure CheckpointParams where
  /-- The number of confirmations a transaction needs, the block it is in being the first. -/
  confirmationDepth : UInt64
  /-- The number of blocks after which a checkpoint is final. -/
  finalizationTimeout : UInt64
  deriving DecidableEq

namespace CheckpointParams

instance : Inhabited CheckpointParams := ⟨⟨10, 300⟩⟩

/-- A transaction included at the height `inclusion` is deep enough when the chain ends at `tip`: it
has `tip - inclusion + 1` confirmations. -/
def IsConfirmed (c : CheckpointParams) (inclusion tip : Height) : Prop :=
  inclusion ≤ tip ∧ c.confirmationDepth ≤ tip - inclusion + 1

instance (c : CheckpointParams) (inclusion tip : Height) :
    Decidable (c.IsConfirmed inclusion tip) :=
  inferInstanceAs (Decidable (_ ∧ _))

end CheckpointParams

end StakeLedger
