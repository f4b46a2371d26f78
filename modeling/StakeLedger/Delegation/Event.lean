import StakeLedger.Delegation.Record
import StakeLedger.Delegation.Transition

/-!
# Chain Events

An event either shows a new stake or is an observation about a delegation that is already known. An
observation asks for exactly one kind of transition.
-/

namespace StakeLedger

/-- Something seen about a known delegation, with the data that its transition records. -/
inductive Observation where
  /-- The covenant committee reached its quorum. -/
  | covenantQuorumReached
  /-- The stake is included at `inclusionHeight` while the chain ends at `tipHeight`. -/
  | inclusionProofConfirmed (inclusionHeight tipHeight : Height)
  /-- A transaction that unbonds the stake was seen at `observedHeight`. -/
  | unbondingTxObserved (observedHeight : Height)
  /-- The unbonding transaction is confirmed. -/
  | unbondingTxConfirmed
  /-- The timelock of the spending path `path` ran out. -/
  | timelockExpired (path : SubState)
  /-- The stake was withdrawn. -/
  | withdrawalTxObserved
  /-- The stake was slashed by `transaction` at `spendHeight`. -/
  | slashingTxObserved (transaction : Transaction) (spendHeight : Height)
  deriving DecidableEq

/-- The kind of transition an observation asks for, which forgets the heights and the
transaction. -/
def Observation.kind : Observation → TransitionKind
  | covenantQuorumReached => .covenantQuorumReached
  | inclusionProofConfirmed _ _ => .inclusionProofConfirmed
  | unbondingTxObserved _ => .unbondingTxObserved
  | unbondingTxConfirmed => .unbondingTxConfirmed
  | timelockExpired path => .timelockExpired path
  | withdrawalTxObserved => .withdrawalTxObserved
  | slashingTxObserved _ _ => .slashingTxObserved

/-- An event about one delegation: a new stake, or an `Observation` of a known delegation. -/
inductive Event where
  /-- A staking transaction was seen for the first time. -/
  | newStake (stake : Stake)
  /-- Something was seen about a known delegation, which is named by its transaction. -/
  | observed (delegation : Txid) (observation : Observation)
  deriving DecidableEq

namespace Event

/-- The delegation an event is about. -/
def txid : Event → Txid
  | newStake stake => stake.txid
  | observed delegation _ => delegation

/-- The kind of transition an event asks for; `newStake` asks for none. -/
def kind? : Event → Option TransitionKind
  | newStake _ => none
  | observed _ observation => some observation.kind

end Event

end StakeLedger
