import StakeLedger.Delegation.Event
import StakeLedger.Lifecycle.Error
import StakeLedger.Params.Registry
import StakeLedger.Store.Program

/-!
# Applying Events

An event is applied by reading the delegation, checking the transition against the state just read
and writing the new state on the condition that the delegation is still in that state. Nothing is
kept between events, so writers race on the condition: the first one wins, and the others are told
the state they lost to.

Duplicate and late events are rejected, which is an outcome and not a failure.
-/

namespace StakeLedger

/-- What became of an event: it was applied, or the delegation was in a state that it does not
fit. -/
inductive Outcome where
  /-- The event took the delegation from `origin` to `target`, with the sub state that the record
  has now and the timelock that was opened. A new delegation has no state before it. -/
  | applied (txid : Txid) (origin : Option State) (target : State) (subState : Option SubState)
      (timelock : Option Marker)
  /-- The delegation is in the state `current`, which the event does not fit. A repeated creation
  asks for no kind of transition. -/
  | rejected (txid : Txid) (attempted : Option TransitionKind) (current : Option State)
  deriving DecidableEq

/-- Whether the event was applied, so that its delegation is in a new state. -/
def Outcome.isApplied : Outcome → Bool
  | applied _ _ _ _ _ => true
  | rejected _ _ _ => false

namespace Program

variable {α : Type}

/-- Makes the request `r` and goes on with its answer; a store failure ends the program. -/
def request (r : Request) (next : r.Answer → Program (Except TrackingError α)) :
    Program (Except TrackingError α) :=
  call r fun
    | .error e => done (.error (.store e))
    | .ok a => next a

/-- Ends a program with the failure `e`. -/
def fail (e : TrackingError) : Program (Except TrackingError α) := done (.error e)

end Program

/-- The height `height + blocks` at which a timelock ends, or a failure if there is no such
height. -/
def timelockEnd (txid : Txid) (height : Height) (blocks : Blocks) : Except TrackingError Height :=
  if height.toNat + blocks.toNat < UInt64.size then .ok (height + blocks.toUInt64)
  else .error (.heightOverflow txid height blocks)

/-- The write of a transition that records nothing else, on the condition that the delegation is
still in the state `t.origin`. -/
def Transition.update (t : Transition) : StateUpdate where
  origins := [t.origin]
  target := t.target
  subState := t.subState
  startHeight := none
  timelock := none
  slashing := none

/-- The write that an observation asks for when the transition `t` out of the state read is allowed.
Only inclusion, unbonding and slashing record more than the state. -/
def plannedUpdate (checkpoint : CheckpointParams) (d : Delegation) (t : Transition) :
    Observation → Except TrackingError StateUpdate
  | .inclusionProofConfirmed inclusion tip =>
    if checkpoint.IsConfirmed inclusion tip then do
      let height ← timelockEnd d.txid inclusion d.stake.stakingTime
      return { t.update with
        startHeight := some inclusion
        timelock := some ⟨height, d.txid, .timelock⟩ }
    else .error (.insufficientConfirmations d.txid inclusion tip checkpoint.confirmationDepth)
  | .unbondingTxObserved observed => do
    let height ← timelockEnd d.txid observed d.stake.unbondingTime
    return { t.update with timelock := some ⟨height, d.txid, .earlyUnbonding⟩ }
  | .slashingTxObserved transaction spendHeight =>
    -- once unbonding was observed, the stake sits in the unbonding output
    let output := if t.origin = .unbonding then .unbonding else .staking
    .ok { t.update with slashing := some { output, transaction, spendHeight } }
  | .covenantQuorumReached | .unbondingTxConfirmed | .timelockExpired _ | .withdrawalTxObserved =>
    .ok t.update

namespace Registry

/-- Moves a delegation that was read as `d`: plans the write and makes it on the condition that the
delegation is still in the state `d.state`. -/
def transition (registry : Registry) (d : Delegation) (observation : Observation) :
    Program (Except TrackingError Outcome) :=
  match observation.kind.fromState d.state with
  -- a state that does not fit is an outcome, and nothing was asked of the store
  | .error _ => .done (.ok (.rejected d.txid (some observation.kind) (some d.state)))
  | .ok t =>
    match plannedUpdate registry.checkpoint d t observation with
    | .error e => .fail e
    | .ok update =>
      .request (.updateState d.txid update) fun
        | .applied =>
          .done (.ok (.applied d.txid (some t.origin) t.target (t.subState.or d.subState)
            update.timelock))
        | .preconditionFailed =>
          -- another writer was first: report the state it left
          .request (.getDelegation d.txid) fun current =>
            .done (.ok (.rejected d.txid (some observation.kind) (current.map (·.state))))

/-- Creates the delegation of a new stake whose version is registered and whose terms are within its
bounds. -/
def create (registry : Registry) (stake : Stake) : Program (Except TrackingError Outcome) :=
  match registry.staking? stake.paramsVersion with
  | none => .fail (.unknownParamsVersion stake.txid stake.paramsVersion)
  | some params =>
    match params.checkTerms stake with
    | .error violation => .fail (.invalidStakingTerms stake.txid violation)
    | .ok () =>
      .request (.saveDelegation (.ofStake stake)) fun
        | .inserted => .done (.ok (.applied stake.txid none .pending none none))
        | .alreadyExists =>
          -- the record in the way may have moved on since: report the state it is in
          .request (.getDelegation stake.txid) fun current =>
            .done (.ok (.rejected stake.txid none (current.map (·.state))))

/-- Applies an event to the delegation it is about, which has to be known unless the event is a
`newStake`. -/
def apply (registry : Registry) : Event → Program (Except TrackingError Outcome)
  | .newStake stake => registry.create stake
  | .observed txid observation =>
    .request (.getDelegation txid) fun
      | none => .fail (.delegationNotFound txid)
      | some d => registry.transition d observation

end Registry

end StakeLedger
