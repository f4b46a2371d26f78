import StakeLedger.Delegation.State

/-!
# The Transition Table

Each kind of transition names the states it may start from, the one state it leads to and the sub
state it sets, if any. A kind is refused from every other state. No kind leads back to a state that
a delegation can have left, so that a lifecycle never revisits a state.
-/

namespace StakeLedger

/-- What moves a delegation from one state to another: the kinds of `Observation`, without their
data. The functions `qualified`, `target` and `subState` give the row of a kind in the table of
transitions. -/
inductive TransitionKind where
  | covenantQuorumReached
  | inclusionProofConfirmed
  | unbondingTxObserved
  | unbondingTxConfirmed
  /-- The timelock of the spending path `path` ran out. -/
  | timelockExpired (path : SubState)
  | withdrawalTxObserved
  | slashingTxObserved
  deriving DecidableEq, Repr

/-- A move between two states, from `origin` to `target`. -/
structure Transition where
  origin : State
  target : State
  /-- The sub state it sets; `none` keeps the one there is. -/
  subState : Option SubState
  deriving DecidableEq, Repr

/-- A transition of the given `kind` that is not allowed from the state `current`. -/
structure Rejection where
  kind : TransitionKind
  current : State
  deriving DecidableEq, Repr

namespace TransitionKind

/-- The states a transition of a kind may start from. None of them can be reached again from
`target`. -/
def qualified : TransitionKind → List State
  | covenantQuorumReached => [.pending]
  | inclusionProofConfirmed => [.verified, .pending]
  | unbondingTxObserved => [.active]
  | unbondingTxConfirmed => [.unbonding]
  | timelockExpired .timelock => [.active]
  | timelockExpired .earlyUnbonding => [.unbonding]
  | withdrawalTxObserved => [.unbonded, .active]
  | slashingTxObserved => [.active, .unbonding]

/-- The one state a transition of a kind leads to. -/
def target : TransitionKind → State
  | covenantQuorumReached => .verified
  | inclusionProofConfirmed => .active
  | unbondingTxObserved => .unbonding
  | unbondingTxConfirmed => .unbonded
  | timelockExpired _ => .unbonded
  | withdrawalTxObserved => .withdrawn
  | slashingTxObserved => .slashed

/-- The sub state set by a transition out of `origin`; `none` keeps the one there is. A withdrawal
of a stake that was never marked as unbonded has used the timelock path. -/
def subState (kind : TransitionKind) (origin : State) : Option SubState :=
  match kind, origin with
  | unbondingTxConfirmed, _ => some .earlyUnbonding
  | timelockExpired path, _ => some path
  | withdrawalTxObserved, .active => some .timelock
  | _, _ => none

/-- The move out of the state `current`, or its refusal if `current` is not among
`kind.qualified`. -/
def fromState (kind : TransitionKind) (current : State) : Except Rejection Transition :=
  if current ∈ kind.qualified then
    .ok ⟨current, kind.target, kind.subState current⟩
  else
    .error ⟨kind, current⟩

/-- The name of a kind in messages; that of an expiry has the name of its path. -/
def text : TransitionKind → String
  | covenantQuorumReached => "covenant-quorum-reached"
  | inclusionProofConfirmed => "inclusion-proof-confirmed"
  | unbondingTxObserved => "unbonding-tx-observed"
  | unbondingTxConfirmed => "unbonding-tx-confirmed"
  | timelockExpired path => s!"timelock-expired({path.name})"
  | withdrawalTxObserved => "withdrawal-tx-observed"
  | slashingTxObserved => "slashing-tx-observed"

end TransitionKind

/-- The text shown for a refused transition, with the kind and the state it was refused from. -/
def Rejection.message (r : Rejection) : String :=
  s!"{r.kind.text} is not allowed from {r.current.name}"

/-- Applies kinds in turn from `state`, leaving the state as it is where one is refused. -/
def State.path (state : State) : List TransitionKind → List (Except Rejection Transition)
  | [] => []
  | kind :: rest =>
    match kind.fromState state with
    | .ok t => .ok t :: t.target.path rest
    | .error r => .error r :: state.path rest

end StakeLedger
