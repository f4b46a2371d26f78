import StakeLedger.Proofs.Lifecycle.Conduct

/-!
# Rejections

An event is rejected with the state the delegation is in. Where it is rejected from the state that
was read, that state does not fit the event. Where another writer was first, the state is the one
this writer left, and the event may still fit it: a kind that is allowed from two states is rejected
although it is still allowed if the delegation moved from the first of them to the second in
between.

The main statement is `rejected_qualified_iff`, which says that these are the only rejections of
that sort.
-/

namespace StakeLedger

/-- A delegation was read in a state that a kind of transition is allowed from, and was moved on by
another writer to a state that the kind is allowed from as well. -/
inductive IsOvertaken : TransitionKind → State → State → Prop where
  /-- The committee reached its quorum while an inclusion was looked at in `pending`. -/
  | quorum : IsOvertaken .inclusionProofConfirmed .pending .verified
  /-- The delegation was unbonded while a withdrawal was looked at in `active`. -/
  | unbonded : IsOvertaken .withdrawalTxObserved .active .unbonded
  /-- The delegation started to unbond while a slashing was looked at in `active`. -/
  | unbonding : IsOvertaken .slashingTxObserved .active .unbonding

/-- The triples of `IsOvertaken` are those of a `kind` and two states that it is allowed from, where
one of them comes after the other. -/
theorem isOvertaken_iff {kind : TransitionKind} {seen state : State} :
    IsOvertaken kind seen state ↔
      seen ∈ kind.qualified ∧ state ∈ kind.qualified ∧ seen.rank < state.rank := by
  constructor
  · intro h
    cases h <;> decide
  · rintro ⟨hseen, hstate, hlt⟩
    rcases kind with _ | _ | _ | _ | (_ | _) | _ | _ <;>
      simp only [TransitionKind.qualified, List.mem_cons, List.not_mem_nil, or_false]
        at hseen hstate <;>
      rcases hseen with rfl | rfl <;> rcases hstate with rfl | rfl <;>
      first | exact absurd hlt (by decide) | constructor

/-- Whatever calls run side by side over an initially empty memory store: where `event` was rejected
as one that attempted a transition of `kind`, the call has read the delegation first, as `seen`, and
the `state` it reports fits the event exactly if the delegation was overtaken since. -/
theorem rejected_qualified_iff {registry : Registry} {schedule : List (Action Call)} {i : Nat}
    {event : Event} {txid : Txid} {kind : TransitionKind} {state : State}
    (h : (registry.workload.run .empty schedule).threads[i]? = some ⟨.apply event,
      some (.done (.applied (.ok (.rejected txid (some kind) (some state)))))⟩) :
    event.txid = txid ∧ event.kind? = some kind ∧
    ∃ seen rest, (registry.workload.run .empty schedule).log i =
        ⟨.getDelegation txid, .ok (some seen)⟩ :: rest ∧
      (state ∈ kind.qualified ↔ IsOvertaken kind seen.state state) := by
  have hsound := Workload.run_keeps (w := registry.workload) (D := registry.lifecycle)
    registry.keeps_program MemoryStore.coherent_empty schedule
  have hconcluded := hsound.keeps i _ _ h rfl _ (MemoryStore.Later.refl _) hsound.invariant
  cases event with
  -- a new stake attempts no transition
  | newStake stake => exact absurd (hconcluded _ _ _ rfl) nofun
  | observed txid' o =>
    obtain ⟨seen, rest, hlog, rfl, hkind, state', d, hstate, -, -, hcase⟩ := hconcluded _ rfl
    obtain rfl := Option.some.inj hkind
    obtain rfl := Option.some.inj hstate
    refine ⟨rfl, rfl, seen, rest, hlog, ?_⟩
    rw [isOvertaken_iff]
    rcases hcase with ⟨hseen, rfl⟩ | ⟨hseen, hlt⟩
    -- the state that was read does not fit the event
    · exact ⟨fun hq => absurd hq hseen, fun hq => absurd hq.1 hseen⟩
    -- another writer has moved the delegation to a higher rank
    · exact ⟨fun hq => ⟨hseen, hq, hlt⟩, fun hq => hq.2.1⟩

/-! ## Overtaken Calls -/

/-- A key of which all parties of a small ledger make use. -/
def loneKey : XOnlyKey := ⟨1, by decide +kernel⟩

/-- Parameters with `loneKey` as their committee, which admit any stake up to an amount of `100`. -/
def loneParams : StakingParams where
  version := 0
  committee := [loneKey]
  quorum := 1
  leastAmount := ⟨0⟩
  mostAmount := ⟨100⟩
  leastStakingTime := 0
  mostStakingTime := 100
  leastUnbondingTime := 0

/-- The registry of `loneParams`, with a checkpoint depth of one block. -/
def loneRegistry : Registry := (Registry.empty ⟨1, 1⟩).add loneParams (by decide +kernel)

/-- A stake that `loneParams` admit, with a staking time of ten blocks and an unbonding time of
five. -/
def loneStake : Stake where
  txid := ⟨0⟩
  staker := loneKey
  providers := .empty
  amount := ⟨10⟩
  stakingTime := 10
  unbondingTime := 5
  paramsVersion := 0

/-- The call of number `i` observes `o` about the delegation `⟨0⟩`, and is served until it has read
the delegation and written. -/
def observing (i : Nat) (o : Observation) : List (Action Call) :=
  [.start (.apply (.observed ⟨0⟩ o)), .serve i, .serve i]

/-- The delegation of `loneStake` is created. -/
def created : List (Action Call) := [.start (.apply (.newStake loneStake)), .serve 0]

/-- The delegation of `loneStake` is created and its inclusion applied. -/
def included : List (Action Call) := created ++ observing 1 (.inclusionProofConfirmed 7 7)

/-- After `before`, the call of number `i` observes `o` and reads the delegation. Before it goes on
to write, it is overtaken by the calls `others`. -/
def overtaken (before : List (Action Call)) (i : Nat) (o : Observation)
    (others : List (Action Call)) : List (Action Call) :=
  before ++ [.start (.apply (.observed ⟨0⟩ o)), .serve i] ++ others ++ [.serve i, .serve i]

/-- The quorum of a pending stake is reached after the inclusion was looked at. -/
def overtakenInclusion : List (Action Call) :=
  overtaken created 1 (.inclusionProofConfirmed 7 7) (observing 2 .covenantQuorumReached)

/-- An active stake is unbonded after the withdrawal was looked at. -/
def overtakenWithdrawal : List (Action Call) :=
  overtaken included 2 .withdrawalTxObserved
    (observing 3 (.unbondingTxObserved 8) ++ observing 4 .unbondingTxConfirmed)

/-- An active stake starts to unbond after the slashing was looked at. -/
def overtakenSlashing : List (Action Call) :=
  overtaken included 2 (.slashingTxObserved ⟨2, 0, [], []⟩ 9) (observing 3 (.unbondingTxObserved 8))

/-- In the run of `schedule`, the call of number `i` observed `o` and is rejected from `state`,
although `state` is one that the kind of `o` is allowed from. -/
structure IsRejectedQualified (schedule : List (Action Call)) (i : Nat) (o : Observation)
    (state : State) : Prop where
  /-- The call has returned, and reports `state`. -/
  rejected : (loneRegistry.workload.run .empty schedule).threads[i]? =
    some ⟨.apply (.observed ⟨0⟩ o),
      some (.done (.applied (.ok (.rejected ⟨0⟩ (some o.kind) (some state)))))⟩
  /-- The event still fits `state`. -/
  qualified : state ∈ o.kind.qualified
  /-- The call has read the delegation as `seen`, in an earlier state. -/
  overtaken : ∃ seen rest, (loneRegistry.workload.run .empty schedule).log i =
      ⟨.getDelegation ⟨0⟩, .ok (some seen)⟩ :: rest ∧ IsOvertaken o.kind seen.state state

/-- Each of the three cases of `IsOvertaken` has a run, in which the call is rejected from a state
that it is allowed from. -/
theorem overtaking_rejected :
    IsRejectedQualified overtakenInclusion 1 (.inclusionProofConfirmed 7 7) .verified ∧
    IsRejectedQualified overtakenWithdrawal 2 .withdrawalTxObserved .unbonded ∧
    IsRejectedQualified overtakenSlashing 2 (.slashingTxObserved ⟨2, 0, [], []⟩ 9) .unbonding := by
  -- the end of the call is computed, and the theorem says how it came to it
  have hrun : ∀ {schedule i o state}, (loneRegistry.workload.run .empty schedule).threads[i]? =
      some ⟨.apply (.observed ⟨0⟩ o),
        some (.done (.applied (.ok (.rejected ⟨0⟩ (some o.kind) (some state)))))⟩ →
      state ∈ o.kind.qualified → IsRejectedQualified schedule i o state := by
    intro schedule i o state hthread hqualified
    obtain ⟨-, -, seen, rest, hlog, hiff⟩ := rejected_qualified_iff hthread
    exact ⟨hthread, hqualified, seen, rest, hlog, hiff.1 hqualified⟩
  refine ⟨hrun ?_ ?_, hrun ?_ ?_, hrun ?_ ?_⟩
  · rfl
  · decide
  · rfl
  · decide
  · rfl
  · decide

end StakeLedger
