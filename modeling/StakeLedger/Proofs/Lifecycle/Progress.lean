import StakeLedger.Lifecycle.Apply

/-!
# Progress along the Lifecycle

States have ranks, and every transition leads to a higher one (`TransitionKind.rank_lt_target`). A
record that is looked at again is therefore either further along or, signatures apart, the same
(`Delegation.Advances`). The write of an observation is planned from the record that was read, and
says which timelock opens with it (`plannedUpdate_opens`).
-/

namespace StakeLedger

namespace State

/-- How far a state is along the lifecycle. Both terminal states, `withdrawn` and `slashed`, are at
its end. -/
def rank : State → Nat
  | pending => 0
  | verified => 1
  | active => 2
  | unbonding => 3
  | unbonded => 4
  | withdrawn => 5
  | slashed => 5

theorem rank_le_of_isTerminal {s : State} (h : s.isTerminal) (s' : State) : s'.rank ≤ s.rank := by
  cases s <;> cases h <;> cases s' <;> decide

end State

/-- The state in which a delegation waits for the timelock of a path: `active` for that of the
staking output, `unbonding` for that of the unbonding output. -/
def SubState.awaited : SubState → State
  | timelock => .active
  | earlyUnbonding => .unbonding

namespace TransitionKind

theorem rank_lt_target {kind : TransitionKind} {s : State} (h : s ∈ kind.qualified) :
    s.rank < kind.target.rank := by
  rcases kind with _ | _ | _ | _ | (_ | _) | _ | _ <;>
    simp only [qualified, List.mem_cons, List.not_mem_nil, or_false] at h <;>
    rcases h with rfl | rfl <;> decide

theorem not_mem_qualified {kind : TransitionKind} {s : State} (h : kind.target.rank ≤ s.rank) :
    s ∉ kind.qualified :=
  fun hs => Nat.lt_irrefl _ (Nat.lt_of_lt_of_le (rank_lt_target hs) h)

/-- An allowed transition starts from a qualified state and follows the table. -/
theorem fromState_eq_ok {kind : TransitionKind} {s : State} {t : Transition}
    (h : kind.fromState s = .ok t) :
    s ∈ kind.qualified ∧ t = ⟨s, kind.target, kind.subState s⟩ := by
  simp only [fromState] at h
  split at h
  next hs => exact ⟨hs, (Except.ok.inj h).symm⟩
  next => cases h

/-- A transition is refused only from the states that are not in `kind.qualified`. -/
theorem fromState_eq_error {kind : TransitionKind} {s : State} {r : Rejection}
    (h : kind.fromState s = .error r) : s ∉ kind.qualified := by
  simp only [fromState] at h
  split at h
  next => cases h
  next hs => exact hs

/-- The expiry of a timelock is allowed only from the state that waits for its `path`. -/
theorem qualified_timelockExpired (path : SubState) :
    (timelockExpired path).qualified = [path.awaited] := by
  cases path <;> rfl

end TransitionKind

namespace Delegation

/-- What the record `d` can have become: `d'` is further along, or only signatures were added. -/
structure Advances (d d' : Delegation) : Prop where
  /-- What the staking transaction says stays: `d.stake`. -/
  stake : d'.stake = d.stake
  /-- The record is further along by `State.rank`, or the same apart from its signatures. -/
  state : d.state.rank < d'.state.rank ∨ d' = { d with signatures := d'.signatures }

namespace Advances

theorem refl (d : Delegation) : d.Advances d := ⟨rfl, .inr rfl⟩

theorem rank_le {d d' : Delegation} (h : d.Advances d') : d.state.rank ≤ d'.state.rank := by
  rcases h.state with hlt | heq
  · exact Nat.le_of_lt hlt
  · exact Nat.le_of_eq (by rw [heq])

/-- A record that left its state is further along. -/
theorem rank_lt_of_state_ne {d d' : Delegation} (h : d.Advances d') (hs : d'.state ≠ d.state) :
    d.state.rank < d'.state.rank := by
  rcases h.state with hlt | heq
  · exact hlt
  · exact absurd (congrArg Delegation.state heq) hs

/-- A record that is still in its state differs in `signatures` only. -/
theorem eq_of_state_eq {d d' : Delegation} (h : d.Advances d') (hs : d'.state = d.state) :
    d' = { d with signatures := d'.signatures } := by
  rcases h.state with hlt | heq
  · rw [hs] at hlt
    exact absurd hlt (Nat.lt_irrefl _)
  · exact heq

/-- Progress adds up, from `d` by way of `d'` to `d''`. -/
theorem trans {d d' d'' : Delegation} (h : d.Advances d') (h' : d'.Advances d'') :
    d.Advances d'' where
  stake := h'.stake.trans h.stake
  state := by
    rcases h.state with hlt | heq
    · exact .inl (Nat.lt_of_lt_of_le hlt h'.rank_le)
    -- if the first step only added signatures, the second one decides
    · rcases h'.state with hlt' | heq'
      · rw [heq] at hlt'
        exact .inl hlt'
      · right
        rw [heq', heq]

end Advances

/-- A record advances when its `signatures` are replaced. -/
theorem advances_signatures (d : Delegation) (signatures : SortedMap XOnlyKey Signature) :
    d.Advances { d with signatures } := ⟨rfl, .inr rfl⟩

end Delegation

/-- A record advances with every change of state `u` that leads to a higher rank. -/
theorem StateUpdate.advances_applyTo {u : StateUpdate} {d : Delegation}
    (h : d.state.rank < u.target.rank) : d.Advances (u.applyTo d) := ⟨rfl, .inl h⟩

/-- The end `stop` of a timelock is the exact sum of its start and its length. -/
theorem toNat_of_timelockEnd {txid : Txid} {height stop : Height} {blocks : Blocks}
    (h : timelockEnd txid height blocks = .ok stop) :
    stop.toNat = height.toNat + blocks.toNat := by
  simp only [timelockEnd] at h
  split at h
  next hlt =>
    obtain rfl := Except.ok.inj h
    rw [UInt64.toNat_add, UInt32.toNat_toUInt64]
    exact Nat.mod_eq_of_lt hlt
  next => cases h

/-- The write `u` planned for an observation: it is `t.update` with a start and a timelock for an
inclusion, with a timelock for an unbonding, with the slashing for a slashing, and alone for any
other one. -/
theorem plannedUpdate_cases {checkpoint : CheckpointParams} {d : Delegation} {t : Transition}
    {o : Observation} {u : StateUpdate} (h : plannedUpdate checkpoint d t o = .ok u) :
    (∃ inclusion tip stop, o = .inclusionProofConfirmed inclusion tip ∧
      timelockEnd d.txid inclusion d.stake.stakingTime = .ok stop ∧
      u = { t.update with
        startHeight := some inclusion, timelock := some ⟨stop, d.txid, .timelock⟩ }) ∨
    (∃ observed stop, o = .unbondingTxObserved observed ∧
      timelockEnd d.txid observed d.stake.unbondingTime = .ok stop ∧
      u = { t.update with timelock := some ⟨stop, d.txid, .earlyUnbonding⟩ }) ∨
    ((∀ path : SubState, o.kind.target ≠ path.awaited) ∧
      ∃ slashing, u = { t.update with slashing }) := by
  cases o with
  | inclusionProofConfirmed inclusion tip =>
    simp only [plannedUpdate] at h
    split at h
    next =>
      cases hend : timelockEnd d.txid inclusion d.stake.stakingTime with
      | error e => rw [hend] at h; cases h
      | ok stop =>
        rw [hend] at h
        exact .inl ⟨inclusion, tip, stop, rfl, hend, (Except.ok.inj h).symm⟩
    next => cases h
  | unbondingTxObserved observed =>
    simp only [plannedUpdate] at h
    cases hend : timelockEnd d.txid observed d.stake.unbondingTime with
    | error e => rw [hend] at h; cases h
    | ok stop =>
      rw [hend] at h
      exact .inr (.inl ⟨observed, stop, rfl, hend, (Except.ok.inj h).symm⟩)
  -- the targets of the others are not awaited by any path
  | slashingTxObserved transaction spendHeight =>
    refine .inr (.inr ⟨fun path => ?_, _, (Except.ok.inj h).symm⟩)
    cases path <;> nofun
  | covenantQuorumReached | unbondingTxConfirmed | timelockExpired _ | withdrawalTxObserved =>
    refine .inr (.inr ⟨fun path => ?_, none, (Except.ok.inj h).symm⟩)
    cases path <;> nofun

/-- Whatever is planned is written on the condition that the delegation is still in the state
`t.origin`, from which the transition starts. -/
theorem plannedUpdate_move {checkpoint : CheckpointParams} {d : Delegation} {t : Transition}
    {o : Observation} {u : StateUpdate} (h : plannedUpdate checkpoint d t o = .ok u) :
    u.origins = [t.origin] ∧ u.target = t.target ∧ u.subState = t.subState := by
  rcases plannedUpdate_cases h with ⟨_, _, _, _, _, rfl⟩ | ⟨_, _, _, _, rfl⟩ | ⟨_, _, rfl⟩ <;>
    exact ⟨rfl, rfl, rfl⟩

/-- A planned write opens the timelock of the path that its target waits for, and no other. Only the
write that leads to the active state records a start, from which the timelock runs. -/
theorem plannedUpdate_opens {checkpoint : CheckpointParams} {d : Delegation} {t : Transition}
    {o : Observation} {u : StateUpdate} (ht : t.target = o.kind.target)
    (h : plannedUpdate checkpoint d t o = .ok u) :
    (u.timelock = none ∧ u.startHeight = none ∧ ∀ path : SubState, u.target ≠ path.awaited) ∨
    ∃ m, u.timelock = some m ∧ m.txid = d.txid ∧ u.target = m.subState.awaited ∧
      match m.subState with
      | .timelock => ∃ start, u.startHeight = some start ∧
          m.expireHeight.toNat = start.toNat + d.stake.stakingTime.toNat
      | .earlyUnbonding => u.startHeight = none := by
  rcases plannedUpdate_cases h with ⟨inclusion, tip, stop, rfl, hend, rfl⟩ |
    ⟨observed, stop, rfl, hend, rfl⟩ | ⟨hpath, slashing, rfl⟩
  · exact .inr ⟨_, rfl, rfl, ht, inclusion, rfl, toNat_of_timelockEnd hend⟩
  · exact .inr ⟨_, rfl, rfl, ht, rfl⟩
  · refine .inl ⟨rfl, rfl, fun path => ?_⟩
    rw [← ht] at hpath
    exact hpath path

/-- What a plan depends on is the `stake`, and not what has been collected since. -/
theorem plannedUpdate_congr {d d' : Delegation} (h : d'.stake = d.stake)
    (checkpoint : CheckpointParams) (t : Transition) (o : Observation) :
    plannedUpdate checkpoint d' t o = plannedUpdate checkpoint d t o := by
  cases o <;> simp only [plannedUpdate, Delegation.txid, h]

end StakeLedger
