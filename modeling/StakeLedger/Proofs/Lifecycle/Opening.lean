import StakeLedger.Proofs.Expiry.Interruption
import StakeLedger.Proofs.Lifecycle.Alone

/-!
# Opening Timelocks

An inclusion and an unbonding each open a timelock. Confirmations are counted and the end of a
timelock is computed in words of 64 bits. What comes of it is what counting and adding in integers
give (`CheckpointParams.isConfirmed_iff`, `timelockEnd_cases`), except that the blocks from height
zero to the last height of all are one too many for a word.

The main statement is `timelocks_open_exactly`.
-/

namespace StakeLedger

/-! ## Counting in Integers -/

/-- A transaction included at `inclusion` is deep enough at `tip`, counted in integers:
`tip - inclusion + 1` is no less than `c.confirmationDepth`. -/
def CheckpointParams.IsDeepEnough (c : CheckpointParams) (inclusion tip : Height) : Prop :=
  inclusion.toNat ≤ tip.toNat ∧ (c.confirmationDepth.toNat : Int) ≤ tip.toNat - inclusion.toNat + 1

/-- The blocks from `inclusion` to `tip` are counted right if a word can hold their number, which
`hcount` says. -/
theorem CheckpointParams.isConfirmed_iff {c : CheckpointParams} {inclusion tip : Height}
    (hcount : inclusion ≠ 0 ∨ tip.toNat + 1 < UInt64.size) :
    c.IsConfirmed inclusion tip ↔ c.IsDeepEnough inclusion tip := by
  rw [IsConfirmed, IsDeepEnough, UInt64.le_iff_toNat_le]
  refine and_congr_right fun hle => ?_
  have hblocks : tip.toNat - inclusion.toNat + 1 < UInt64.size := by
    have htip : tip.toNat < UInt64.size := tip.toNat_lt
    rcases hcount with hinclusion | htop
    · have hpos : inclusion.toNat ≠ 0 := fun h => hinclusion (UInt64.toNat_inj.1 h)
      omega
    · omega
  have hsum : (tip - inclusion + 1).toNat = tip.toNat - inclusion.toNat + 1 := by
    rw [UInt64.toNat_add, UInt64.toNat_sub_of_le _ _ (UInt64.le_iff_toNat_le.2 hle)]
    exact Nat.mod_eq_of_lt hblocks
  rw [UInt64.le_iff_toNat_le, hsum]
  omega

/-- What is deep enough stays so while the chain grows from `tip` to `tip'`. -/
theorem CheckpointParams.IsDeepEnough.mono {c : CheckpointParams} {inclusion tip tip' : Height}
    (h : c.IsDeepEnough inclusion tip) (hle : tip ≤ tip') : c.IsDeepEnough inclusion tip' := by
  rw [UInt64.le_iff_toNat_le] at hle
  obtain ⟨hincluded, hdepth⟩ := h
  constructor <;> omega

/-- A timelock ends at the exact sum of `height` and `blocks`, or fails by `heightOverflow` where
the sum is no height. -/
theorem timelockEnd_cases (txid : Txid) (height : Height) (blocks : Blocks) :
    (height.toNat + blocks.toNat < UInt64.size ∧ ∃ stop : Height,
      stop.toNat = height.toNat + blocks.toNat ∧ timelockEnd txid height blocks = .ok stop) ∨
    (UInt64.size ≤ height.toNat + blocks.toNat ∧
      timelockEnd txid height blocks = .error (.heightOverflow txid height blocks)) := by
  by_cases hlt : height.toNat + blocks.toNat < UInt64.size
  · have hend : timelockEnd txid height blocks = .ok (height + blocks.toUInt64) := if_pos hlt
    exact .inl ⟨hlt, _, toNat_of_timelockEnd hend, hend⟩
  · exact .inr ⟨Nat.le_of_not_lt hlt, if_neg hlt⟩

/-! ## Inclusions and Unbondings -/

/-- The `result` of an event is that it was applied. -/
def IsApplied (result : Except TrackingError Outcome × MemoryStore) : Prop :=
  ∃ outcome, result.1 = .ok outcome ∧ outcome.isApplied

/-- How an inclusion at the height `inclusion`, seen from `tip`, is decided for the delegation `d`
of the store `s`: by the state, by the depth and by the end of the timelock, in this order. -/
structure DecidesInclusion (c : CheckpointParams) (s : MemoryStore) (txid : Txid) (d : Delegation)
    (inclusion tip : Height) (result : Except TrackingError Outcome × MemoryStore) : Prop where
  /-- It is applied if the state is `pending` or `verified`, `IsDeepEnough` holds, and the timelock
  ends at a height. -/
  applied_iff : IsApplied result ↔ (d.state = .pending ∨ d.state = .verified) ∧
    c.IsDeepEnough inclusion tip ∧ inclusion.toNat + d.stake.stakingTime.toNat < UInt64.size
  /-- Then `inclusion` and the end `stop` are recorded, and the marker stands at the exact sum. -/
  opened : IsApplied result → ∃ stop : Height,
    stop.toNat = inclusion.toNat + d.stake.stakingTime.toNat ∧
    result = (.ok (.applied txid (some d.state) .active d.subState (some ⟨stop, txid, .timelock⟩)),
      s.written txid
        { d with state := .active, startHeight := some inclusion, expiryHeight := some stop }
        (some ⟨stop, txid, .timelock⟩))
  /-- Any other state rejects it, and `s` stays as it is. -/
  rejected : ¬(d.state = .pending ∨ d.state = .verified) →
    result = (.ok (.rejected txid (some .inclusionProofConfirmed) (some d.state)), s)
  /-- Where the state allows it, it fails by `insufficientConfirmations` if it is not deep
  enough. -/
  unconfirmed : d.state = .pending ∨ d.state = .verified → ¬c.IsDeepEnough inclusion tip →
    result = (.error (.insufficientConfirmations txid inclusion tip c.confirmationDepth), s)
  /-- Where it is deep enough as well, it fails by `heightOverflow` if the sum is no height. -/
  overflows : d.state = .pending ∨ d.state = .verified → c.IsDeepEnough inclusion tip →
    UInt64.size ≤ inclusion.toNat + d.stake.stakingTime.toNat →
    result = (.error (.heightOverflow txid inclusion d.stake.stakingTime), s)

/-- How an unbonding at the height `observed` is decided for the delegation `d` of the store `s`: by
the state and by the end of the timelock, in this order. -/
structure DecidesUnbonding (s : MemoryStore) (txid : Txid) (d : Delegation) (observed : Height)
    (result : Except TrackingError Outcome × MemoryStore) : Prop where
  /-- It is applied if the stake is `active` and the timelock ends at a height. -/
  applied_iff : IsApplied result ↔
    d.state = .active ∧ observed.toNat + d.stake.unbondingTime.toNat < UInt64.size
  /-- Then the end `stop` is recorded, and the marker stands at the exact sum. -/
  opened : IsApplied result → ∃ stop : Height,
    stop.toNat = observed.toNat + d.stake.unbondingTime.toNat ∧
    result = (.ok (.applied txid (some .active) .unbonding d.subState
      (some ⟨stop, txid, .earlyUnbonding⟩)),
      s.written txid { d with state := .unbonding, expiryHeight := some stop }
        (some ⟨stop, txid, .earlyUnbonding⟩))
  /-- Any other state rejects it, and `s` stays as it is. -/
  rejected : d.state ≠ .active →
    result = (.ok (.rejected txid (some .unbondingTxObserved) (some d.state)), s)
  /-- Where the stake is `active`, it fails by `heightOverflow` if the sum is no height. -/
  overflows : d.state = .active → UInt64.size ≤ observed.toNat + d.stake.unbondingTime.toNat →
    result = (.error (.heightOverflow txid observed d.stake.unbondingTime), s)

/-- An event that was rejected is not one that `IsApplied`. -/
theorem not_isApplied_rejected {txid : Txid} {attempted : Option TransitionKind}
    {current : Option State} {s : MemoryStore} :
    ¬IsApplied (.ok (.rejected txid attempted current), s) := by
  rintro ⟨outcome, houtcome, happlied⟩
  obtain rfl := Except.ok.inj houtcome
  cases happlied

/-- An event that failed by `e` is not one that `IsApplied`. -/
theorem not_isApplied_error {e : TrackingError} {s : MemoryStore} : ¬IsApplied (.error e, s) := by
  rintro ⟨outcome, houtcome, -⟩
  cases houtcome

/-- An event that was answered by `.applied` is one that `IsApplied`. -/
theorem isApplied_applied {txid : Txid} {origin : Option State} {target : State}
    {subState : Option SubState} {opened : Option Marker} {s : MemoryStore} :
    IsApplied (.ok (.applied txid origin target subState opened), s) := ⟨_, rfl, rfl⟩

namespace Registry

variable {registry : Registry} {s : MemoryStore} {txid : Txid} {d : Delegation}

/-- An observation that the state of `d` does not allow is rejected, whatever else is wrong with
it. -/
theorem run_observed_refused (hd : s.delegation? txid = some d) (htxid : d.txid = txid)
    {o : Observation} (hstate : d.state ∉ o.kind.qualified) :
    (registry.apply (.observed txid o)).run MemoryStore.backend s =
      (.ok (.rejected txid (some o.kind) (some d.state)), s) := by
  subst htxid
  rw [run_observed hd, run_transition_refused hstate]

/-- Where the state of `d` allows an observation, it fails by the error `e` that keeps it from being
planned. -/
theorem run_observed_unplanned (hd : s.delegation? txid = some d) {o : Observation}
    (hstate : d.state ∈ o.kind.qualified) {e : TrackingError}
    (hplan : ∀ t, plannedUpdate registry.checkpoint d t o = .error e) :
    (registry.apply (.observed txid o)).run MemoryStore.backend s = (.error e, s) := by
  have ht : o.kind.fromState d.state = .ok ⟨d.state, o.kind.target, o.kind.subState d.state⟩ :=
    if_pos hstate
  rw [run_observed hd, transition]
  simp only [ht, hplan]
  rfl

/-- Where the state of `d` allows an observation that opens the timelock `m`, it is written as it is
planned. -/
theorem run_observed_opening (hd : s.delegation? txid = some d) (htxid : d.txid = txid)
    {o : Observation} (hstate : d.state ∈ o.kind.qualified) (started : Option Height) {m : Marker}
    (hplan : ∀ t, plannedUpdate registry.checkpoint d t o =
      .ok { t.update with startHeight := started, timelock := some m }) :
    (registry.apply (.observed txid o)).run MemoryStore.backend s =
      (.ok (.applied txid (some d.state) o.kind.target ((o.kind.subState d.state).or d.subState)
        (some m)), s.written txid { d with
          state := o.kind.target
          subState := (o.kind.subState d.state).or d.subState
          startHeight := started.or d.startHeight
          expiryHeight := some m.expireHeight } (some m)) := by
  have ht : o.kind.fromState d.state = .ok ⟨d.state, o.kind.target, o.kind.subState d.state⟩ :=
    if_pos hstate
  rw [run_observed_planned hd htxid ⟨_, ht, hplan _⟩]
  rfl

/-- The run of an inclusion on the memory store meets `DecidesInclusion`. The cases are those of the
decision: the state, then the depth, then `timelockEnd_cases`. -/
theorem decidesInclusion (hd : s.delegation? txid = some d) (htxid : d.txid = txid)
    {inclusion tip : Height} (hcount : inclusion ≠ 0 ∨ tip.toNat + 1 < UInt64.size) :
    DecidesInclusion registry.checkpoint s txid d inclusion tip
      ((registry.apply (.observed txid (.inclusionProofConfirmed inclusion tip))).run
          MemoryStore.backend s) := by
  have hconfirmed := registry.checkpoint.isConfirmed_iff hcount
  have hqualified : d.state ∈ TransitionKind.inclusionProofConfirmed.qualified ↔
      d.state = .pending ∨ d.state = .verified := by
    simp [TransitionKind.qualified, or_comm]
  by_cases hstate : d.state = .pending ∨ d.state = .verified
  · by_cases hdeep : registry.checkpoint.IsDeepEnough inclusion tip
    · rcases timelockEnd_cases d.txid inclusion d.stake.stakingTime with
        ⟨hlt, stop, hsum, hend⟩ | ⟨hle, hend⟩
      · -- the timelock ends at `stop`, and the inclusion is applied
        have hrun := registry.run_observed_opening (o := .inclusionProofConfirmed inclusion tip) hd
          htxid (hqualified.2 hstate) (some inclusion) fun t => by
            rw [plannedUpdate, if_pos (hconfirmed.2 hdeep), hend]
            rfl
        rw [htxid] at hrun
        rw [hrun]
        constructor
        case applied_iff => exact iff_of_true isApplied_applied ⟨hstate, hdeep, hlt⟩
        case opened =>
          intro _
          exact ⟨stop, hsum, rfl⟩
        case rejected => exact fun hno => absurd hstate hno
        case unconfirmed => exact fun _ hno => absurd hdeep hno
        case overflows => exact fun _ _ hle => absurd hlt (Nat.not_lt.2 hle)
      · -- the sum is no height
        have hrun := registry.run_observed_unplanned (o := .inclusionProofConfirmed inclusion tip)
          hd (hqualified.2 hstate) fun t => by
            rw [plannedUpdate, if_pos (hconfirmed.2 hdeep), hend]
            rfl
        rw [htxid] at hrun
        rw [hrun]
        constructor
        case applied_iff =>
          refine iff_of_false not_isApplied_error ?_
          rintro ⟨-, -, hlt⟩
          exact absurd hlt (Nat.not_lt.2 hle)
        case opened => exact fun happlied => absurd happlied not_isApplied_error
        case rejected => exact fun hno => absurd hstate hno
        case unconfirmed => exact fun _ hno => absurd hdeep hno
        case overflows => exact fun _ _ _ => rfl
    · -- not deep enough, whatever the sum is
      have hrun := registry.run_observed_unplanned (o := .inclusionProofConfirmed inclusion tip) hd
        (hqualified.2 hstate) fun t => if_neg fun hc => hdeep (hconfirmed.1 hc)
      rw [htxid] at hrun
      rw [hrun]
      constructor
      case applied_iff => exact iff_of_false not_isApplied_error fun h => hdeep h.2.1
      case opened => exact fun happlied => absurd happlied not_isApplied_error
      case rejected => exact fun hno => absurd hstate hno
      case unconfirmed => exact fun _ _ => rfl
      case overflows => exact fun _ hyes => absurd hyes hdeep
  · -- the state comes first
    have hrun := registry.run_observed_refused (o := .inclusionProofConfirmed inclusion tip) hd
      htxid fun hq => hstate (hqualified.1 hq)
    rw [hrun]
    constructor
    case applied_iff => exact iff_of_false not_isApplied_rejected fun h => hstate h.1
    case opened => exact fun happlied => absurd happlied not_isApplied_rejected
    case rejected => exact fun _ => rfl
    case unconfirmed => exact fun hyes => absurd hyes hstate
    case overflows => exact fun hyes => absurd hyes hstate

/-- The run of an unbonding on the memory store meets `DecidesUnbonding`. The cases are the state,
and then `timelockEnd_cases`. -/
theorem decidesUnbonding (hd : s.delegation? txid = some d) (htxid : d.txid = txid)
    (observed : Height) :
    DecidesUnbonding s txid d observed
      ((registry.apply (.observed txid (.unbondingTxObserved observed))).run
          MemoryStore.backend s) := by
  have hqualified : d.state ∈ TransitionKind.unbondingTxObserved.qualified ↔ d.state = .active := by
    simp [TransitionKind.qualified]
  by_cases hstate : d.state = .active
  · rcases timelockEnd_cases d.txid observed d.stake.unbondingTime with ⟨hlt, stop, hsum,
      hend⟩ | ⟨hle, hend⟩
    · -- the timelock ends at `stop`, and the unbonding is applied
      have hrun := registry.run_observed_opening (o := .unbondingTxObserved observed) hd htxid
        (hqualified.2 hstate) none fun t => by
          rw [plannedUpdate, hend]
          rfl
      rw [htxid, hstate] at hrun
      rw [hrun]
      constructor
      case applied_iff => exact iff_of_true isApplied_applied ⟨hstate, hlt⟩
      case opened =>
        intro _
        exact ⟨stop, hsum, rfl⟩
      case rejected => exact fun hno => absurd hstate hno
      case overflows => exact fun _ hle => absurd hlt (Nat.not_lt.2 hle)
    · -- the sum is no height
      have hrun := registry.run_observed_unplanned (o := .unbondingTxObserved observed) hd
        (hqualified.2 hstate) fun t => by
          rw [plannedUpdate, hend]
          rfl
      rw [htxid] at hrun
      rw [hrun]
      constructor
      case applied_iff =>
        refine iff_of_false not_isApplied_error ?_
        rintro ⟨-, hlt⟩
        exact absurd hlt (Nat.not_lt.2 hle)
      case opened => exact fun happlied => absurd happlied not_isApplied_error
      case rejected => exact fun hno => absurd hstate hno
      case overflows => exact fun _ _ => rfl
  · -- the state comes first
    have hrun := registry.run_observed_refused (o := .unbondingTxObserved observed) hd htxid
      fun hq => hstate (hqualified.1 hq)
    rw [hrun]
    constructor
    case applied_iff => exact iff_of_false not_isApplied_rejected fun h => hstate h.1
    case opened => exact fun happlied => absurd happlied not_isApplied_rejected
    case rejected => exact fun _ => rfl
    case overflows => exact fun hyes => absurd hyes hstate

end Registry

/-- On any store that `requests` have led to, and while no other call runs, the inclusion and the
unbonding of a delegation are decided in integers, and the timelock ends at the exact sum. An
inclusion that is applied at one `tip` is answered alike, and leaves the same store, at every higher
one. -/
theorem timelocks_open_exactly (registry : Registry) (requests : List Request) {txid : Txid}
    {d : Delegation} (hd : (MemoryStore.ofRequests requests).delegation? txid = some d) :
    (∀ inclusion tip, inclusion ≠ 0 ∨ tip.toNat + 1 < UInt64.size →
      DecidesInclusion registry.checkpoint (.ofRequests requests) txid d inclusion tip
        ((registry.apply (.observed txid (.inclusionProofConfirmed inclusion tip))).run
          MemoryStore.backend (.ofRequests requests))) ∧
    (∀ observed, DecidesUnbonding (.ofRequests requests) txid d observed
      ((registry.apply (.observed txid (.unbondingTxObserved observed))).run MemoryStore.backend
        (.ofRequests requests))) ∧
    ∀ inclusion tip tip', inclusion ≠ 0 ∨ tip'.toNat + 1 < UInt64.size → tip ≤ tip' →
      IsApplied ((registry.apply (.observed txid (.inclusionProofConfirmed inclusion tip))).run
        MemoryStore.backend (.ofRequests requests)) →
      (registry.apply (.observed txid (.inclusionProofConfirmed inclusion tip'))).run
          MemoryStore.backend (.ofRequests requests) =
        (registry.apply (.observed txid (.inclusionProofConfirmed inclusion tip))).run
          MemoryStore.backend (.ofRequests requests) := by
  have htxid : d.txid = txid := MemoryStore.isKeyed_replay requests txid d hd
  generalize MemoryStore.ofRequests requests = s at *
  refine ⟨fun inclusion tip hcount => registry.decidesInclusion hd htxid hcount,
    fun observed => registry.decidesUnbonding hd htxid observed, ?_⟩
  intro inclusion tip tip' hcount' hle happlied
  have hcount : inclusion ≠ 0 ∨ tip.toNat + 1 < UInt64.size :=
    hcount'.imp_right (Nat.lt_of_le_of_lt (Nat.succ_le_succ (UInt64.le_iff_toNat_le.1 hle)))
  have hlower := registry.decidesInclusion hd htxid hcount
  have hhigher := registry.decidesInclusion hd htxid hcount'
  obtain ⟨hstate, hdeep, hlt⟩ := hlower.applied_iff.1 happlied
  obtain ⟨stop, hsum, hrun⟩ := hlower.opened happlied
  obtain ⟨stop', hsum', hrun'⟩ :=
    hhigher.opened (hhigher.applied_iff.2 ⟨hstate, hdeep.mono hle, hlt⟩)
  -- both timelocks end at the same sum
  obtain rfl : stop' = stop := UInt64.toNat_inj.1 (hsum'.trans hsum.symm)
  rw [hrun, hrun']

/-- A stake of ten blocks that is included ten blocks before the last height of all becomes active,
at that end of the chain and at the last one. Its timelock ends at the last height. One block later
there is no height for the end. -/
theorem lastInclusion_opens :
    (MemoryStore.ofRequests [.saveDelegation (.ofStake loneStake)]).delegation? ⟨0⟩ =
      some (.ofStake loneStake) ∧
    (∃ stop : Height, stop.toNat = 18446744073709551615 ∧
      ((loneRegistry.apply (.observed ⟨0⟩
        (.inclusionProofConfirmed 18446744073709551605 18446744073709551615))).run
        MemoryStore.backend (.ofRequests [.saveDelegation (.ofStake loneStake)])).1 =
          .ok (.applied ⟨0⟩ (some .pending) .active none (some ⟨stop, ⟨0⟩, .timelock⟩))) ∧
    (loneRegistry.apply (.observed ⟨0⟩
        (.inclusionProofConfirmed 18446744073709551606 18446744073709551606))).run
        MemoryStore.backend (.ofRequests [.saveDelegation (.ofStake loneStake)]) =
      (.error (.heightOverflow ⟨0⟩ 18446744073709551606 10),
        .ofRequests [.saveDelegation (.ofStake loneStake)]) := by
  have hd : (MemoryStore.ofRequests [.saveDelegation (.ofStake loneStake)]).delegation? ⟨0⟩ =
      some (.ofStake loneStake) := by
    rfl
  obtain ⟨hinclusion, -, hhigher⟩ :=
    timelocks_open_exactly loneRegistry [.saveDelegation (.ofStake loneStake)] hd
  have hdeep : ∀ height, loneRegistry.checkpoint.IsDeepEnough height height := by
    intro height
    refine ⟨Nat.le_refl _, ?_⟩
    rw [Int.sub_self]
    decide
  have hfirst := hinclusion 18446744073709551605 18446744073709551605 (.inl (by decide))
  have happlied := hfirst.applied_iff.2 ⟨.inl rfl, hdeep _, by decide⟩
  obtain ⟨stop, hsum, hrun⟩ := hfirst.opened happlied
  -- the inclusion is answered alike at the last tip of all
  have hsame := hhigher 18446744073709551605 18446744073709551605 18446744073709551615
    (.inl (by decide)) (by decide) happlied
  have hlate := hinclusion 18446744073709551606 18446744073709551606 (.inl (by decide))
  exact ⟨hd, ⟨stop, hsum, by rw [hsame, hrun]; rfl⟩, hlate.overflows (.inl rfl) (hdeep _)
    (by decide)⟩

end StakeLedger
