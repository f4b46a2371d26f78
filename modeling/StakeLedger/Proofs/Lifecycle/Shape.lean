import StakeLedger.Proofs.Lifecycle.Path

/-!
# The Shape of Records

What a record holds goes with its state and with the way it has come there (`Delegation.HasShape`).
A change of state names the fields that it sets and keeps the others, so that each field of a record
is as the last change on its way has left it that set it.

* `Delegation.HasShape.move`: a planned change of state leads from one shape to another;
* `run_isShaped`: after any run, every record has the shape of its state.
-/

namespace StakeLedger

/-- No state on a `path` is further along than the last one. -/
theorem IsLifecyclePath.rank_le {txid : Txid} {path : List (Call × State)} {state : State}
    (h : IsLifecyclePath txid path) (hlast : path.getLast?.map (·.2) = some state) :
    ∀ w ∈ path, w.2.rank ≤ state.rank := by
  obtain ⟨last, hlast', rfl⟩ := Option.map_eq_some_iff.1 hlast
  obtain ⟨before, rfl⟩ := List.getLast?_eq_some_iff.1 hlast'
  obtain ⟨-, -, hlt⟩ := List.pairwise_append.1 h.rank_lt
  intro w hw
  rcases List.mem_append.1 hw with hw | hw
  · exact Nat.le_of_lt (hlt w hw last (List.mem_singleton_self _))
  · exact Nat.le_of_eq (congrArg (fun w => w.2.rank) (List.mem_singleton.1 hw))

/-- A delegation that is active has not been unbonding. -/
theorem IsLifecyclePath.unbonding_not_mem {txid : Txid} {path : List (Call × State)}
    (h : IsLifecyclePath txid path) (hlast : path.getLast?.map (·.2) = some .active) :
    .unbonding ∉ path.map (·.2) := by
  intro hmem
  obtain ⟨w, hw, hunbonding⟩ := List.mem_map.1 hmem
  have hle := h.rank_le hlast w hw
  rw [hunbonding] at hle
  exact absurd hle (by decide)

/-- A delegation has been in the `state` that it is in. -/
theorem mem_of_getLast?_state {path : List (Call × State)} {state : State}
    (hlast : path.getLast?.map (·.2) = some state) : state ∈ path.map (·.2) := by
  obtain ⟨last, hlast', rfl⟩ := Option.map_eq_some_iff.1 hlast
  exact List.mem_map_of_mem (List.mem_of_getLast? hlast')

/-- A move adds no state to a `path` but its `target`. -/
theorem not_mem_concat_iff {path : List (Call × State)} {state : State} (call : Call)
    (target : State) (hne : target ≠ state) :
    state ∉ (path ++ [(call, target)]).map (·.2) ↔ state ∉ path.map (·.2) := by
  simp [hne.symm]

namespace Delegation

/-- The timelock of the staking output is recorded to run out one staking time after the start of
`d`. -/
def EndsStaking (d : Delegation) : Prop :=
  ∃ start height, d.startHeight = some start ∧ d.expiryHeight = some height ∧
    height.toNat = start.toNat + d.stake.stakingTime.toNat

/-- The shape of the record `d`, which has come to its state along a `path` of writes. -/
def HasShape (d : Delegation) (path : List (Call × State)) : Prop :=
  match d.state with
  | .pending | .verified =>
    d.subState = none ∧ d.startHeight = none ∧ d.expiryHeight = none ∧ d.slashing = none
  | .active => d.subState = none ∧ d.EndsStaking ∧ d.slashing = none
  | .unbonding =>
    -- the timelock of the unbonding output runs from the height that was observed
    d.subState = none ∧ d.startHeight.isSome ∧ d.slashing = none ∧ ∃ observed height,
      path.getLast? = some (.apply (.observed d.txid (.unbondingTxObserved observed)), .unbonding) ∧
      d.expiryHeight = some height ∧ height.toNat = observed.toNat + d.stake.unbondingTime.toNat
  | .unbonded | .withdrawn =>
    d.startHeight.isSome ∧ d.slashing = none ∧ ∃ used, d.subState = some used ∧
      (used = .timelock ↔ .unbonding ∉ path.map (·.2)) ∧ (used = .timelock → d.EndsStaking)
  | .slashed =>
    d.subState = none ∧ d.startHeight.isSome ∧ ∃ slashing, d.slashing = some slashing ∧
      (slashing.output = .unbonding ↔ path.dropLast.getLast?.map (·.2) = some .unbonding)

/-- The record `d` fits the writes of `path`, which have led to it. -/
structure IsShaped (d : Delegation) (path : List (Call × State)) : Prop where
  /-- The first write of `path` has created the record from its stake. -/
  created : path.head? = some (.apply (.newStake d.stake), .pending)
  /-- The record has the shape of its state, which `HasShape` tells. -/
  shape : d.HasShape path

/-- A record that `EndsStaking` has a start. -/
theorem EndsStaking.isSome {d : Delegation} (h : d.EndsStaking) : d.startHeight.isSome := by
  obtain ⟨start, -, hstart, -⟩ := h
  rw [hstart]
  rfl

variable {checkpoint : CheckpointParams} {d : Delegation} {path : List (Call × State)} {call : Call}
  {o : Observation} {u : StateUpdate}

namespace HasShape

/-- A record that is `pending` or `verified` has no sub state, no heights and no slashing. -/
theorem early (h : d.HasShape path) (hstate : d.state = .pending ∨ d.state = .verified) :
    d.subState = none ∧ d.startHeight = none ∧ d.expiryHeight = none ∧ d.slashing = none := by
  rcases hstate with hstate | hstate <;> simpa only [HasShape, hstate] using h

/-- An active record `EndsStaking`, and has no sub state and no slashing. -/
theorem active (h : d.HasShape path) (hstate : d.state = .active) :
    d.subState = none ∧ d.EndsStaking ∧ d.slashing = none := by
  simpa only [HasShape, hstate] using h

/-- An unbonding record has a start, and no sub state and no slashing. -/
theorem unbonding (h : d.HasShape path) (hstate : d.state = .unbonding) :
    d.subState = none ∧ d.startHeight.isSome ∧ d.slashing = none := by
  simp only [HasShape, hstate] at h
  exact ⟨h.1, h.2.1, h.2.2.1⟩

/-- An unbonded record names the path that was `used`: that of the staking output exactly if the
delegation was never unbonding. -/
theorem unbonded (h : d.HasShape path) (hstate : d.state = .unbonded) :
    d.startHeight.isSome ∧ d.slashing = none ∧ ∃ used, d.subState = some used ∧
      (used = .timelock ↔ .unbonding ∉ path.map (·.2)) ∧ (used = .timelock → d.EndsStaking) := by
  simpa only [HasShape, hstate] using h

/-- A planned change of state leads from one shape to another. The cases are the kinds of
observations, and within each of them the states that it is allowed from. -/
theorem move (h : d.HasShape path) (hpath : IsLifecyclePath d.txid path)
    (hlast : path.getLast?.map (·.2) = some d.state) (hasks : call.Asks d.txid o)
    (hu : u.IsPlanned checkpoint d o) : (u.applyTo d).HasShape (path ++ [(call, u.target)]) := by
  have hactive : d.state = .active → .unbonding ∉ path.map (·.2) :=
    fun hstate => hpath.unbonding_not_mem (hlast.trans (congrArg some hstate))
  have hunbonding : d.state = .unbonding → .unbonding ∈ path.map (·.2) :=
    fun hstate => hstate ▸ mem_of_getLast?_state hlast
  obtain ⟨t, ht, hu⟩ := hu
  obtain ⟨hq, rfl⟩ := TransitionKind.fromState_eq_ok ht
  cases o with
  | covenantQuorumReached =>
    obtain rfl := Except.ok.inj hu
    exact h.early (.inl (List.mem_singleton.1 hq))
  | inclusionProofConfirmed inclusion tip =>
    obtain ⟨_, _, stop, ho, hend, rfl⟩ | ⟨_, _, ho, -⟩ | ⟨hne, -⟩ := plannedUpdate_cases hu
    · cases ho
      obtain ⟨hsub, -, -, hslashing⟩ := h.early (List.mem_pair.1 hq).symm
      exact ⟨hsub, ⟨inclusion, stop, rfl, rfl, toNat_of_timelockEnd hend⟩, hslashing⟩
    · cases ho
    · exact absurd rfl (hne .timelock)
  | unbondingTxObserved observed =>
    obtain ⟨_, _, _, ho, -⟩ | ⟨_, stop, ho, hend, rfl⟩ | ⟨hne, -⟩ := plannedUpdate_cases hu
    · cases ho
    · cases ho
      obtain ⟨hsub, hends, hslashing⟩ := h.active (List.mem_singleton.1 hq)
      -- the write that is last on the path now is the one of this observation
      obtain rfl := Call.eq_apply_of_asks hasks (by simp) (by simp)
      exact ⟨hsub, hends.isSome, hslashing, observed, stop, List.getLast?_concat, rfl,
        toNat_of_timelockEnd hend⟩
    · exact absurd rfl (hne .earlyUnbonding)
  | unbondingTxConfirmed =>
    obtain rfl := Except.ok.inj hu
    have hstate : d.state = .unbonding := List.mem_singleton.1 hq
    obtain ⟨-, hstart, hslashing⟩ := h.unbonding hstate
    refine ⟨hstart, hslashing, .earlyUnbonding, rfl, ?_, fun h => by cases h⟩
    simp [hunbonding hstate]
  | timelockExpired used =>
    obtain rfl := Except.ok.inj hu
    cases used with
    | timelock =>
      have hstate : d.state = .active := List.mem_singleton.1 hq
      obtain ⟨-, hends, hslashing⟩ := h.active hstate
      have hnever := (not_mem_concat_iff call .unbonded (by decide)).2 (hactive hstate)
      exact ⟨hends.isSome, hslashing, .timelock, rfl, iff_of_true rfl hnever, fun _ => hends⟩
    | earlyUnbonding =>
      have hstate : d.state = .unbonding := List.mem_singleton.1 hq
      obtain ⟨-, hstart, hslashing⟩ := h.unbonding hstate
      refine ⟨hstart, hslashing, .earlyUnbonding, rfl, ?_, fun h => by cases h⟩
      simp [hunbonding hstate]
  | withdrawalTxObserved =>
    obtain rfl := Except.ok.inj hu
    rcases List.mem_pair.1 hq with hstate | hstate
    -- the path that is used has been set before, or is the one of the staking output
    · obtain ⟨hstart, hslashing, used, hused, hpath', hends⟩ := h.unbonded hstate
      refine ⟨hstart, hslashing, used, ?_, ?_, hends⟩
      · simp [StateUpdate.applyTo, Transition.update, TransitionKind.subState, hstate, hused,
          Observation.kind]
      · exact hpath'.trans (not_mem_concat_iff call .withdrawn (by decide)).symm
    · obtain ⟨-, hends, hslashing⟩ := h.active hstate
      have hnever := (not_mem_concat_iff call .withdrawn (by decide)).2 (hactive hstate)
      refine ⟨hends.isSome, hslashing, .timelock, ?_, iff_of_true rfl hnever, fun _ => hends⟩
      simp [StateUpdate.applyTo, Transition.update, TransitionKind.subState, hstate,
        Observation.kind]
  | slashingTxObserved transaction spendHeight =>
    obtain rfl := Except.ok.inj hu
    have hbefore : d.subState = none ∧ d.startHeight.isSome := by
      rcases List.mem_pair.1 hq with hstate | hstate
      · exact ⟨(h.active hstate).1, (h.active hstate).2.1.isSome⟩
      · exact ⟨(h.unbonding hstate).1, (h.unbonding hstate).2.1⟩
    refine ⟨hbefore.1, hbefore.2, _, rfl, ?_⟩
    -- the output is chosen by the state before this one
    rw [List.dropLast_concat, hlast]
    simp

end HasShape

end Delegation

/-- Every record of the store `s` fits the writes of `history`. -/
def MemoryStore.IsShapedBy (s : MemoryStore) (history : List (Entry Call)) : Prop :=
  ∀ txid d, s.delegation? txid = some d → d.IsShaped (writes history txid)

namespace MemoryStore.IsShapedBy

variable {registry : Registry} {history : List (Entry Call)} {s s' : MemoryStore} {call : Call}
  {e : Exchange}

/-- An exchange that writes no state leaves records fitting if it leaves them as they are,
`signatures` apart. -/
theorem concat_none (h : s.IsShapedBy history) (hwritten : e.written? = none)
    (hrecords : ∀ txid d', s'.delegation? txid = some d' → ∃ d signatures,
      s.delegation? txid = some d ∧ d' = { d with signatures })
    (caller : Nat) (call : Call) :
    s'.IsShapedBy (history ++ [⟨caller, call, e⟩]) := by
  intro txid d' hd'
  obtain ⟨d, signatures, hd, rfl⟩ := hrecords txid d' hd'
  rw [writes_concat_none hwritten]
  exact ⟨(h txid d hd).created, (h txid d hd).shape⟩

/-- An exchange that writes the state of one record leaves the others fitting. -/
theorem concat_written (h : s.IsShapedBy history) {txid : Txid} {d : Delegation}
    {opened : Option Marker} (hwritten : e.written? = some (txid, d.state))
    (hd : d.IsShaped (writes history txid ++ [(call, d.state)])) (caller : Nat) :
    (s.written txid d opened).IsShapedBy (history ++ [⟨caller, call, e⟩]) := by
  intro txid' d' hd'
  by_cases htxid : txid' = txid
  · subst htxid
    rw [MemoryStore.delegation?_written_self] at hd'
    obtain rfl := Option.some.inj hd'
    rw [writes_concat_self hwritten]
    exact hd
  · rw [MemoryStore.delegation?_written_of_ne _ _ _ htxid] at hd'
    rw [writes_concat_of_ne hwritten htxid]
    exact h txid' d' hd'

/-- Every `Effect` of an exchange leaves records fitting. -/
theorem effect (h : s.IsShapedBy history) (haccounts : Accounts history s) (hs : s.Coherent)
    (he : registry.Effect call s e s') (caller : Nat) :
    s'.IsShapedBy (history ++ [⟨caller, call, e⟩]) := by
  cases he with
  | unchanged cursors hwritten =>
    exact h.concat_none hwritten (fun txid d hd => ⟨d, _, hd, rfl⟩) caller call
  | @created stake hcall hnone =>
    refine h.concat_written (d := .ofStake stake) rfl ?_ caller
    -- nothing is stored, and so nothing was written
    have hlast := haccounts.stored stake.txid
    rw [hnone, Option.map_none, Option.map_eq_none_iff, List.getLast?_eq_none_iff] at hlast
    rw [hlast, hcall]
    exact ⟨rfl, rfl, rfl, rfl, rfl⟩
  | @moved txid d o u hd hasks hu =>
    obtain rfl := hs.keyed txid d hd
    have hlast := haccounts.stored d.txid
    rw [hd, Option.map_some] at hlast
    obtain ⟨hcreated, hshape⟩ := h d.txid d hd
    refine h.concat_written (d := u.applyTo d) rfl ⟨?_, ?_⟩ caller
    · rw [List.head?_append, hcreated]
      rfl
    · exact hshape.move (haccounts.path d.txid) hlast hasks hu
  | @signed txid d key signature total hd =>
    refine h.concat_none rfl (fun txid' d' hd' => ?_) caller call
    by_cases htxid : txid' = txid
    · subst htxid
      rw [MemoryStore.delegation?_written_self] at hd'
      exact ⟨d, _, hd, (Option.some.inj hd').symm⟩
    · rw [MemoryStore.delegation?_written_of_ne _ _ _ htxid] at hd'
      exact ⟨d', _, hd', rfl⟩
  | removed _ => exact h.concat_none rfl (fun txid d hd => ⟨d, _, hd, rfl⟩) caller call

end MemoryStore.IsShapedBy

/-- Whatever calls run side by side over an initially empty memory store, in whatever order their
requests are served, and wherever they fail or are abandoned: every record `IsShaped`, that is, was
created from its stake and has the shape of its state. -/
theorem run_isShaped (registry : Registry) (schedule : List (Action Call)) :
    (registry.workload.run .empty schedule).store.IsShapedBy
    (registry.workload.run .empty schedule).history := by
  have hnil : Accounts [] .empty ∧ MemoryStore.empty.IsShapedBy [] :=
    ⟨⟨fun _ => .nil, fun _ => rfl⟩, fun txid d hd => by cases hd⟩
  refine (Workload.run_history (w := registry.workload) (D := registry.lifecycle)
    (Q := fun history s => Accounts history s ∧ s.IsShapedBy history)
    registry.keeps_program MemoryStore.coherent_empty hnil ?_ ?_ schedule).2
  · intro history s caller call r hs hp h
    have he := Registry.effect_answer hp
    exact ⟨h.1.effect he caller, h.2.effect h.1 hs he caller⟩
  · intro history s caller call r error h
    -- a request that failed has written nothing
    have hnone := Exchange.written?_error r error
    exact ⟨h.1.concat_none hnone (fun _ => rfl) caller call,
      h.2.concat_none hnone (fun txid d hd => ⟨d, _, hd, rfl⟩) caller call⟩

end StakeLedger
