import StakeLedger.Proofs.Lifecycle.Alone
import StakeLedger.Proofs.Lifecycle.Granted
import StakeLedger.Proofs.Lifecycle.Rejection

/-!
# Repeated Events

An event that was applied once is rejected ever after, whatever has happened since. The delegation
has come to the target of the event, and no kind of transition is allowed from its target or from
any state further along. It is refused for its state before anything else about the event is looked
at, so that another event of the same kind fares no better (`repeated_rejected`).
-/

namespace StakeLedger

/-- An event repeats another one if it shows the same stake, or asks for the same kind of transition
of the same delegation, whatever else it says. -/
def Event.Repeats : Event → Event → Prop
  | .newStake stake, .newStake stake' => stake = stake'
  | .observed txid o, .observed txid' o' => txid = txid' ∧ o.kind = o'.kind
  | _, _ => False

/-- Whatever the record has become since `event` was granted, a repetition of it is rejected with
the state of `d`, and the store stays as it is. -/
theorem Registry.Grants.run_repeated {registry : Registry} {event repeated : Event}
    {write : Exchange} {outcome : Outcome} {record d : Delegation} {s : MemoryStore}
    (h : registry.Grants event write outcome record) (hadv : record.Advances d)
    (hd : s.delegation? event.txid = some d) (htxid : d.txid = event.txid)
    (hrepeats : repeated.Repeats event) :
    (registry.apply repeated).run MemoryStore.backend s =
      (.ok (.rejected event.txid event.kind? (some d.state)), s) := by
  cases h with
  | @created stake hadmits =>
    cases repeated with
    | observed _ _ => exact hrepeats.elim
    | newStake stake' =>
      obtain rfl : stake' = stake := hrepeats
      replace hd : s.delegation? stake'.txid = some d := hd
      rw [apply, registry.run_create hadmits, hd]
      rfl
  | @moved txid o seen u signatures hplan =>
    cases repeated with
    | newStake _ => exact hrepeats.elim
    | observed txid' o' =>
      obtain ⟨rfl, hkind⟩ : txid' = txid ∧ o'.kind = o.kind := hrepeats
      -- the record has come to the target at least, from where the kind is not allowed
      have hrank : o.kind.target.rank ≤ d.state.rank := by
        rw [← hplan.move.2.1]
        exact hadv.rank_le
      have hrefused : d.state ∉ o'.kind.qualified := by
        rw [hkind]
        exact TransitionKind.not_mem_qualified hrank
      replace hd : s.delegation? txid' = some d := hd
      rw [registry.run_observed hd, registry.run_transition_refused hrefused, htxid, hkind]
      rfl

/-- Once a call has returned that `event` was applied, however the calls were interleaved, and
whatever calls have run since, by the actions in `more`: the delegation is there, and the same
event, or any other event of its kind about the same delegation, is rejected with the state that the
delegation is in, and changes nothing. -/
theorem repeated_rejected {registry : Registry} {schedule : List (Action Call)} {i : Nat}
    {event : Event} {outcome : Outcome}
    (h : (registry.workload.run .empty schedule).threads[i]? =
      some ⟨.apply event, some (.done (.applied (.ok outcome)))⟩)
    (happlied : outcome.isApplied) (more : List (Action Call)) :
    ∃ d, (registry.workload.run .empty (schedule ++ more)).store.delegation? event.txid = some d ∧
      ∀ repeated : Event, repeated.Repeats event →
        (registry.apply repeated).run MemoryStore.backend
            (registry.workload.run .empty (schedule ++ more)).store =
          (.ok (.rejected event.txid event.kind? (some d.state)),
            (registry.workload.run .empty (schedule ++ more)).store) := by
  have hsound := Workload.run_keeps (w := registry.workload) (D := registry.lifecycle)
    registry.keeps_answers MemoryStore.coherent_empty schedule
  have hanswered := hsound.keeps i _ _ h rfl _ (MemoryStore.Later.refl _) hsound.invariant event rfl
  rw [Response.granted?, Outcome.granted?_of_isApplied happlied] at hanswered
  generalize (registry.workload.run .empty schedule).log i = log at hanswered
  -- the granted event has left a state behind its own, and it stays so in `more`
  cases hanswered with
  | granted hbefore hgrants hd hadv =>
    obtain ⟨d, hd', hadv'⟩ := registry.run_later schedule more _ _ hd
    have htxid := (registry.run_coherent (schedule ++ more)).keyed _ d hd'
    exact ⟨d, hd', fun repeated hrepeats =>
      hgrants.run_repeated (hadv.trans hadv') hd' htxid hrepeats⟩

/-! ## An Inclusion that Is Seen Again -/

/-- The stake that was `included` starts to unbond, and is unbonded. -/
def unbondedSince : List (Action Call) :=
  observing 2 (.unbondingTxObserved 8) ++ observing 3 .unbondingTxConfirmed

/-- When the stake of `included` is unbonded, an inclusion is rejected even at a height at which its
timelock would overflow, and at which it would not be confirmed. -/
theorem included_rejected :
    (loneRegistry.workload.run .empty included).threads[1]? =
      some ⟨.apply (.observed ⟨0⟩ (.inclusionProofConfirmed 7 7)), some (.done (.applied (.ok
        (.applied ⟨0⟩ (some .pending) .active none (some ⟨17, ⟨0⟩, .timelock⟩)))))⟩ ∧
    ((loneRegistry.apply (.observed ⟨0⟩ (.inclusionProofConfirmed 18446744073709551615 0))).run
      MemoryStore.backend (loneRegistry.workload.run .empty (included ++ unbondedSince)).store).1 =
        .ok (.rejected ⟨0⟩ (some .inclusionProofConfirmed) (some .unbonded)) := by
  have hthread : (loneRegistry.workload.run .empty included).threads[1]? =
      some ⟨.apply (.observed ⟨0⟩ (.inclusionProofConfirmed 7 7)), some (.done (.applied (.ok
        (.applied ⟨0⟩ (some .pending) .active none (some ⟨17, ⟨0⟩, .timelock⟩)))))⟩ := by
    rfl
  obtain ⟨d, hd, hrejected⟩ := repeated_rejected hthread rfl unbondedSince
  have hstate : ((loneRegistry.workload.run .empty (included ++ unbondedSince)).store.delegation?
      ⟨0⟩).map (·.state) = some .unbonded := by
    rfl
  replace hd : (loneRegistry.workload.run .empty (included ++ unbondedSince)).store.delegation?
    ⟨0⟩ = some d := hd
  rw [hd, Option.map_some, Option.some.injEq] at hstate
  refine ⟨hthread, ?_⟩
  rw [hrejected (.observed ⟨0⟩ (.inclusionProofConfirmed 18446744073709551615 0))
    ⟨rfl, rfl⟩, hstate]
  rfl

end StakeLedger
