import StakeLedger.Proofs.Lifecycle.Decision

/-!
# Events that Are Applied Alone

What becomes of an observation while no other call runs is decided by the record alone
(`Registry.run_observed`): it is rejected with the state of the record, or written as planned. A new
stake that is admitted is created, or rejected with the state of the delegation that is there
(`Registry.run_create`).
-/

namespace StakeLedger

namespace Registry

variable {registry : Registry} {s : MemoryStore} {txid : Txid} {d : Delegation}

/-- A transition that the state of `d` does not allow is rejected without a request. -/
theorem run_transition_refused {o : Observation} (hq : d.state ∉ o.kind.qualified) :
    (registry.transition d o).run MemoryStore.backend s =
      (.ok (.rejected d.txid (some o.kind) (some d.state)), s) := by
  have ht : o.kind.fromState d.state = .error ⟨o.kind, d.state⟩ := by
    simp [TransitionKind.fromState, hq]
  simp only [transition, ht, Program.run]

/-- A transition that is applied while no other call runs is written as the plan `u` says. -/
theorem run_transition_planned (hd : s.delegation? d.txid = some d) {o : Observation}
    {u : StateUpdate} (hu : u.IsPlanned registry.checkpoint d o) :
    (registry.transition d o).run MemoryStore.backend s =
      (.ok (.applied d.txid (some d.state) o.kind.target ((o.kind.subState d.state).or d.subState)
        u.timelock), s.written d.txid (u.applyTo d) u.timelock) := by
  have horigin : d.state ∈ u.origins := by simp [hu.move.1]
  obtain ⟨t, ht, hplan⟩ := hu
  obtain ⟨-, rfl⟩ := TransitionKind.fromState_eq_ok ht
  simp only [transition, ht, hplan]
  -- the record is still in the state that it was planned from
  rcases s.updateState_cases d.txid u with ⟨hne, -⟩ | ⟨d', hd', -, hupdate⟩
  · exact absurd horigin (hne d hd)
  · obtain rfl := Option.some.inj (hd.symm.trans hd')
    have hanswer : MemoryStore.backend.answer (.updateState d.txid u) s =
        (.ok .applied, s.written d.txid (u.applyTo d) u.timelock) := by
      show (Except.ok (s.updateState d.txid u).1, (s.updateState d.txid u).2) = _
      rw [hupdate]
    rw [Program.run_request hanswer]
    rfl

/-- An observation that is applied while no other call runs goes by the record `d` that is
stored. -/
theorem run_observed (hd : s.delegation? txid = some d) (o : Observation) :
    (registry.apply (.observed txid o)).run MemoryStore.backend s =
      (registry.transition d o).run MemoryStore.backend s := by
  have hread : MemoryStore.backend.answer (.getDelegation txid) s = (.ok (some d), s) := by
    show (Except.ok (s.delegation? txid), s) = _
    rw [hd]
  exact Program.run_request hread

/-- An observation for which `u` is planned from the stored record moves it to `u.applyTo d`, and
opens `u.timelock`. -/
theorem run_observed_planned (hd : s.delegation? txid = some d) (htxid : d.txid = txid)
    {o : Observation} {u : StateUpdate} (hu : u.IsPlanned registry.checkpoint d o) :
    (registry.apply (.observed txid o)).run MemoryStore.backend s =
      (.ok (.applied txid (some d.state) u.target (u.subState.or d.subState) u.timelock),
        s.written txid (u.applyTo d) u.timelock) := by
  subst htxid
  rw [run_observed hd, run_transition_planned hd hu, hu.move.2.1, hu.subState]

/-- An observation that records nothing moves the delegation if its state is among
`o.kind.qualified`, and is rejected otherwise. -/
theorem run_observed_plain (hd : s.delegation? txid = some d) (htxid : d.txid = txid)
    {o : Observation} (hplain : ∀ t, plannedUpdate registry.checkpoint d t o = .ok t.update) :
    (registry.apply (.observed txid o)).run MemoryStore.backend s =
      if d.state ∈ o.kind.qualified then
        (.ok (.applied txid (some d.state) o.kind.target ((o.kind.subState d.state).or d.subState)
          none), s.written txid
            { d with state := o.kind.target, subState := (o.kind.subState d.state).or d.subState }
              none)
      else (.ok (.rejected txid (some o.kind) (some d.state)), s) := by
  subst htxid
  rw [run_observed hd]
  split
  -- the transition is made, and the update writes what it says and nothing more
  next hq =>
    have ht : o.kind.fromState d.state = .ok ⟨d.state, o.kind.target, o.kind.subState d.state⟩ := by
      simp [TransitionKind.fromState, hq]
    rw [run_transition_planned hd ⟨_, ht, hplain _⟩]
    simp [StateUpdate.applyTo, Transition.update]
  next hq => rw [run_transition_refused hq]

/-- A new stake that the registry admits creates its delegation, unless there is one, whose state it
is then rejected with. -/
theorem run_create {stake : Stake} (hadmits : registry.Admits stake) :
    (registry.create stake).run MemoryStore.backend s =
      match s.delegation? stake.txid with
      | none => (.ok (.applied stake.txid none .pending none none),
          s.written stake.txid (.ofStake stake) none)
      | some d => (.ok (.rejected stake.txid none (some d.state)), s) := by
  obtain ⟨params, hparams, hterms⟩ := hadmits
  have hanswer : MemoryStore.backend.answer (.saveDelegation (.ofStake stake)) s =
    (.ok (s.saveDelegation (.ofStake stake)).1, (s.saveDelegation (.ofStake stake)).2) := rfl
  simp only [create, hparams, hterms]
  rcases s.saveDelegation_cases (.ofStake stake) with ⟨d, hd, hsave⟩ | ⟨hnone, hsave⟩ <;>
    rw [hsave] at hanswer
  · -- the record that is in the way is read for the answer
    replace hd : s.delegation? stake.txid = some d := hd
    have hread : MemoryStore.backend.answer (.getDelegation stake.txid) s = (.ok (some d), s) := by
      show (Except.ok (s.delegation? stake.txid), s) = _
      rw [hd]
    rw [Program.run_request hanswer, Program.run_request hread, hd]
    rfl
  · replace hnone : s.delegation? stake.txid = none := hnone
    rw [Program.run_request hanswer, hnone]
    rfl

end Registry

end StakeLedger
