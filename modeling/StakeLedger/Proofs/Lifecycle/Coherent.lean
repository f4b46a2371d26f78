import StakeLedger.Proofs.Lifecycle.Progress
import StakeLedger.Proofs.Store.Memory

/-!
# Records and their Timelocks

Records and queue fit together (`MemoryStore.Coherent`) if every delegation that waits for a
timelock has the marker of it queued, and every marker belongs to a delegation that has come to the
state that waits for it. Creating a record, moving it along the table, adding a signature and
removing the marker of a timelock that is no longer waited for all keep this.

They also develop the store in one direction (`MemoryStore.Later`): records stay and advance. A
marker that is no longer waited for (`MemoryStore.IsSettled`) is therefore never waited for again.
-/

namespace StakeLedger

/-- The marker `m` belongs to a record `d` that has come to the state that waits for it. The
timelock of the staking output runs from the start of the delegation. -/
structure Marker.Fits (m : Marker) (d : Delegation) : Prop where
  /-- The record `d` has come to the state `m.subState.awaited` that waits for the timelock. -/
  reached : m.subState.awaited.rank ≤ d.state.rank
  /-- The timelock of the staking output runs out one `stakingTime` after `d.startHeight`. -/
  placed : m.subState = .timelock → ∃ start, d.startHeight = some start ∧
    m.expireHeight.toNat = start.toNat + d.stake.stakingTime.toNat

/-- The write `u` was planned for the observation `o` of the record `d`, from whose state the
transition of `o.kind` is allowed. -/
def StateUpdate.IsPlanned (u : StateUpdate) (checkpoint : CheckpointParams) (d : Delegation)
    (o : Observation) : Prop :=
  ∃ t, o.kind.fromState d.state = .ok t ∧ plannedUpdate checkpoint d t o = .ok u

namespace StateUpdate.IsPlanned

variable {checkpoint : CheckpointParams} {d d' : Delegation} {o : Observation} {u : StateUpdate}

/-- A planned write leaves the state it was planned from, for the target of its kind, which it
may. -/
theorem move (h : u.IsPlanned checkpoint d o) :
    u.origins = [d.state] ∧ u.target = o.kind.target ∧ d.state ∈ o.kind.qualified := by
  obtain ⟨t, ht, hu⟩ := h
  obtain ⟨hq, rfl⟩ := TransitionKind.fromState_eq_ok ht
  obtain ⟨horigins, htarget, -⟩ := plannedUpdate_move hu
  exact ⟨horigins, htarget, hq⟩

/-- A planned write sets the sub state that its kind sets from the state of `d`. -/
theorem subState (h : u.IsPlanned checkpoint d o) : u.subState = o.kind.subState d.state := by
  obtain ⟨t, ht, hu⟩ := h
  obtain ⟨-, rfl⟩ := TransitionKind.fromState_eq_ok ht
  exact (plannedUpdate_move hu).2.2

theorem rank_lt (h : u.IsPlanned checkpoint d o) : d.state.rank < u.target.rank := by
  obtain ⟨-, htarget, hq⟩ := h.move
  rw [htarget]
  exact TransitionKind.rank_lt_target hq

/-- The signatures collected since do not matter to a plan: what is planned for `d` is planned for
`d'`, if only the state is the same. -/
theorem congr (h : u.IsPlanned checkpoint d o) (hd : d.Advances d') (hs : d'.state = d.state) :
    u.IsPlanned checkpoint d' o := by
  obtain ⟨t, ht, hu⟩ := h
  refine ⟨t, ?_, ?_⟩
  · rw [hs]
    exact ht
  · rw [plannedUpdate_congr hd.stake]
    exact hu

/-- A planned write `u` opens no timelock and leads to no state that waits for one, or it opens the
marker that its target waits for, one staking time after the start if it is that of the staking
output. -/
theorem opens (h : u.IsPlanned checkpoint d o) :
    (u.timelock = none ∧ u.startHeight = none ∧ ∀ path : SubState, u.target ≠ path.awaited) ∨
    ∃ m, u.timelock = some m ∧ m.txid = d.txid ∧ u.target = m.subState.awaited ∧
      match m.subState with
      | .timelock => ∃ start, u.startHeight = some start ∧
          m.expireHeight.toNat = start.toNat + d.stake.stakingTime.toNat
      | .earlyUnbonding => u.startHeight = none := by
  obtain ⟨t, ht, hu⟩ := h
  obtain ⟨-, rfl⟩ := TransitionKind.fromState_eq_ok ht
  exact plannedUpdate_opens rfl hu

end StateUpdate.IsPlanned

theorem SubState.awaited_inj {p q : SubState} (h : p.awaited = q.awaited) : p = q := by
  cases p <;> cases q <;> first | rfl | cases h

namespace MemoryStore

/-- Records and queue of the store `s` fit together. -/
structure Coherent (s : MemoryStore) : Prop where
  /-- A record is kept under its own identifier, `d.txid`. -/
  keyed : ∀ txid d, s.delegation? txid = some d → d.txid = txid
  /-- A delegation in the state `path.awaited` has the marker of this path queued, at
  `d.expiryHeight`. -/
  queued : ∀ txid d (path : SubState), s.delegation? txid = some d → d.state = path.awaited →
    ∃ height, d.expiryHeight = some height ∧ ⟨height, txid, path⟩ ∈ s.queue
  /-- A marker of the queue belongs to a record, which it fits. -/
  fits : ∀ m ∈ s.queue, ∃ d, s.delegation? m.txid = some d ∧ m.Fits d
  /-- A delegation has at most one marker for a path, at whatever height. -/
  unique : ∀ m ∈ s.queue, ∀ m' ∈ s.queue, m.txid = m'.txid → m.subState = m'.subState → m = m'

/-- From `s` to `s'`, no record is lost and every record has advanced. -/
def Later (s s' : MemoryStore) : Prop :=
  ∀ txid d, s.delegation? txid = some d → ∃ d', s'.delegation? txid = some d' ∧ d.Advances d'

/-- The delegation of the marker `m` is past the state that waits for it. -/
def IsSettled (s : MemoryStore) (m : Marker) : Prop :=
  ∃ d, s.delegation? m.txid = some d ∧ m.subState.awaited.rank < d.state.rank

variable {s s' s'' : MemoryStore}

/-! ## Looking Again -/

theorem Later.refl (s : MemoryStore) : s.Later s := fun _ d h => ⟨d, h, .refl d⟩

/-- What is later than a later store is later, since `Delegation.Advances` is transitive. -/
theorem Later.trans (h : s.Later s') (h' : s'.Later s'') : s.Later s'' := by
  intro txid d hd
  obtain ⟨d', hd', hadv⟩ := h txid d hd
  obtain ⟨d'', hd'', hadv'⟩ := h' txid d' hd'
  exact ⟨d'', hd'', hadv.trans hadv'⟩

/-- A write of `d` over nothing, or over a record that advances to `d`, makes a later store. -/
theorem later_written {txid : Txid} {d : Delegation} {opened : Option Marker}
    (h : ∀ old, s.delegation? txid = some old → old.Advances d) :
    s.Later (s.written txid d opened) := by
  intro txid' d' hd'
  by_cases htxid : txid' = txid
  · subst htxid
    exact ⟨d, delegation?_written_self .., h d' hd'⟩
  · rw [delegation?_written_of_ne _ _ _ htxid]
    exact ⟨d', hd', .refl d'⟩

/-- A change of the `queue` alone makes a later store. -/
theorem later_queue (s : MemoryStore) (queue : SortedSet Marker) : s.Later { s with queue } :=
  fun _ d h => ⟨d, h, .refl d⟩

/-! ## Records and Queue -/

theorem coherent_empty : empty.Coherent where
  keyed _ _ h := by cases h
  queued _ _ _ h := by cases h
  fits _ h := absurd h (not_mem_queue_empty _)
  unique _ h := absurd h (not_mem_queue_empty _)

/-- Records and queue still fit together after a write if the new record `d` fits the markers that
are queued for it, and the marker it needs is `opened` or there. -/
theorem Coherent.written (h : s.Coherent) {d : Delegation} {opened : Option Marker}
    (hqueued : ∀ path : SubState, d.state = path.awaited → ∃ height, d.expiryHeight = some height ∧
      (opened = some ⟨height, d.txid, path⟩ ∨ ⟨height, d.txid, path⟩ ∈ s.queue))
    (hfits : ∀ m ∈ s.queue, m.txid = d.txid → m.Fits d)
    (hopened : ∀ m, opened = some m → m.txid = d.txid ∧ m.Fits d ∧
      ∀ m' ∈ s.queue, m'.txid = d.txid → m'.subState ≠ m.subState) :
    (s.written d.txid d opened).Coherent where
  keyed := by
    intro txid d' hd'
    by_cases htxid : txid = d.txid
    · subst htxid
      rw [delegation?_written_self] at hd'
      obtain rfl := Option.some.inj hd'
      rfl
    · rw [delegation?_written_of_ne _ _ _ htxid] at hd'
      exact h.keyed txid d' hd'
  queued := by
    intro txid d' path hd' hstate
    by_cases htxid : txid = d.txid
    · subst htxid
      rw [delegation?_written_self] at hd'
      obtain rfl := Option.some.inj hd'
      obtain ⟨height, hheight, hmem⟩ := hqueued path hstate
      exact ⟨height, hheight, mem_queue_written.2 hmem⟩
    · rw [delegation?_written_of_ne _ _ _ htxid] at hd'
      obtain ⟨height, hheight, hmem⟩ := h.queued txid d' path hd' hstate
      exact ⟨height, hheight, mem_queue_written.2 (.inr hmem)⟩
  fits := by
    intro m hm
    rcases mem_queue_written.1 hm with hm | hm
    · obtain ⟨htxid, hfit, -⟩ := hopened m hm
      rw [htxid]
      exact ⟨d, delegation?_written_self .., hfit⟩
    · by_cases htxid : m.txid = d.txid
      · refine ⟨d, ?_, hfits m hm htxid⟩
        rw [htxid]
        exact delegation?_written_self ..
      · rw [delegation?_written_of_ne _ _ _ htxid]
        exact h.fits m hm
  unique := by
    intro m hm m' hm' htxid hsub
    rcases mem_queue_written.1 hm with hm | hm <;> rcases mem_queue_written.1 hm' with hm' | hm'
    · exact Option.some.inj (hm.symm.trans hm')
    -- a timelock is opened only where none of its path is queued
    · obtain ⟨hd, -, hnew⟩ := hopened m hm
      exact absurd hsub.symm (hnew m' hm' (htxid.symm.trans hd))
    · obtain ⟨hd, -, hnew⟩ := hopened m' hm'
      exact absurd hsub (hnew m hm (htxid.trans hd))
    · exact h.unique m hm m' hm' htxid hsub

/-- A new delegation waits for no timelock, and no marker is queued for it. -/
theorem Coherent.create (h : s.Coherent) {stake : Stake} (hnone : s.delegation? stake.txid = none) :
    (s.written stake.txid (.ofStake stake) none).Coherent := by
  refine Coherent.written h (d := .ofStake stake) ?_ ?_ ?_
  · intro path hpath
    cases path <;> cases hpath
  · intro m hm htxid
    obtain ⟨d, hd, -⟩ := h.fits m hm
    rw [htxid] at hd
    exact absurd (hd.symm.trans hnone) nofun
  · nofun

/-- The markers that are queued for a delegation fit it. -/
theorem Coherent.fits_own (h : s.Coherent) {txid : Txid} {d : Delegation}
    (hd : s.delegation? txid = some d) {m : Marker} (hm : m ∈ s.queue) (htxid : m.txid = txid) :
    m.Fits d := by
  obtain ⟨d', hd', hfit⟩ := h.fits m hm
  rw [htxid, hd] at hd'
  obtain rfl := Option.some.inj hd'
  exact hfit

/-- A signature changes nothing that a timelock depends on. -/
theorem Coherent.sign (h : s.Coherent) {txid : Txid} {d : Delegation}
    (hd : s.delegation? txid = some d) (signatures : SortedMap XOnlyKey Signature) :
    (s.written txid { d with signatures } none).Coherent := by
  obtain rfl := h.keyed txid d hd
  refine Coherent.written h (d := { d with signatures }) ?_ ?_ ?_
  · intro path hpath
    obtain ⟨height, hheight, hmem⟩ := h.queued d.txid d path hd hpath
    exact ⟨height, hheight, .inr hmem⟩
  · intro m hm htxid
    have hfit : m.Fits d := h.fits_own hd hm htxid
    exact ⟨hfit.reached, hfit.placed⟩
  · nofun

/-- A planned change of state opens the timelock that its target waits for, so that the store stays
coherent. -/
theorem Coherent.move (h : s.Coherent) {checkpoint : CheckpointParams} {txid : Txid}
    {d : Delegation} {o : Observation} {u : StateUpdate} (hd : s.delegation? txid = some d)
    (hu : u.IsPlanned checkpoint d o) :
    (s.written txid (u.applyTo d) u.timelock).Coherent := by
  obtain rfl := h.keyed txid d hd
  have hrank := hu.rank_lt
  have hold : ∀ m ∈ s.queue, m.txid = d.txid → m.Fits d := fun m => h.fits_own hd
  -- markers are queued only for states it has come to, and the one it moves to is none of them
  have hnext : ∀ m ∈ s.queue, m.txid = d.txid → m.subState.awaited ≠ u.target := by
    intro m hm htxid heq
    have hreached := (hold m hm htxid).reached
    rw [heq] at hreached
    omega
  refine Coherent.written h (d := u.applyTo d) ?_ ?_ ?_
  · intro path hpath
    rcases hu.opens with ⟨-, -, hnone⟩ | ⟨m, hm, htxid, htarget, -⟩
    · exact absurd hpath (hnone path)
    · obtain rfl := SubState.awaited_inj (htarget.symm.trans hpath)
      refine ⟨m.expireHeight, by simp [StateUpdate.applyTo, hm], .inl ?_⟩
      rw [hm]
      change some m = some ⟨m.expireHeight, d.txid, m.subState⟩
      rw [← htxid]
  · intro m hm htxid
    obtain ⟨hreached, hplaced⟩ := hold m hm htxid
    refine ⟨Nat.le_of_lt (Nat.lt_of_le_of_lt hreached hrank), fun hsub => ?_⟩
    -- a start is recorded only with the move into the active state
    have hstart : u.startHeight = none := by
      rcases hu.opens with ⟨-, hnone, -⟩ | ⟨m', -, -, htarget, hstart⟩
      · exact hnone
      · cases hsub' : m'.subState with
        | timelock =>
          refine absurd ?_ (hnext m hm htxid)
          rw [hsub, htarget, hsub']
        | earlyUnbonding =>
          rw [hsub'] at hstart
          exact hstart
    obtain ⟨start, hs, hexpire⟩ := hplaced hsub
    refine ⟨start, ?_, hexpire⟩
    rw [StateUpdate.applyTo, hstart]
    exact hs
  · intro m hm
    rcases hu.opens with ⟨hnone, -⟩ | ⟨m', hm', htxid, htarget, hstart⟩
    · exact absurd (hm.symm.trans hnone) nofun
    · obtain rfl := Option.some.inj (hm.symm.trans hm')
      refine ⟨htxid, ⟨?_, fun hsub => ?_⟩, fun m' hm' htxid' hsub => ?_⟩
      · change m.subState.awaited.rank ≤ u.target.rank
        exact Nat.le_of_eq (congrArg State.rank htarget.symm)
      · rw [hsub] at hstart
        obtain ⟨start, hs, hexpire⟩ := hstart
        refine ⟨start, ?_, hexpire⟩
        rw [StateUpdate.applyTo, hs]
        rfl
      · exact hnext m' hm' htxid' (by rw [hsub, htarget])

/-- The marker of a timelock that is not waited for any more can be removed. -/
theorem Coherent.erase (h : s.Coherent) {m : Marker} (hm : s.IsSettled m) :
    Coherent { s with queue := s.queue.erase m } where
  keyed := h.keyed
  queued := by
    intro txid d path hd hstate
    obtain ⟨height, hheight, hmem⟩ := h.queued txid d path hd hstate
    refine ⟨height, hheight, SortedSet.mem_erase_iff.2 ⟨hmem, ?_⟩⟩
    -- the delegation of the marker has left the state that waits for it
    rintro rfl
    obtain ⟨d', hd', hrank⟩ := hm
    obtain rfl := Option.some.inj (hd.symm.trans hd')
    rw [hstate] at hrank
    exact Nat.lt_irrefl _ hrank
  fits m' hm' := h.fits m' (SortedSet.mem_erase_iff.1 hm').1
  unique m' hm' m'' hm'' :=
    h.unique m' (SortedSet.mem_erase_iff.1 hm').1 m'' (SortedSet.mem_erase_iff.1 hm'').1

end MemoryStore

end StakeLedger
