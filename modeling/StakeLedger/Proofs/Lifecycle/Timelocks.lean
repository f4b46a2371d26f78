import StakeLedger.Proofs.Lifecycle.Conduct

/-!
# No Timelock Is Lost

After any run, every delegation that waits for a timelock has the marker of it queued, and every
marker that is queued stands where it belongs (`run_timelocks`). A scan removes a marker after
whatever verdict it was given, and it may work from a page that was fetched long ago. No timelock is
lost by that, because a verdict is only given once the delegation has left the state that waits for
it (`Verdict.isSettled`).
-/

namespace StakeLedger

/-- No timelock of the store `s` is lost, and no marker is out of place. -/
structure MemoryStore.HoldsTimelocks (s : MemoryStore) : Prop where
  /-- An `active` delegation has the end of its staking time queued. -/
  active : ∀ txid d, s.delegation? txid = some d → d.state = .active →
    ∃ height, d.expiryHeight = some height ∧ ⟨height, txid, .timelock⟩ ∈ s.queue
  /-- An `unbonding` delegation has the end of its unbonding time queued. -/
  unbonding : ∀ txid d, s.delegation? txid = some d → d.state = .unbonding →
    ∃ height, d.expiryHeight = some height ∧ ⟨height, txid, .earlyUnbonding⟩ ∈ s.queue
  /-- Every marker of the queue names a delegation that is known. -/
  known : ∀ m ∈ s.queue, ∃ d, s.delegation? m.txid = some d
  /-- A delegation has at most one marker for a path, at whatever height. -/
  unique : ∀ m ∈ s.queue, ∀ m' ∈ s.queue, m.txid = m'.txid → m.subState = m'.subState → m = m'
  /-- The marker of a staking time stands `stakingTime` above the start of a delegation that has
  been active. -/
  timelock : ∀ m ∈ s.queue, m.subState = .timelock → ∀ d, s.delegation? m.txid = some d →
    d.state ≠ .pending ∧ d.state ≠ .verified ∧ ∃ start, d.startHeight = some start ∧
      m.expireHeight.toNat = start.toNat + d.stake.stakingTime.toNat
  /-- The marker of an unbonding time belongs to a delegation that has been `unbonding`. -/
  earlyUnbonding : ∀ m ∈ s.queue, m.subState = .earlyUnbonding →
    ∀ d, s.delegation? m.txid = some d →
    d.state ≠ .pending ∧ d.state ≠ .verified ∧ d.state ≠ .active

theorem State.ne_of_rank_lt {a b : State} (h : a.rank < b.rank) : b ≠ a := by
  rintro rfl
  exact Nat.lt_irrefl _ h

/-- Where records and queue are `Coherent`, timelocks are held: the state of a delegation says which
of them it waits for, and the rank of its state which it has waited for. -/
theorem MemoryStore.Coherent.holdsTimelocks {s : MemoryStore} (h : s.Coherent) :
    s.HoldsTimelocks where
  active txid d hd hstate := h.queued txid d .timelock hd hstate
  unbonding txid d hd hstate := h.queued txid d .earlyUnbonding hd hstate
  known m hm := by
    obtain ⟨d, hd, -⟩ := h.fits m hm
    exact ⟨d, hd⟩
  unique := h.unique
  timelock m hm hsub d hd := by
    -- the record of a marker is the one that it fits
    obtain ⟨hreached, hplaced⟩ := h.fits_own hd hm rfl
    rw [hsub] at hreached
    refine ⟨State.ne_of_rank_lt (Nat.lt_of_lt_of_le ?_ hreached),
      State.ne_of_rank_lt (Nat.lt_of_lt_of_le ?_ hreached), hplaced hsub⟩ <;> decide
  earlyUnbonding m hm hsub d hd := by
    have hreached := (h.fits_own hd hm rfl).reached
    rw [hsub] at hreached
    refine ⟨State.ne_of_rank_lt (Nat.lt_of_lt_of_le ?_ hreached),
      State.ne_of_rank_lt (Nat.lt_of_lt_of_le ?_ hreached),
      State.ne_of_rank_lt (Nat.lt_of_lt_of_le ?_ hreached)⟩ <;> decide

/-- Whatever calls run side by side over an initially empty memory store, in whatever order their
requests are served, and wherever they fail or are abandoned: the store `HoldsTimelocks`, so that
every delegation that waits for a timelock has its marker queued, and every marker stands where it
belongs. -/
theorem run_timelocks (registry : Registry) (schedule : List (Action Call)) :
    (registry.workload.run .empty schedule).store.HoldsTimelocks :=
  (registry.run_coherent schedule).holdsTimelocks

end StakeLedger
