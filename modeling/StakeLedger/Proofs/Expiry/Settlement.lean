import StakeLedger.Proofs.Lifecycle.Alone
import StakeLedger.Proofs.Lifecycle.Asked
import StakeLedger.Proofs.Lifecycle.Rejection
import StakeLedger.Proofs.Store.Records

/-!
# What a Scan Settles

A scan sees markers and no delegations. Each marker moves its delegation if this one waits for it
(`Delegation.Awaits`), so that a page moves the delegations that wait for one of its markers
(`Registry.run_handlePage`). Where records and queue are coherent, a delegation waits for a due
marker exactly if its own expiry height is due (`MemoryStore.Coherent.isOverdue_iff`), even if older
markers of it are still queued.

The main statement is `scan_settles`.
-/

namespace StakeLedger

namespace Delegation

/-- The timelock that the delegation `d` waits for has run out at `tip`. -/
def IsOverdue (tip : Height) (d : Delegation) : Prop :=
  (d.state = .active ∨ d.state = .unbonding) ∧ ∃ height ∈ d.expiryHeight, height ≤ tip

instance (tip : Height) (d : Delegation) : Decidable (d.IsOverdue tip) :=
  inferInstanceAs (Decidable (_ ∧ _))

/-- A delegation once the timelock it waits for has run out: the one of the staking output while it
is active, the one of the unbonding output afterwards. -/
def expired (d : Delegation) : Delegation :=
  { d with
    state := .unbonded
    subState := some (if d.state = .active then .timelock else .earlyUnbonding) }

/-- A delegation as a scan at `tip` should leave it: `d.expired` if it is overdue, and `d` itself
otherwise. -/
def settledAt (tip : Height) (d : Delegation) : Delegation :=
  if d.IsOverdue tip then d.expired else d

/-- The delegation `d` waits for the timelock of the marker `m`: it is the one of `m`, in the state
that waits for the path of `m`. -/
def Awaits (d : Delegation) (m : Marker) : Prop := m.txid = d.txid ∧ d.state = m.subState.awaited

instance (d : Delegation) (m : Marker) : Decidable (d.Awaits m) :=
  inferInstanceAs (Decidable (_ ∧ _))

/-- A delegation once the markers of a `page` have been handled. -/
def handled (page : List Marker) (d : Delegation) : Delegation :=
  if ∃ m ∈ page, d.Awaits m then d.expired else d

/-- A delegation that waits for `path` expires along `path`. -/
theorem expired_eq {d : Delegation} {path : SubState} (h : d.state = path.awaited) :
    d.expired = { d with state := .unbonded, subState := some path } := by
  cases path <;> simp [expired, h, SubState.awaited]

theorem not_awaits_of_unbonded {d : Delegation} (h : d.state = .unbonded) (m : Marker) :
    ¬d.Awaits m := by
  rintro ⟨-, hstate⟩
  rw [h] at hstate
  revert hstate
  cases m.subState <;> decide

theorem not_awaits_expired (d : Delegation) (m : Marker) :
    ¬d.expired.Awaits m := not_awaits_of_unbonded rfl m

theorem handled_nil (d : Delegation) : d.handled [] = d := by simp [handled]

/-- The first marker that a delegation waits for decides, since it waits for none afterwards. -/
theorem handled_cons (d : Delegation) (m : Marker) (page : List Marker) :
    d.handled (m :: page) = (if d.Awaits m then d.expired else d).handled page := by
  by_cases h : d.Awaits m
  · simp [handled, h, not_awaits_expired]
  · simp [handled, h]

/-- Each delegation is counted once, at the first marker it waits for, so that counts along a page
add up. -/
theorem countP_awaits (l : List Delegation) (m : Marker) (page : List Marker) :
    l.countP (fun d => d.Awaits m) +
      (l.map fun d => if d.Awaits m then d.expired else d).countP
        (fun d => ∃ m ∈ page, d.Awaits m) =
    l.countP (fun d => ∃ m' ∈ m :: page, d.Awaits m') := by
  induction l with
  | nil => rfl
  | cons d l ih =>
    simp only [List.map_cons, List.countP_cons, ← ih]
    by_cases h : d.Awaits m
    · simp [h, not_awaits_expired]
      omega
    · simp [h]
      omega

end Delegation

/-- The markers that an exchange lists, if it lists any. -/
def Exchange.page? : Exchange → Option (List Marker)
  | ⟨.dueMarkers _ _ _, .ok page⟩ => some page
  | _ => none

/-- Only the request `dueMarkers` lists markers. -/
theorem Exchange.page?_eq_none {e : Exchange} (h : e.request.method ≠ .dueMarkers) :
    e.page? = none := by
  obtain ⟨r, reply⟩ := e
  cases r <;> first | rfl | exact absurd rfl h

namespace Registry

variable {registry : Registry} {s : MemoryStore} {m : Marker} {d : Delegation} {report : ScanReport}

/-! ## Markers and Pages -/

/-- The expiry of `m` moves the delegation if it `Awaits m`, and is rejected otherwise. -/
theorem run_expiry (hd : s.delegation? m.txid = some d) (htxid : d.txid = m.txid) :
    (registry.apply (.observed m.txid (.timelockExpired m.subState))).run MemoryStore.backend s =
      if d.Awaits m then
        (.ok (.applied m.txid (some d.state) .unbonded (some m.subState) none),
          s.written m.txid d.expired none)
      else (.ok (.rejected m.txid (some (.timelockExpired m.subState)) (some d.state)), s) := by
  have hawaits : d.state ∈ (TransitionKind.timelockExpired m.subState).qualified ↔ d.Awaits m := by
    rw [TransitionKind.qualified_timelockExpired, List.mem_singleton]
    simp [Delegation.Awaits, htxid]
  rw [registry.run_observed_plain hd htxid fun _ => rfl]
  simp only [Observation.kind, hawaits]
  split
  next h => rw [Delegation.expired_eq h.2]; rfl
  next => rfl

/-- Removing a marker changes no record, and its result is counted as `deleted` or not at all. -/
theorem run_removeMarker (s : MemoryStore) (m : Marker) (report : ScanReport) :
    ((removeMarker m report).run MemoryStore.backend s).1.failed = report.failed ∧
    ((removeMarker m report).run MemoryStore.backend s).1.applied = report.applied ∧
    ∀ txid, ((removeMarker m report).run MemoryStore.backend s).2.delegation? txid =
      s.delegation? txid := by
  have hanswer : MemoryStore.backend.answer (.deleteMarker m) s =
    (.ok (s.deleteMarker m).1, (s.deleteMarker m).2) := rfl
  rcases s.deleteMarker_cases m with ⟨-, hdelete⟩ | ⟨-, hdelete⟩ <;> rw [hdelete] at hanswer <;>
    simp [removeMarker, Program.run, hanswer, MemoryStore.delegation?]

/-- A marker moves the delegation that waits for it, and is counted as `applied` then. -/
theorem run_handleMarker (hkeyed : s.IsKeyed) (hd : s.delegation? m.txid = some d)
    (report : ScanReport) :
    ((registry.handleMarker m report).run MemoryStore.backend s).1.failed = report.failed ∧
    ((registry.handleMarker m report).run MemoryStore.backend s).1.applied =
      report.applied + s.records.countP (fun d => d.Awaits m) ∧
    ∀ txid, ((registry.handleMarker m report).run MemoryStore.backend s).2.delegation? txid =
      (s.delegation? txid).map fun d => if d.Awaits m then d.expired else d := by
  -- no other delegation waits for the marker
  have hothers : ∀ txid d', s.delegation? txid = some d' → txid ≠ m.txid → ¬d'.Awaits m :=
    fun txid d' hd' hne h => hne ((hkeyed _ _ hd').symm.trans h.1.symm)
  have hcount : s.records.countP (fun d => d.Awaits m) = if d.Awaits m then 1 else 0 := by
    rw [(MemoryStore.records_of_delegation? hd).countP_eq, List.countP_cons, List.countP_eq_zero.2,
      Nat.zero_add]
    · simp
    · intro d' hd'
      obtain ⟨hmem, hne⟩ := MemoryStore.mem_others hkeyed hd'
      simpa using hothers _ d' ((MemoryStore.mem_records_iff hkeyed).1 hmem) hne
  have hkept : ∀ txid, txid ≠ m.txid →
      s.delegation? txid = (s.delegation? txid).map fun d =>
          if d.Awaits m then d.expired else d := by
    intro txid hne
    cases hd' : s.delegation? txid with
    | none => rfl
    | some d' => simp [hothers txid d' hd' hne]
  rw [handleMarker, Program.run_bind, run_expiry hd (hkeyed _ _ hd), hcount]
  by_cases h : d.Awaits m
  · rw [if_pos h, if_pos h]
    obtain ⟨hfailed, happlied, hrecords⟩ := run_removeMarker
      (s.written m.txid d.expired none) m { report with applied := report.applied + 1 }
    refine ⟨hfailed, happlied, fun txid => (hrecords txid).trans ?_⟩
    by_cases htxid : txid = m.txid
    · subst htxid
      simp [hd, h]
    · rw [s.delegation?_written_of_ne _ _ htxid]
      exact hkept txid htxid
  · rw [if_neg h, if_neg h]
    obtain ⟨hfailed, happlied, hrecords⟩ := run_removeMarker s m
      { report with rejected := report.rejected + 1 }
    refine ⟨hfailed, happlied, fun txid => (hrecords txid).trans ?_⟩
    by_cases htxid : txid = m.txid
    · subst htxid
      simp [hd, h]
    · exact hkept txid htxid

/-- A `page` moves the delegations that wait for one of its markers, and nothing else. The induction
is on the page; that the records are keyed and that those of the markers exist is all that it needs
of the store. -/
theorem run_handlePage {page : List Marker} (hkeyed : s.IsKeyed)
    (hknown : ∀ m ∈ page, ∃ d, s.delegation? m.txid = some d) (report : ScanReport) :
    ((registry.handlePage page report).run MemoryStore.backend s).1.failed = report.failed ∧
    ((registry.handlePage page report).run MemoryStore.backend s).1.applied =
      report.applied + s.records.countP (fun d => ∃ m ∈ page, d.Awaits m) ∧
    ∀ txid, ((registry.handlePage page report).run MemoryStore.backend s).2.delegation? txid =
      (s.delegation? txid).map (·.handled page) := by
  induction page generalizing s report with
  | nil =>
    refine ⟨rfl, by simp [handlePage, Program.run], fun txid => ?_⟩
    simp [handlePage, Program.run, Delegation.handled_nil]
  | cons m rest ih =>
    obtain ⟨hm, hrest⟩ := List.forall_mem_cons.1 hknown
    obtain ⟨d, hd⟩ := hm
    obtain ⟨hfailed, happlied, hrecords⟩ := registry.run_handleMarker hkeyed hd report
    rw [handlePage, Program.run_bind]
    generalize (registry.handleMarker m report).run MemoryStore.backend s = result at *
    obtain ⟨report', s'⟩ := result
    dsimp only at hfailed happlied hrecords ⊢
    -- the records stay where they are
    have hkeyed' : s'.IsKeyed := by
      intro txid d' hd'
      rw [hrecords, Option.map_eq_some_iff] at hd'
      obtain ⟨d, hd, rfl⟩ := hd'
      rw [← hkeyed txid d hd]
      split <;> rfl
    have hrest' : ∀ m ∈ rest, ∃ d, s'.delegation? m.txid = some d := by
      intro m' hm'
      obtain ⟨d', hd'⟩ := hrest m' hm'
      exact ⟨_, by rw [hrecords, hd', Option.map_some]⟩
    obtain ⟨hfailed', happlied', hrecords'⟩ := ih hkeyed' hrest' report'
    refine ⟨hfailed'.trans hfailed, ?_, fun txid => ?_⟩
    · rw [happlied', happlied, Nat.add_assoc, (MemoryStore.records_map hrecords).countP_eq,
        Delegation.countP_awaits]
    · rw [hrecords', hrecords, Option.map_map]
      congr 1
      funext d
      exact (d.handled_cons m rest).symm

/-! ## Scans -/

/-- The pages that a scan lists when it runs by itself, the first one first. -/
def scanPages (registry : Registry) (pageSize : Nat) (tip : Height) (s : MemoryStore) :
    List (List Marker) :=
  ((registry.scan pageSize tip).exchanges MemoryStore.backend s).filterMap Exchange.page?

/-- No marker fails where records and queue are coherent, so that a scan is done with its first
page, and has `handled` each record by it. -/
theorem run_scan (hs : s.Coherent) (pageSize : Nat) (tip : Height) :
    registry.scanPages pageSize tip s = [s.dueMarkers tip none pageSize] ∧
    ∃ report, ((registry.scan pageSize tip).run MemoryStore.backend s).1 = .ok report ∧
      report.applied =
        s.records.countP (fun d => ∃ m ∈ s.dueMarkers tip none pageSize, d.Awaits m) ∧
      ∀ txid, ((registry.scan pageSize tip).run MemoryStore.backend s).2.delegation? txid =
        (s.delegation? txid).map (·.handled (s.dueMarkers tip none pageSize)) := by
  have hanswer : MemoryStore.backend.answer (.dueMarkers tip none pageSize) s =
    (.ok (s.dueMarkers tip none pageSize), s) := rfl
  have hknown : ∀ m ∈ s.dueMarkers tip none pageSize, ∃ d, s.delegation? m.txid = some d := by
    intro m hm
    obtain ⟨d, hd, -⟩ := hs.fits m (MemoryStore.mem_of_mem_dueMarkers hm).1
    exact ⟨d, hd⟩
  -- a page does not depend on what was counted before it
  have hrun := fun report => registry.run_handlePage hs.keyed hknown report
  have hasks : ∀ report, ((registry.handlePage (s.dueMarkers tip none pageSize) report).OnlyAsks
      fun r => r.method ≠ .dueMarkers) := by
    refine onlyAsks_handlePage ?_ ?_ ?_ _ <;> simp [Request.method]
  generalize s.dueMarkers tip none pageSize = page at *
  rw [scanPages, scan, scanAfter, Program.exchanges_request hanswer, Program.run_request hanswer,
    Program.exchanges_bind, Program.run_bind]
  generalize hfirst : { ScanReport.start tip with due :=
    (ScanReport.start tip).due + page.length } = first
  obtain ⟨hfailed, happlied, hrecords⟩ := hrun first
  have hnone : ((registry.handlePage page first).exchanges MemoryStore.backend s).filterMap
      Exchange.page? = [] :=
    List.filterMap_eq_nil_iff.2 fun e he => Exchange.page?_eq_none ((hasks first).exchanges s e he)
  generalize (registry.handlePage page first).run MemoryStore.backend s = result at *
  obtain ⟨report', s'⟩ := result
  subst hfirst
  -- no marker has failed, so that no further page is due
  have hlast : ¬(page.length = pageSize ∧ (ScanReport.start tip).failed < report'.failed) := by
    simp_all [ScanReport.start]
  cases page.getLast? <;> simp only [if_neg hlast, Program.run, Program.exchanges, List.append_nil]
    <;> exact ⟨by simp [Exchange.page?, hnone], report', rfl,
      by simpa [ScanReport.start] using happlied, hrecords⟩

end Registry

/-- A delegation waits for a due marker exactly if its own expiry height is due: the marker it waits
for stands at this height, and any other marker of it is of a path that it does not wait for. -/
theorem MemoryStore.Coherent.isOverdue_iff {s : MemoryStore} (hs : s.Coherent) {txid : Txid}
    {d : Delegation} (hd : s.delegation? txid = some d) (tip : Height) :
    d.IsOverdue tip ↔ ∃ m, (m ∈ s.queue ∧ m.IsDue tip) ∧ d.Awaits m := by
  obtain rfl := hs.keyed txid d hd
  constructor
  · -- a coherent store queues the marker of an expiry height
    rintro ⟨hstate, height, hheight, hdue⟩
    obtain ⟨path, hpath⟩ : ∃ path : SubState, d.state = path.awaited := by
      rcases hstate with hstate | hstate
      · exact ⟨.timelock, hstate⟩
      · exact ⟨.earlyUnbonding, hstate⟩
    obtain ⟨height', hheight', hmem⟩ := hs.queued d.txid d path hd hpath
    obtain rfl : height = height' := Option.some.inj (hheight.symm.trans hheight')
    exact ⟨_, ⟨hmem, hdue⟩, rfl, hpath⟩
  · -- and it queues one marker for a path, so that the two heights are the same
    rintro ⟨m, ⟨hm, hdue⟩, htxid, hpath⟩
    obtain ⟨height, hheight, hmem⟩ := hs.queued d.txid d m.subState hd hpath
    have hm_eq : m = ⟨height, d.txid, m.subState⟩ := hs.unique m hm _ hmem htxid rfl
    have hheight_eq : m.expireHeight = height := congrArg Marker.expireHeight hm_eq
    refine ⟨?_, height, hheight, hheight_eq ▸ hdue⟩
    rw [hpath]
    cases m.subState with
    | timelock => exact .inl rfl
    | earlyUnbonding => exact .inr rfl

/-- From any store that calls have left, however they were interleaved and wherever they failed or
were abandoned: a scan whose last page is short of `pageSize` moves the delegations that wait for a
timelock and whose expiry height is due, each along the path it waits for, leaves every other
delegation as it is, and counts the delegations it has moved. -/
theorem scan_settles (registry : Registry) (schedule : List (Action Call)) (pageSize : Nat)
    (tip : Height)
    (hlast : ∃ last, (registry.scanPages pageSize tip
      (registry.workload.run .empty schedule).store).getLast? = some last ∧
        last.length < pageSize) :
    ∃ report, ((registry.scan pageSize tip).run MemoryStore.backend
        (registry.workload.run .empty schedule).store).1 = .ok report ∧
      report.applied =
        (registry.workload.run .empty schedule).store.records.countP (fun d => d.IsOverdue tip) ∧
      ∀ txid, ((registry.scan pageSize tip).run MemoryStore.backend
          (registry.workload.run .empty schedule).store).2.delegation? txid =
        ((registry.workload.run .empty schedule).store.delegation? txid).map (·.settledAt tip) := by
  have hs := registry.run_coherent schedule
  generalize (registry.workload.run .empty schedule).store = s at *
  obtain ⟨hpages, report, hreport, happlied, hrecords⟩ := registry.run_scan hs pageSize tip
  obtain ⟨last, hlast, hshort⟩ := hlast
  rw [hpages, List.getLast?_singleton] at hlast
  obtain rfl := Option.some.inj hlast
  -- the page lists every due marker, and its delegations are the overdue ones
  have hdue : ∀ txid d, s.delegation? txid = some d →
      ((∃ m ∈ s.dueMarkers tip none pageSize, d.Awaits m) ↔ d.IsOverdue tip) := by
    intro txid d hd
    simp only [hs.isOverdue_iff hd, MemoryStore.mem_dueMarkers_iff hshort]
  refine ⟨report, hreport, happlied.trans (List.countP_congr fun d hd => ?_), fun txid => ?_⟩
  · simp [hdue _ d ((MemoryStore.mem_records_iff hs.keyed).1 hd)]
  · rw [hrecords]
    cases hd : s.delegation? txid with
    | none => rfl
    | some d => simp [Delegation.handled, Delegation.settledAt, hdue txid d hd]

/-- Of two delegations, one is active until height 17 and one unbonds until height 25, with the
marker of its staking time still queued at height 17. -/
def staggered : List (Action Call) :=
  [.start (.apply (.newStake loneStake)), .serve 0,
    .start (.apply (.newStake { loneStake with txid := ⟨1⟩ })), .serve 1,
    .start (.apply (.observed ⟨0⟩ (.inclusionProofConfirmed 7 7))), .serve 2, .serve 2,
    .start (.apply (.observed ⟨1⟩ (.inclusionProofConfirmed 7 7))), .serve 3, .serve 3,
    .start (.apply (.observed ⟨1⟩ (.unbondingTxObserved 20))), .serve 4, .serve 4]

/-- In `staggered`, a scan at height 17 comes upon both markers of height 17, and moves only the
delegation that is active. -/
theorem staggered_settles :
    (loneRegistry.scanPages 3 17 (loneRegistry.workload.run .empty staggered).store).map
      (·.length) = [2] ∧
    ∃ report, ((loneRegistry.scan 3 17).run MemoryStore.backend
        (loneRegistry.workload.run .empty staggered).store).1 = .ok report ∧ report.applied = 1 ∧
      (((loneRegistry.scan 3 17).run MemoryStore.backend
        (loneRegistry.workload.run .empty staggered).store).2.delegation? ⟨0⟩).map
          (fun d => (d.state, d.subState)) = some (.unbonded, some .timelock) ∧
      ((loneRegistry.scan 3 17).run MemoryStore.backend
        (loneRegistry.workload.run .empty staggered).store).2.delegation? ⟨1⟩ =
          (loneRegistry.workload.run .empty staggered).store.delegation? ⟨1⟩ := by
  have hpages := (loneRegistry.run_scan (loneRegistry.run_coherent staggered) 3 17).1
  have hlast : ∃ last, (loneRegistry.scanPages 3 17
      (loneRegistry.workload.run .empty staggered).store).getLast? = some last ∧
          last.length < 3 := by
    rw [hpages]
    exact ⟨_, rfl, by decide⟩
  obtain ⟨report, hreport, happlied, hrecords⟩ := scan_settles loneRegistry staggered 3 17 hlast
  refine ⟨by rw [hpages]; rfl, report, hreport, happlied.trans (by rfl), ?_, ?_⟩
  · rw [hrecords]
    rfl
  · rw [hrecords]
    rfl

end StakeLedger
