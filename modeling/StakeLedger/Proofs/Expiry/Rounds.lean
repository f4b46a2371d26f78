import StakeLedger.Proofs.Expiry.Settlement

/-!
# Scans that Run Alone

A scan that runs by itself works off page after page (`Registry.WorksOff`), and it always comes to
an end with a report (`Registry.run_scanAfter`). What it reports as removed is what the queue has
lost (`Registry.WorksOff.removes`), and if it has removed nothing, then every marker that is due
belongs to no delegation (`Registry.WorksOff.unknown_of_deleted_eq`).
-/

namespace StakeLedger

/-- What is counted as removed between `report` and `report'` is what the queue has lost between `s`
and `s'`. -/
structure Removes (report report' : ScanReport) (s s' : MemoryStore) : Prop where
  /-- The count `deleted` does not go down. -/
  le : report.deleted ≤ report'.deleted
  /-- What is added to `deleted` is missing from the queue. -/
  size : report'.deleted + s'.queue.size = report.deleted + s.queue.size

theorem Removes.trans {report report' report'' : ScanReport} {s s' s'' : MemoryStore}
    (h : Removes report report' s s') (h' : Removes report' report'' s' s'') :
    Removes report report'' s s'' :=
  ⟨Nat.le_trans h.le h'.le, h'.size.trans h.size⟩

namespace Registry

variable {registry : Registry} {s s' : MemoryStore} {m : Marker} {d : Delegation}
  {report report' : ScanReport}

/-! ## Markers -/

/-- A marker that is queued is removed and counted, and any other one is not found. -/
theorem run_removeMarker_deleted (s : MemoryStore) (m : Marker) (report : ScanReport) :
    ((removeMarker m report).run MemoryStore.backend s).1.deleted =
      report.deleted + (if m ∈ s.queue then 1 else 0) ∧
    ((removeMarker m report).run MemoryStore.backend s).2.queue = s.queue.erase m := by
  have hanswer : MemoryStore.backend.answer (.deleteMarker m) s =
    (.ok (s.deleteMarker m).1, (s.deleteMarker m).2) := rfl
  rcases s.deleteMarker_cases m with ⟨hm, hdelete⟩ | ⟨hm, hdelete⟩ <;> rw [hdelete] at hanswer
  · simp [removeMarker, Program.run, hanswer, hm, SortedSet.erase_of_not_mem hm]
  · simp [removeMarker, Program.run, hanswer, hm]

/-- A marker that belongs to no delegation is counted as `failed` and stays. -/
theorem run_handleMarker_unknown (hnone : s.delegation? m.txid = none) (report : ScanReport) :
    (registry.handleMarker m report).run MemoryStore.backend s =
      ({ report with failed := report.failed + 1 }, s) := by
  have hread : MemoryStore.backend.answer (.getDelegation m.txid) s = (.ok none, s) := by
    show (Except.ok (s.delegation? m.txid), s) = _
    rw [hnone]
  rw [handleMarker, Program.run_bind, apply, Program.run_request hread]
  rfl

/-- A marker that belongs to a delegation is removed, whatever its expiry was answered. -/
theorem run_handleMarker_known (hkeyed : s.IsKeyed) (hd : s.delegation? m.txid = some d)
    (report : ScanReport) :
    ((registry.handleMarker m report).run MemoryStore.backend s).1.deleted =
      report.deleted + (if m ∈ s.queue then 1 else 0) ∧
    ((registry.handleMarker m report).run MemoryStore.backend s).2.queue = s.queue.erase m := by
  rw [handleMarker, Program.run_bind, run_expiry hd (hkeyed _ _ hd)]
  by_cases h : d.Awaits m
  · rw [if_pos h]
    exact run_removeMarker_deleted (s.written m.txid d.expired none) m _
  · rw [if_neg h]
    exact run_removeMarker_deleted s m _

/-- Handling a marker counts it as removed exactly if the queue has lost it. -/
theorem removes_handleMarker (hkeyed : s.IsKeyed) (m : Marker) (report : ScanReport) :
    Removes report ((registry.handleMarker m report).run MemoryStore.backend s).1 s
      ((registry.handleMarker m report).run MemoryStore.backend s).2 := by
  cases hd : s.delegation? m.txid with
  | none =>
    rw [run_handleMarker_unknown hd]
    exact ⟨Nat.le_refl _, rfl⟩
  | some d =>
    -- the count and the size of the queue both change by one, or neither does
    obtain ⟨hdeleted, hqueue⟩ := registry.run_handleMarker_known hkeyed hd report
    constructor
    · rw [hdeleted]
      exact Nat.le_add_right _ _
    · rw [hdeleted, hqueue]
      by_cases hm : m ∈ s.queue
      · rw [if_pos hm, ← SortedSet.size_erase hm, Nat.add_assoc, Nat.add_comm 1]
      · rw [if_neg hm, SortedSet.erase_of_not_mem hm, Nat.add_zero]

/-! ## Pages -/

/-- Handling a page counts as removed what the queue has lost, marker by marker. -/
theorem removes_handlePage (hkeyed : s.IsKeyed) {page : List Marker}
    (hrun : (registry.handlePage page report).run MemoryStore.backend s = (report', s')) :
    Removes report report' s s' := by
  induction page generalizing s report with
  | nil =>
    obtain ⟨rfl, rfl⟩ := Prod.mk.inj hrun
    exact ⟨Nat.le_refl _, rfl⟩
  | cons m rest ih =>
    rw [handlePage, Program.run_bind] at hrun
    exact (removes_handleMarker hkeyed m report).trans (ih (hkeyed.run _) hrun)

/-- If nothing of a `page` is removed, then all of it has failed, because none of its markers
belongs to a delegation. -/
theorem unknown_of_handlePage (hkeyed : s.IsKeyed) {page : List Marker}
    (hpage : ∀ m ∈ page, m ∈ s.queue)
    (hrun : (registry.handlePage page report).run MemoryStore.backend s = (report', s'))
    (hnone : report'.deleted = report.deleted) :
    (∀ m ∈ page, s.delegation? m.txid = none) ∧ s' = s ∧
      report'.failed = report.failed + page.length := by
  induction page generalizing report with
  | nil =>
    obtain ⟨rfl, rfl⟩ := Prod.mk.inj hrun
    exact ⟨by simp, rfl, rfl⟩
  | cons m rest ih =>
    obtain ⟨hm, hrest⟩ := List.forall_mem_cons.1 hpage
    rw [handlePage, Program.run_bind] at hrun
    cases hd : s.delegation? m.txid with
    | none =>
      rw [run_handleMarker_unknown hd] at hrun
      obtain ⟨hunknown, hs, hfailed⟩ := ih hrest hrun hnone
      refine ⟨List.forall_mem_cons.2 ⟨hd, hunknown⟩, hs, hfailed.trans ?_⟩
      rw [List.length_cons, Nat.add_assoc, Nat.add_comm 1]
    | some d =>
      -- the marker is removed, and the count does not go down again
      obtain ⟨hdeleted, -⟩ := registry.run_handleMarker_known hkeyed hd report
      have hle := (removes_handlePage (hkeyed.run _) hrun).le
      rw [hnone, hdeleted, if_pos hm] at hle
      omega

/-! ## Scans -/

/-- A scan that runs by itself has worked off the due markers behind a given one, page after
page. -/
inductive WorksOff (registry : Registry) (pageSize : Nat) (tip : Height) :
    Option Marker → ScanReport → MemoryStore → ScanReport → MemoryStore → Prop where
  /-- A page that is short, or of which no marker has failed, is the last one. -/
  | last {after : Option Marker} {report report' : ScanReport} {s s' : MemoryStore}
    (hpage : (registry.handlePage (s.dueMarkers tip after pageSize)
      { report with due := report.due + (s.dueMarkers tip after pageSize).length }).run
        MemoryStore.backend s = (report', s'))
    (hlast : (s.dueMarkers tip after pageSize).length = pageSize → report'.failed ≤ report.failed) :
    WorksOff registry pageSize tip after report s report' s'
  /-- Any other page is followed by the markers behind its `last` one. -/
  | next {after : Option Marker} {report report' report'' : ScanReport} {s s' s'' : MemoryStore}
    {last : Marker} (hpage : (registry.handlePage (s.dueMarkers tip after pageSize)
      { report with due := report.due + (s.dueMarkers tip after pageSize).length }).run
        MemoryStore.backend s = (report', s'))
    (hend : (s.dueMarkers tip after pageSize).getLast? = some last)
    (hrest : WorksOff registry pageSize tip (some last) report' s' report'' s'') :
    WorksOff registry pageSize tip after report s report'' s''

/-- A scan that runs by itself comes to an end with a report, and `WorksOff` its pages. The
induction is on the markers above the start of the page. -/
theorem run_scanAfter (registry : Registry) (pageSize : Nat) (tip : Height) (after : Option Marker)
    (report : ScanReport) (s : MemoryStore) :
    ∃ report' s', (registry.scanAfter pageSize tip after report).run MemoryStore.backend s =
      (.ok report', s') ∧ registry.WorksOff pageSize tip after report s report' s' := by
  induction hn : Marker.remaining after using Nat.strongRecOn generalizing after report s with
  | _ n ih =>
    have hanswer : MemoryStore.backend.answer (.dueMarkers tip after pageSize) s =
      (.ok (s.dueMarkers tip after pageSize), s) := rfl
    have hafter : ∀ last, (s.dueMarkers tip after pageSize).getLast? = some last →
        ∀ a ∈ after, compare a last = .lt :=
      fun last hlast => (MemoryStore.mem_of_mem_dueMarkers (List.mem_of_getLast? hlast)).2.2
    rw [scanAfter, Program.run_request hanswer, Program.run_bind]
    cases hpage : (registry.handlePage (s.dueMarkers tip after pageSize)
      { report with due := report.due + (s.dueMarkers tip after pageSize).length }).run
          MemoryStore.backend s with
    | mk report' s' =>
      dsimp only
      cases hlast : (s.dueMarkers tip after pageSize).getLast? with
      | none =>
        -- an empty page leaves the report as it is
        have hnil := List.getLast?_eq_none_iff.1 hlast
        refine ⟨report', s', rfl, .last hpage fun _ => ?_⟩
        rw [hnil] at hpage
        obtain ⟨rfl, -⟩ := Prod.mk.inj hpage
        exact Nat.le_refl _
      | some last =>
        dsimp only
        split
        next hmore =>
          rw [dif_pos (hafter last hlast)]
          have hremaining := hn ▸ Marker.remaining_lt (hafter last hlast)
          obtain ⟨report'', s'', hrun, hrest⟩ := ih _ hremaining _ report' s' rfl
          exact ⟨report'', s'', hrun, .next hpage hlast hrest⟩
        next hend =>
          refine ⟨report', s', rfl, .last hpage fun hfull => Nat.le_of_not_lt fun hlt => ?_⟩
          exact hend ⟨hfull, hlt⟩

namespace WorksOff

variable {pageSize : Nat} {tip : Height} {after : Option Marker}

/-- What a scan reports as removed is what the queue has lost. -/
theorem removes (h : registry.WorksOff pageSize tip after report s report' s')
    (hkeyed : s.IsKeyed) :
    Removes report report' s s' := by
  induction h with
  | last hpage _ =>
    have hfirst := removes_handlePage hkeyed hpage
    exact ⟨hfirst.le, hfirst.size⟩
  | next hpage _ _ ih =>
    have hfirst := removes_handlePage hkeyed hpage
    exact Removes.trans ⟨hfirst.le, hfirst.size⟩ (ih (hkeyed.of_run hpage))

/-- If a scan has removed nothing, by `report'.deleted = report.deleted`, then every due marker
belongs to no delegation, and the store is as it was. -/
theorem unknown_of_deleted_eq (h : registry.WorksOff pageSize tip after report s report' s')
    (hkeyed : s.IsKeyed) (hsize : 0 < pageSize) (hnone : report'.deleted = report.deleted) :
    s' = s ∧ ∀ m ∈ s.queue, m.IsDue tip → (∀ a ∈ after, compare a m = .lt) →
        s.delegation? m.txid = none := by
  induction h with
  | @last after report report' s s' hpage hlast =>
    have hqueued : ∀ m ∈ s.dueMarkers tip after pageSize, m ∈ s.queue :=
      fun m hm => (MemoryStore.mem_of_mem_dueMarkers hm).1
    obtain ⟨hunknown, rfl, hfailed⟩ := unknown_of_handlePage hkeyed hqueued hpage hnone
    refine ⟨rfl, fun m hm hdue hafter => ?_⟩
    rcases MemoryStore.mem_dueMarkers_or_behind hm hdue hafter pageSize with hm | ⟨hfull, -⟩
    · exact hunknown m hm
    · -- a full page of failures is not the last one
      have hle := hlast hfull
      dsimp only at hfailed
      omega
  | @next after report report' report'' s s' s'' last hpage hend hrest ih =>
    have hqueued : ∀ m ∈ s.dueMarkers tip after pageSize, m ∈ s.queue :=
      fun m hm => (MemoryStore.mem_of_mem_dueMarkers hm).1
    have hkeyed' := hkeyed.of_run hpage
    -- neither the page nor the ones that follow it have removed anything
    have hfirst : report.deleted ≤ report'.deleted := (removes_handlePage hkeyed hpage).le
    have hothers := (hrest.removes hkeyed').le
    have hfirst_none : report'.deleted = report.deleted := Nat.le_antisymm (hnone ▸ hothers) hfirst
    obtain ⟨hunknown, rfl, -⟩ := unknown_of_handlePage hkeyed hqueued hpage hfirst_none
    obtain ⟨rfl, hrest_unknown⟩ := ih hkeyed' (hnone.trans hfirst_none.symm)
    refine ⟨rfl, fun m hm hdue hafter => ?_⟩
    rcases MemoryStore.mem_dueMarkers_or_behind hm hdue hafter pageSize with hm | ⟨-, hbehind⟩
    · exact hunknown m hm
    · exact hrest_unknown m hm hdue fun a ha => Option.some.inj ha ▸ hbehind last
        (List.mem_of_getLast? hend)

end WorksOff

end Registry

end StakeLedger
