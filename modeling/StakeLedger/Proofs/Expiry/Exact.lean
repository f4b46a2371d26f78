import StakeLedger.Proofs.Expiry.Account

/-!
# Scans Are Exact

A scan pages through the due markers while it removes them. The markers that a page leaves behind
itself are the same as before (`Registry.Handles.dueBehind_eq`), so that the pages continue one
another: no marker is skipped or listed again (`Registry.PagesThrough.listed`).

The main statement is `scan_exact`: a scan ends, and it handles the first markers that are due, one
after another and each of them once.
-/

namespace StakeLedger

namespace Registry

variable {registry : Registry} {refusal : Marker → Option StoreError} {pageSize : Nat}
  {tip : Height} {after : Option Marker} {pages : List (List Marker)} {report report' : ScanReport}
  {s s' : MemoryStore}

/-! ## Pages -/

/-- A scan at `tip`, on a store that refuses removals as `refusal` says, has gone through some pages
of the due markers behind a given one, from a report and a store to another report and another
store. -/
inductive PagesThrough (registry : Registry) (refusal : Marker → Option StoreError) (pageSize : Nat)
    (tip : Height) :
    Option Marker → ScanReport → MemoryStore → List (List Marker) → ScanReport → MemoryStore →
      Prop where
  /-- A page that is short, or of which no marker has failed, is the last one. -/
  | last {after : Option Marker} {report report' : ScanReport} {s s' : MemoryStore}
    (hpage : (registry.handlePage (s.dueMarkers tip after pageSize)
      { report with due := report.due + (s.dueMarkers tip after pageSize).length }).run
        (MemoryStore.refusing refusal) s = (report', s'))
    (hlast : (s.dueMarkers tip after pageSize).length = pageSize → report'.failed ≤ report.failed) :
    PagesThrough registry refusal pageSize tip after report s
      [s.dueMarkers tip after pageSize] report' s'
  /-- Any other page is followed by the markers behind its `last` one. -/
  | next {after : Option Marker} {report report' report'' : ScanReport} {s s' s'' : MemoryStore}
    {last : Marker} {pages : List (List Marker)}
    (hpage : (registry.handlePage (s.dueMarkers tip after pageSize)
      { report with due := report.due + (s.dueMarkers tip after pageSize).length }).run
        (MemoryStore.refusing refusal) s = (report', s'))
    (hend : (s.dueMarkers tip after pageSize).getLast? = some last)
    (hrest : PagesThrough registry refusal pageSize tip (some last) report' s' pages report'' s'') :
    PagesThrough registry refusal pageSize tip after report s
      (s.dueMarkers tip after pageSize :: pages) report'' s''

theorem onlyAsks_page (registry : Registry) (page : List Marker) (report : ScanReport) :
    (registry.handlePage page report).OnlyAsks fun r => r.method ≠ .dueMarkers := by
  refine onlyAsks_handlePage ?_ ?_ ?_ page report <;> simp [Request.method]

/-- No page is listed by handling the markers of a `page`. -/
theorem filterMap_page?_handlePage (backend : Backend MemoryStore) (page : List Marker)
    (report : ScanReport) (s : MemoryStore) :
    ((registry.handlePage page report).exchanges backend s).filterMap Exchange.page? = [] := by
  have hasks := onlyAsks_page registry page report
  exact List.filterMap_eq_nil_iff.2 fun e he => Exchange.page?_eq_none (hasks.exchanges s e he)

/-- All exchanges of handling a `page` remain when those that list markers are left out. -/
theorem filter_handlePage (backend : Backend MemoryStore) (page : List Marker) (report : ScanReport)
    (s : MemoryStore) :
    ((registry.handlePage page report).exchanges backend s).filter
      (·.request.method ≠ .dueMarkers) = (registry.handlePage page report).exchanges backend s := by
  have hasks := onlyAsks_page registry page report
  exact List.filter_eq_self.2 fun e he => by simpa using hasks.exchanges s e he

/-- A scan ends with a report after going through pages. These are the pages that its `log` lists,
and apart from listing them it asks what handling their markers in turn asks. -/
def IsPaged (registry : Registry) (refusal : Marker → Option StoreError) (pageSize : Nat)
    (tip : Height) (after : Option Marker) (report : ScanReport) (s : MemoryStore)
    (result : Except TrackingError ScanReport × MemoryStore) (log : List Exchange) : Prop :=
  ∃ pages report' s', result = (.ok report', s') ∧
    registry.PagesThrough refusal pageSize tip after report s pages report' s' ∧
    log.filterMap Exchange.page? = pages ∧
    log.filter (·.request.method ≠ .dueMarkers) =
      (registry.handlePage pages.flatten (.start tip)).exchanges (MemoryStore.refusing refusal) s

section

variable {page : List Marker} (hlisted : s.dueMarkers tip after pageSize = page)
  (hpage : (registry.handlePage page { report with due := report.due + page.length }).run
    (MemoryStore.refusing refusal) s = (report', s'))

include hlisted hpage

/-- A scan is paged if it ends with its first page. -/
theorem isPaged_last (hlast : page.length = pageSize → report'.failed ≤ report.failed) :
    registry.IsPaged refusal pageSize tip after report s (.ok report', s')
      (⟨.dueMarkers tip after pageSize, .ok page⟩ ::
        (registry.handlePage page { report with due := report.due + page.length }).exchanges
          (MemoryStore.refusing refusal) s) := by
  subst hlisted
  refine ⟨_, report', s', rfl, .last hpage hlast, ?_, ?_⟩
  · simp [Exchange.page?, filterMap_page?_handlePage]
  · rw [List.filter_cons_of_neg (by simp [Request.method]), filter_handlePage,
      List.flatten_singleton]
    exact (registry.handlePage_congr ..).1

/-- A scan is paged if what follows its first page is. What the pages after it ask does not depend
on the counts in the report, by `handlePage_congr`. -/
theorem isPaged_next {last : Marker} (hend : page.getLast? = some last)
    {result : Except TrackingError ScanReport × MemoryStore} {log : List Exchange}
    (hrest : registry.IsPaged refusal pageSize tip (some last) report' s' result log) :
    registry.IsPaged refusal pageSize tip after report s result
      (⟨.dueMarkers tip after pageSize, .ok page⟩ ::
        ((registry.handlePage page { report with due := report.due + page.length }).exchanges
          (MemoryStore.refusing refusal) s ++ log)) := by
  subst hlisted
  obtain ⟨pages, report'', s'', rfl, hthrough, rfl, hasked⟩ := hrest
  refine ⟨_, report'', s'', rfl, .next hpage hend hthrough, ?_, ?_⟩
  · rw [List.filterMap_cons, List.filterMap_append, filterMap_page?_handlePage]
    rfl
  · -- what the later pages ask, they ask of the store that the first one leaves
    obtain ⟨hcongr, hleft⟩ := registry.handlePage_congr (MemoryStore.refusing refusal)
      (s.dueMarkers tip after pageSize)
      { report with due := report.due + (s.dueMarkers tip after pageSize).length } (.start tip) s
    rw [hpage] at hleft
    rw [List.filter_cons_of_neg (by simp [Request.method]), List.filter_append, filter_handlePage,
      hasked, hcongr, List.flatten_cons, handlePage_append, Program.exchanges_bind, ← hleft]
    exact congrArg _ (registry.handlePage_congr ..).1

end

/-- Scans are paged, from any marker `after` and with any `report` on. The induction is on the
markers above the start of the page. -/
theorem isPaged_scanAfter (registry : Registry) (refusal : Marker → Option StoreError)
    (pageSize : Nat) (tip : Height) (after : Option Marker) (report : ScanReport)
    (s : MemoryStore) :
    registry.IsPaged refusal pageSize tip after report s
      ((registry.scanAfter pageSize tip after report).run (MemoryStore.refusing refusal) s)
      ((registry.scanAfter pageSize tip after report).exchanges
        (MemoryStore.refusing refusal) s) := by
  induction hn : Marker.remaining after using Nat.strongRecOn generalizing after report s with
  | _ n ih =>
    have hanswer : (MemoryStore.refusing refusal).answer (.dueMarkers tip after pageSize) s =
      (.ok (s.dueMarkers tip after pageSize), s) := rfl
    have hafter : ∀ last, (s.dueMarkers tip after pageSize).getLast? = some last →
        ∀ a ∈ after, compare a last = .lt :=
      fun last hlast => (MemoryStore.mem_of_mem_dueMarkers (List.mem_of_getLast? hlast)).2.2
    rw [scanAfter, Program.run_request hanswer, Program.run_bind, Program.exchanges_request hanswer,
      Program.exchanges_bind]
    generalize hlisted : s.dueMarkers tip after pageSize = page at *
    cases hpage : (registry.handlePage page { report with due := report.due + page.length }).run
      (MemoryStore.refusing refusal) s with
    | mk report' s' =>
      dsimp only
      cases hend : page.getLast? with
      | none =>
        -- an empty page leaves the report as it is
        have hlast : page.length = pageSize → report'.failed ≤ report.failed := by
          intro _
          rw [List.getLast?_eq_none_iff.1 hend] at hpage
          obtain ⟨rfl, -⟩ := Prod.mk.inj hpage
          exact Nat.le_refl _
        simpa [Program.run, Program.exchanges] using isPaged_last hlisted hpage hlast
      | some last =>
        dsimp only
        split
        next hmore =>
          simp only [dif_pos (hafter last hend)]
          have hremaining := hn ▸ Marker.remaining_lt (hafter last hend)
          exact isPaged_next hlisted hpage hend (ih _ hremaining _ report' s' rfl)
        next hstop =>
          have hlast : page.length = pageSize → report'.failed ≤ report.failed :=
            fun hfull => Nat.le_of_not_lt fun hlt => hstop ⟨hfull, hlt⟩
          simpa [Program.run, Program.exchanges] using isPaged_last hlisted hpage hlast

/-! ## What Is Listed -/

namespace Handles

/-- The markers behind a `page` are due after it is handled as they were before. -/
theorem dueBehind_eq {page rest : List Marker} {last : Marker}
    (h : registry.Handles refusal page report report' s s')
    (hdue : s.dueBehind tip after = page ++ rest) (hend : page.getLast? = some last) :
    s'.dueBehind tip (some last) = rest := by
  have hascending := s.ascending_dueBehind tip after
  rw [hdue] at hascending
  have hpage := (List.pairwise_append.1 hascending).1
  refine MemoryStore.dueBehind_getLast? hdue hend fun m hlt => ?_
  -- no marker of the page stands behind its last one
  rw [h.queue]
  exact and_iff_left fun hm => absurd hlt (not_lt_of_getLast? hpage hend hm)

end Handles

/-- The `pages` of a scan are cut off the list of the due markers behind its start, and their
markers are handled. The scan goes on to the end of the list unless it comes to a full page of which
no marker fails. -/
theorem PagesThrough.listed
    (h : registry.PagesThrough refusal pageSize tip after report s pages report' s')
    (hkeyed : s.IsKeyed) :
    registry.Handles refusal pages.flatten { report with due := report'.due } report' s s' ∧
    report'.due = report.due + pages.flatten.length ∧ pages.flatten <+: s.dueBehind tip after ∧
    (pages.flatten = s.dueBehind tip after ∨ ∃ last, pages.getLast? = some last ∧
      last.length = pageSize ∧ ∀ m ∈ last, registry.fails refusal s m = false) := by
  have hhandles : ∀ (after : Option Marker) (report : ScanReport) (s : MemoryStore), s.IsKeyed →
      registry.Handles refusal (s.dueMarkers tip after pageSize) report
        ((registry.handlePage (s.dueMarkers tip after pageSize) report).run
          (MemoryStore.refusing refusal) s).1 s
        ((registry.handlePage (s.dueMarkers tip after pageSize) report).run
        (MemoryStore.refusing refusal) s).2 :=
    fun after report s hs => handles_handlePage refusal hs (s.nodup_dueMarkers tip after pageSize)
      (fun m hm => (MemoryStore.mem_of_mem_dueMarkers hm).1) report
  induction h with
  | @last after report report' s s' hpage hlast =>
    have hfirst := hhandles after { report with due :=
      report.due + (s.dueMarkers tip after pageSize).length } s hkeyed
    rw [hpage] at hfirst
    have htake : s.dueMarkers tip after pageSize = (s.dueBehind tip after).take pageSize :=
      s.dueMarkers_eq_take tip after pageSize
    rw [List.flatten_singleton]
    refine ⟨⟨rfl, hfirst.settled, hfirst.failed, hfirst.tried, hfirst.queue, hfirst.fate⟩,
      hfirst.due, ?_, ?_⟩
    · rw [htake]
      exact List.take_prefix ..
    · by_cases hfull : (s.dueMarkers tip after pageSize).length = pageSize
      · refine .inr ⟨_, rfl, hfull, fun m hm => ?_⟩
        -- none was counted as failed
        have hcount : (s.dueMarkers tip after pageSize).countP (registry.fails refusal s) = 0 := by
          have hle := hlast hfull
          have hfailed := hfirst.failed
          dsimp only at hfailed
          omega
        simpa using List.countP_eq_zero.1 hcount m hm
      · left
        rw [htake, List.length_take] at hfull
        rw [htake, List.take_of_length_le (by omega)]
  | @next after report report' report'' s s' s'' last pages hpage hend hrest ih =>
    have hfirst := hhandles after { report with due :=
      report.due + (s.dueMarkers tip after pageSize).length } s hkeyed
    rw [hpage] at hfirst
    have hdue : s.dueBehind tip after =
        s.dueMarkers tip after pageSize ++ (s.dueBehind tip after).drop pageSize := by
      rw [s.dueMarkers_eq_take tip after pageSize]
      exact (List.take_append_drop ..).symm
    have hkeyed' : s'.IsKeyed := by
      have hrun := hkeyed.run_refusing refusal
        (registry.handlePage (s.dueMarkers tip after pageSize)
        { report with due := report.due + (s.dueMarkers tip after pageSize).length })
      rwa [hpage] at hrun
    obtain ⟨hhandled, hcount, hprefix, hall⟩ := ih hkeyed'
    rw [hfirst.dueBehind_eq hdue hend] at hprefix hall
    have hfirst' : registry.Handles refusal (s.dueMarkers tip after pageSize)
        { report with due := report''.due } { report' with due := report''.due } s s' :=
      ⟨rfl, hfirst.settled, hfirst.failed, hfirst.tried, hfirst.queue, hfirst.fate⟩
    rw [List.flatten_cons]
    refine ⟨hfirst'.trans hhandled, ?_, ?_, ?_⟩
    · rw [hcount, hfirst.due, List.length_append, Nat.add_assoc]
    · rw [hdue]
      exact (List.prefix_append_right_inj _).2 hprefix
    · rcases hall with hall | ⟨final, hfinal, hfull, hnone⟩
      · left
        rw [hdue, hall]
      · refine .inr ⟨final, ?_, hfull, fun m hm => ?_⟩
        · rw [List.getLast?_cons, hfinal]
          rfl
        · rw [← hfirst.fails_eq]
          exact hnone m hm

end Registry

/-- What a scan at `tip` did to the store `s`, which becomes `s'`, told by the `pages` that it went
through: it handled the markers `pages.flatten`, and no others. -/
structure ScansExactly (registry : Registry) (refusal : Marker → Option StoreError) (pageSize : Nat)
    (tip : Height) (s : MemoryStore) (pages : List (List Marker)) (report : ScanReport)
    (s' : MemoryStore) : Prop where
  /-- The scan ends with `report`, and leaves the store `s'`. -/
  ends : (registry.scan pageSize tip).run (MemoryStore.refusing refusal) s = (.ok report, s')
  /-- The pages it lists are `pages`. -/
  listed : ((registry.scan pageSize tip).exchanges (MemoryStore.refusing refusal) s).filterMap
    Exchange.page? = pages
  /-- Apart from that, it asks what handling the markers of `pages.flatten` one after another
  asks. -/
  asked : ((registry.scan pageSize tip).exchanges (MemoryStore.refusing refusal) s).filter
    (·.request.method ≠ .dueMarkers) =
      (registry.handlePage pages.flatten (.start tip)).exchanges (MemoryStore.refusing refusal) s
  /-- No marker is handled twice, or after one that stands behind it: over all `pages` they
  ascend. -/
  ascending : pages.flatten.Pairwise fun m m' => compare m m' = .lt
  /-- No due marker is skipped: `pages.flatten` comes first in the list of the due ones. -/
  first : pages.flatten <+: s.queue.elements.filter fun m => m.IsDue tip
  /-- All due markers are handled, unless the `last` page is full and free of failures. -/
  all : ¬(∃ last, pages.getLast? = some last ∧ last.length = pageSize ∧
      ∀ m ∈ last, registry.fails refusal s m = false) →
    pages.flatten = s.queue.elements.filter fun m => m.IsDue tip
  /-- An expiry that fails when it is the turn of its marker, after those `before` it, would have
  failed at the start, and the other way. -/
  turns : ∀ before m behind, pages.flatten = before ++ m :: behind →
    registry.expiryFails (MemoryStore.refusing refusal)
      ((registry.handlePage before (.start tip)).run (MemoryStore.refusing refusal) s).2 m =
      registry.expiryFails (MemoryStore.refusing refusal) s m
  /-- The markers that were handled and did not fail are gone from the queue `s'.queue`, and no
  others. -/
  queue : ∀ m, m ∈ s'.queue ↔ m ∈ s.queue ∧ (m ∈ pages.flatten → registry.fails refusal s m)
  /-- The markers that were handled are counted in `report.due`. -/
  due : report.due = pages.flatten.length
  /-- Each marker that was handled is counted in `deleted`, or in `failed`. -/
  settled : report.due = report.deleted + report.failed
  /-- Its expiry is counted in `applied` or in `rejected`, or it has failed. -/
  tried : report.applied + report.rejected +
    pages.flatten.countP (registry.expiryFails (MemoryStore.refusing refusal) s) = report.due

/-- On any store that `requests` have led to, whichever markers it refuses to remove and however
large a page is, a scan ends. It handles the first due markers one after another, each of them once;
its report counts them, and the queue has lost those that did not fail. -/
theorem scan_exact (registry : Registry) (requests : List Request)
    (refusal : Marker → Option StoreError) (pageSize : Nat) (tip : Height) :
    ∃ pages report s', ScansExactly registry refusal pageSize tip (.ofRequests requests) pages
        report s' := by
  have hkeyed : (MemoryStore.ofRequests requests).IsKeyed := MemoryStore.isKeyed_replay requests
  generalize MemoryStore.ofRequests requests = s at *
  obtain ⟨pages, report, s', hends, hthrough, hlisted, hasked⟩ :=
    registry.isPaged_scanAfter refusal pageSize tip none (.start tip) s
  obtain ⟨hhandles, hdue, hfirst, hall⟩ := hthrough.listed hkeyed
  rw [MemoryStore.dueBehind_none] at hfirst hall
  -- what is handled is a first part of the due markers, and so ascending and queued
  have hascending := (s.queue.ascending.filter fun m => m.IsDue tip).sublist hfirst.sublist
  have hqueued : ∀ m ∈ pages.flatten, m ∈ s.queue :=
    fun m hm => (List.mem_filter.1 (hfirst.subset hm)).1
  have hcount : report.due = pages.flatten.length := by rw [hdue]; simp [ScanReport.start]
  refine ⟨pages, report, s', hends, hlisted, hasked, hascending, hfirst, hall.resolve_right, ?_,
    hhandles.queue, hcount, ?_, ?_⟩
  · -- the markers in front of `m` were handled, and have changed no fate
    intro before m behind hparts
    rw [hparts] at hascending hqueued
    obtain ⟨hbefore, -, -⟩ := List.pairwise_append.1 hascending
    have hturn := registry.handles_handlePage refusal hkeyed (nodup_of_ascending hbefore)
      (fun m hm => hqueued m (List.mem_append_left _ hm)) (.start tip)
    rw [hturn.fate]
  · -- the counts are those of `Handles`, from a report that starts at zero
    have hsettled := hhandles.settled
    simp only [ScanReport.start] at hsettled
    omega
  · have htried := hhandles.tried
    simp only [ScanReport.start] at htried
    omega

end StakeLedger
