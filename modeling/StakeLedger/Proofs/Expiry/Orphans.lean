import StakeLedger.Proofs.Expiry.Interruption

/-!
# Markers without a Delegation

A marker that belongs to no delegation is an orphan: its expiry fails, and it stays queued. A page
removes exactly those of its markers that are no orphans (`Registry.run_handlePage_orphans`), and a
scan goes on until it comes to a page without orphans or to the end of the due markers. Wherever the
orphans stand in the queue, it therefore removes at least a page of the other due markers, or all
there are (`Registry.WorksOff.progress`).

The main statement is `orphans_starve_nothing`: scans that are repeated leave nothing but orphans,
as soon as they could have done so if there were no orphans at all.
-/

namespace StakeLedger

namespace MemoryStore

/-- The marker `m` belongs to no delegation. -/
def IsOrphan (s : MemoryStore) (m : Marker) : Prop := s.delegation? m.txid = none

instance (s : MemoryStore) (m : Marker) : Decidable (s.IsOrphan m) :=
  inferInstanceAs (Decidable (_ = none))

/-- The markers that are due at `tip` and belong to a delegation. -/
def ownedMarkers (s : MemoryStore) (tip : Height) : List Marker :=
  s.queue.elements.filter fun m => m.IsDue tip ∧ ¬s.IsOrphan m

variable {s s' start : MemoryStore} {tip : Height} {m : Marker}

/-- A marker is in `ownedMarkers` if it is queued and due, and no orphan. -/
theorem mem_ownedMarkers_iff :
    m ∈ s.ownedMarkers tip ↔ m ∈ s.queue ∧ m.IsDue tip ∧ ¬s.IsOrphan m := by
  rw [ownedMarkers, List.mem_filter, decide_eq_true_iff]
  rfl

/-- No marker is listed twice in `ownedMarkers`. -/
theorem nodup_ownedMarkers (s : MemoryStore) (tip : Height) : (s.ownedMarkers tip).Nodup :=
  (nodup_of_ascending s.queue.ascending).filter _

theorem nodup_dueMarkers (s : MemoryStore) (tip : Height) (after : Option Marker) (limit : Nat) :
    (s.dueMarkers tip after limit).Nodup := by
  rw [dueMarkers_eq_take]
  exact ((nodup_of_ascending s.queue.ascending).filter _).sublist (List.take_sublist _ _)

/-- Sweeping makes no orphans, and takes none in. -/
theorem IsSweptFrom.isOrphan_iff (h : s.IsSweptFrom start tip) :
    s.IsOrphan m ↔ start.IsOrphan m := by
  constructor
  · intro hnone
    cases hd : start.delegation? m.txid with
    | none => exact hd
    | some d =>
      rcases h.record _ d hd with hd' | ⟨hd', -⟩
      · cases hd'.symm.trans hnone
      · cases hd'.symm.trans hnone
  · exact h.unknown m.txid

/-- What is swept away was due, and no orphan. -/
theorem IsSweptFrom.mem_ownedMarkers (h : s.IsSweptFrom start tip) (hm : m ∈ start.queue)
    (hgone : m ∉ s.queue) :
    m ∈ start.ownedMarkers tip := by
  obtain ⟨hdue, d, hd, -⟩ := h.removed m hm hgone
  refine mem_ownedMarkers_iff.2 ⟨hm, hdue, fun horphan => ?_⟩
  cases hd.symm.trans (h.isOrphan_iff.2 horphan)

/-- Of the markers that belong to a delegation, those that are not swept away are left. -/
theorem IsSweptFrom.length_ownedMarkers (h : s.IsSweptFrom start tip) :
    (s.ownedMarkers tip).length + ((start.ownedMarkers tip).filter (· ∉ s.queue)).length =
      (start.ownedMarkers tip).length := by
  have hleft : (s.ownedMarkers tip).Perm ((start.ownedMarkers tip).filter (· ∈ s.queue)) := by
    refine (List.perm_ext_iff_of_nodup (nodup_ownedMarkers s tip)
      ((nodup_ownedMarkers start tip).filter _)).2 fun m => ?_
    rw [List.mem_filter, decide_eq_true_iff, mem_ownedMarkers_iff, mem_ownedMarkers_iff,
      h.isOrphan_iff]
    constructor
    · rintro ⟨hm, hdue, howned⟩
      exact ⟨⟨h.queued m hm, hdue, howned⟩, hm⟩
    · rintro ⟨⟨-, hdue, howned⟩, hm⟩
      exact ⟨hm, hdue, howned⟩
  rw [hleft.length_eq,
    List.length_eq_length_filter_add (l := start.ownedMarkers tip) (fun m => decide (m ∈ s.queue))]
  simp

/-- The queue of `s` has lost what was swept away since `start`, and nothing else. -/
theorem IsSweptFrom.size_queue (h : s.IsSweptFrom start tip) :
    ((start.ownedMarkers tip).filter (· ∉ s.queue)).length + s.queue.size = start.queue.size := by
  -- what is queued at the start either is queued still or was owned and due
  have hstays : (start.queue.elements.filter (· ∈ s.queue)).Perm s.queue.elements := by
    refine (List.perm_ext_iff_of_nodup ((nodup_of_ascending start.queue.ascending).filter _)
      (nodup_of_ascending s.queue.ascending)).2 fun m => ?_
    rw [List.mem_filter, decide_eq_true_iff]
    exact and_iff_right_of_imp (h.queued m)
  have hgone : ((start.ownedMarkers tip).filter (· ∉ s.queue)).Perm
      (start.queue.elements.filter (· ∉ s.queue)) := by
    refine (List.perm_ext_iff_of_nodup ((nodup_ownedMarkers start tip).filter _)
      ((nodup_of_ascending start.queue.ascending).filter _)).2 fun m => ?_
    rw [List.mem_filter, List.mem_filter, decide_eq_true_iff]
    constructor
    · rintro ⟨hm, hgone⟩
      exact ⟨(mem_ownedMarkers_iff.1 hm).1, hgone⟩
    · rintro ⟨hm, hgone⟩
      exact ⟨h.mem_ownedMarkers hm hgone, hgone⟩
  rw [hgone.length_eq, SortedSet.size, ← hstays.length_eq, SortedSet.size,
    List.length_eq_length_filter_add (l := start.queue.elements) (fun m => decide (m ∈ s.queue))]
  simp [Nat.add_comm]

end MemoryStore

namespace Registry

variable {registry : Registry} {start s s' : MemoryStore} {report report' : ScanReport}
  {pageSize : Nat} {tip : Height} {after : Option Marker}

/-! ## Pages -/

/-- A `page` removes its markers that are no orphans and counts them, and counts the orphans as
failed. The induction is on the page; no marker of it is listed twice, so that each is still queued
when it is handled. -/
theorem run_handlePage_orphans (hkeyed : s.IsKeyed) {page : List Marker} (hnodup : page.Nodup)
    (hqueued : ∀ m ∈ page, m ∈ s.queue)
    (hrun : (registry.handlePage page report).run MemoryStore.backend s = (report', s')) :
    report'.deleted = report.deleted + page.countP (fun m => ¬s.IsOrphan m) ∧
    report'.failed = report.failed + page.countP (fun m => s.IsOrphan m) ∧
    (∀ m, s'.IsOrphan m ↔ s.IsOrphan m) ∧
    ∀ m, m ∈ s'.queue ↔ m ∈ s.queue ∧ (m ∈ page → s.IsOrphan m) := by
  induction page generalizing s report with
  | nil =>
    obtain ⟨rfl, rfl⟩ := Prod.mk.inj hrun
    simp
  | cons m rest ih =>
    obtain ⟨hm, hrest⟩ := List.forall_mem_cons.1 hqueued
    obtain ⟨hnew, hnodup⟩ := List.nodup_cons.1 hnodup
    rw [handlePage, Program.run_bind] at hrun
    cases hd : s.delegation? m.txid with
    | none =>
      -- an orphan leaves the store as it is
      have horphan : s.IsOrphan m := hd
      rw [run_handleMarker_unknown hd] at hrun
      obtain ⟨hdeleted, hfailed, horphans, hqueue⟩ := ih hkeyed hnodup hrest hrun
      refine ⟨?_, ?_, horphans, fun m' => ?_⟩
      · simp [hdeleted, horphan]
      · simp [hfailed, horphan]
        omega
      · rw [hqueue, List.mem_cons]
        constructor
        · rintro ⟨hm', hstays⟩
          exact ⟨hm', fun hmem => hmem.elim (fun heq => heq ▸ horphan) hstays⟩
        · rintro ⟨hm', hstays⟩
          exact ⟨hm', fun hmem => hstays (.inr hmem)⟩
    | some d =>
      have howned : ¬s.IsOrphan m := fun horphan => by cases hd.symm.trans horphan
      obtain ⟨hfailed₁, -, hrecords₁⟩ := registry.run_handleMarker hkeyed hd report
      obtain ⟨hdeleted₁, hqueue₁⟩ := registry.run_handleMarker_known hkeyed hd report
      have hkeyed₁ : ((registry.handleMarker m report).run MemoryStore.backend s).2.IsKeyed :=
        hkeyed.run _
      generalize (registry.handleMarker m report).run MemoryStore.backend s = first at *
      obtain ⟨report₁, s₁⟩ := first
      dsimp only at *
      have horphans₁ : ∀ m', s₁.IsOrphan m' ↔ s.IsOrphan m' := by
        intro m'
        rw [MemoryStore.IsOrphan, hrecords₁, Option.map_eq_none_iff]
        rfl
      have hqueued₁ : ∀ m' ∈ rest, m' ∈ s₁.queue := by
        intro m' hm'
        rw [hqueue₁]
        exact SortedSet.mem_erase_iff.2 ⟨hrest m' hm', fun heq => hnew (heq ▸ hm')⟩
      obtain ⟨hdeleted, hfailed, horphans, hqueue⟩ := ih hkeyed₁ hnodup hqueued₁ hrun
      simp only [horphans₁] at hdeleted hfailed horphans hqueue
      refine ⟨?_, ?_, horphans, fun m' => ?_⟩
      · simp [hdeleted, hdeleted₁, hm, howned]
        omega
      · simp [hfailed, hfailed₁, howned]
      · rw [hqueue, hqueue₁, SortedSet.mem_erase_iff, List.mem_cons]
        constructor
        · rintro ⟨⟨hm', hne⟩, hstays⟩
          exact ⟨hm', fun hmem => hstays (hmem.resolve_left hne)⟩
        · rintro ⟨hm', hstays⟩
          exact ⟨⟨hm', fun heq => howned (heq ▸ hstays (.inl heq))⟩, fun hmem => hstays (.inr hmem)⟩

/-! ## Scans -/

/-- A scan removes `pageSize` markers that are no orphans, or all of them that are due behind its
start. -/
theorem WorksOff.progress (h : registry.WorksOff pageSize tip after report s report' s')
    (hkeyed : s.IsKeyed) :
    (∀ m ∈ s'.queue, m ∈ s.queue) ∧ report.deleted ≤ report'.deleted ∧
    (report.deleted + pageSize ≤ report'.deleted ∨
      ∀ m ∈ s.queue, m.IsDue tip → (∀ a ∈ after, compare a m = .lt) → ¬s.IsOrphan m →
          m ∉ s'.queue) := by
  -- by induction on the pages; what a page leaves out stands behind its last marker
  induction h with
  | @last after report report' s s' hpage hlast =>
    obtain ⟨hdeleted, hfailed, -, hqueue⟩ := run_handlePage_orphans hkeyed
      (s.nodup_dueMarkers tip after pageSize)
      (fun m hm => (MemoryStore.mem_of_mem_dueMarkers hm).1) hpage
    have hlength : (s.dueMarkers tip after pageSize).countP (fun m => s.IsOrphan m) +
        (s.dueMarkers tip after pageSize).countP (fun m => ¬s.IsOrphan m) =
          (s.dueMarkers tip after pageSize).length := by
      simpa using (List.length_eq_countP_add_countP _).symm
    refine ⟨fun m hm => ((hqueue m).1 hm).1, by simp [hdeleted], ?_⟩
    by_cases hfull : (s.dueMarkers tip after pageSize).length = pageSize
    · -- a full page that is the last one has no orphan
      have hle := hlast hfull
      left
      dsimp only at hdeleted hfailed
      omega
    · right
      intro m hm hdue hafter howned hleft
      rcases MemoryStore.mem_dueMarkers_or_behind hm hdue hafter pageSize with hlisted | ⟨hfull', -⟩
      · exact howned (((hqueue m).1 hleft).2 hlisted)
      · exact hfull hfull'
  | @next after report report' report'' s s' s'' last hpage hend hrest ih =>
    obtain ⟨hdeleted, -, horphans, hqueue⟩ := run_handlePage_orphans hkeyed
      (s.nodup_dueMarkers tip after pageSize)
      (fun m hm => (MemoryStore.mem_of_mem_dueMarkers hm).1) hpage
    obtain ⟨hqueued, hle, hprogress⟩ := ih (hkeyed.of_run hpage)
    have hfirst : report.deleted ≤ report'.deleted := by simp [hdeleted]
    refine ⟨fun m hm => ((hqueue m).1 (hqueued m hm)).1, Nat.le_trans hfirst hle, ?_⟩
    rcases hprogress with hmany | hall
    · left
      omega
    · right
      intro m hm hdue hafter howned hleft
      rcases MemoryStore.mem_dueMarkers_or_behind hm hdue hafter
        pageSize with hlisted | ⟨-, hbehind⟩
      · exact howned (((hqueue m).1 (hqueued m hleft)).2 hlisted)
      · -- it stands behind the page, and so the pages that follow remove it
        have hstill := ((hqueue m).1 (hqueued m hleft)).1
        refine hall m (hqueued m hleft) hdue (fun a ha => ?_) (mt (horphans m).1 howned) hleft
        exact Option.some.inj ha ▸ hbehind last (List.mem_of_getLast? hend)

/-- The store after a scan at `tip` that runs by itself on `s`. -/
def scanned (registry : Registry) (pageSize : Nat) (tip : Height) (s : MemoryStore) : MemoryStore :=
  ((registry.scan pageSize tip).run MemoryStore.backend s).2

/-- A scan keeps a partly swept store partly swept. -/
theorem sweeping_scanned (registry : Registry) (pageSize : Nat)
    (h : (sweeping start tip).Invariant s) :
    (sweeping start tip).Invariant (registry.scanned pageSize tip s) := by
  have hkeeps : (registry.scan pageSize tip).Keeps (sweeping start tip) (.scan pageSize tip)
      (fun _ _ _ => True) [] s := keeps_sweeping
  exact hkeeps.invariant_run h

/-- A scan ends with a report, and removes a page of `ownedMarkers`, or all of them; it counts as
deleted what the queue has lost of them. -/
theorem min_le_removed (hkeyed : s.IsKeyed) (pageSize : Nat) (tip : Height) :
    ∃ report, ((registry.scan pageSize tip).run MemoryStore.backend s).1 = .ok report ∧
      report.deleted =
        ((s.ownedMarkers tip).filter (· ∉ (registry.scanned pageSize tip s).queue)).length ∧
      min pageSize (s.ownedMarkers tip).length ≤ report.deleted := by
  obtain ⟨report, s', hrun, hworks⟩ := registry.run_scanAfter pageSize tip none (.start tip) s
  have hscanned : registry.scanned pageSize tip s = s' := congrArg Prod.snd hrun
  have hstart : (sweeping s tip).Invariant s := ⟨hkeyed, .refl s tip⟩
  have hswept : s'.IsSweptFrom s tip := hscanned ▸ (registry.sweeping_scanned pageSize hstart).2
  -- the scan counts what the queue has lost, and it loses owned markers only
  have hcount : report.deleted = ((s.ownedMarkers tip).filter (· ∉ s'.queue)).length := by
    have hremoves := (hworks.removes hkeyed).size
    have hsize := hswept.size_queue
    simp only [ScanReport.start] at hremoves
    omega
  refine ⟨report, congrArg Prod.fst hrun, by rw [hscanned]; exact hcount, ?_⟩
  rcases (hworks.progress hkeyed).2.2 with hmany | hall
  · simp only [ScanReport.start] at hmany
    omega
  · -- none of them is left
    have hnone : (s.ownedMarkers tip).filter (· ∉ s'.queue) = s.ownedMarkers tip := by
      refine List.filter_eq_self.2 fun m hm => decide_eq_true ?_
      obtain ⟨hqueued, hdue, howned⟩ := MemoryStore.mem_ownedMarkers_iff.1 hm
      exact hall m hqueued hdue (by simp) howned
    rw [hcount, hnone]
    exact Nat.min_le_right _ _

/-! ## Repeated Scans -/

/-- The store after as many scans as the number says, which run by themselves one after another. -/
def rescanned (registry : Registry) (pageSize : Nat) (tip : Height) :
    Nat → MemoryStore → MemoryStore
  | 0, s => s
  | times + 1, s => registry.rescanned pageSize tip times (registry.scanned pageSize tip s)

/-- Scans one after another keep a partly swept store partly swept. -/
theorem sweeping_rescanned (registry : Registry) (pageSize : Nat)
    (h : (sweeping start tip).Invariant s) (times : Nat) :
    (sweeping start tip).Invariant (registry.rescanned pageSize tip times s) := by
  induction times generalizing s with
  | zero => exact h
  | succ times ih => exact ih (registry.sweeping_scanned pageSize h)

/-- Scans leave only orphans once they could have listed all other due markers. Each of them makes
the markers that are left fit into one page fewer. -/
theorem ownedMarkers_rescanned (hkeyed : s.IsKeyed) {times : Nat}
    (h : (s.ownedMarkers tip).length ≤ times * pageSize) :
    (registry.rescanned pageSize tip times s).ownedMarkers tip = [] := by
  induction times generalizing s with
  | zero =>
    rw [Nat.zero_mul] at h
    exact List.length_eq_zero_iff.1 (Nat.le_zero.1 h)
  | succ times ih =>
    have hstart : (sweeping s tip).Invariant s := ⟨hkeyed, .refl s tip⟩
    obtain ⟨hkeyed', hswept⟩ := registry.sweeping_scanned pageSize hstart
    obtain ⟨report, -, hdeleted, hmin⟩ := registry.min_le_removed hkeyed pageSize tip
    have hleft := hswept.length_ownedMarkers
    rw [Nat.succ_mul] at h
    exact ih hkeyed' (by omega)

end Registry

/-- In any store that `requests` have led to, let there be due markers that belong to a delegation,
the `ownedMarkers`, and due markers that belong to none, in whatever order. A scan removes at least
a page of the former, or all of them, and none of the latter; and after as many scans as the former
fill pages, the due markers that are left are exactly the latter. -/
theorem orphans_starve_nothing (registry : Registry) (requests : List Request) {pageSize : Nat}
    (hsize : 0 < pageSize) (tip : Height) :
    (∃ report,
      ((registry.scan pageSize tip).run MemoryStore.backend (.ofRequests requests)).1 = .ok report ∧
      report.deleted = (((MemoryStore.ofRequests requests).ownedMarkers tip).filter
        (· ∉ (registry.scanned pageSize tip (.ofRequests requests)).queue)).length ∧
      min pageSize ((MemoryStore.ofRequests requests).ownedMarkers tip).length ≤ report.deleted) ∧
    (∀ m ∈ (MemoryStore.ofRequests requests).queue, (MemoryStore.ofRequests requests).IsOrphan m →
      m ∈ (registry.scanned pageSize tip (.ofRequests requests)).queue) ∧
    ∀ m, (m ∈ (registry.rescanned pageSize tip
        ((((MemoryStore.ofRequests requests).ownedMarkers tip).length + pageSize - 1) / pageSize)
        (.ofRequests requests)).queue ∧ m.IsDue tip) ↔
      m ∈ (MemoryStore.ofRequests requests).queue ∧ m.IsDue tip ∧
          (MemoryStore.ofRequests requests).IsOrphan m := by
  have hkeyed : (MemoryStore.ofRequests requests).IsKeyed := MemoryStore.isKeyed_replay requests
  generalize MemoryStore.ofRequests requests = s at *
  have hstart : (sweeping s tip).Invariant s := ⟨hkeyed, .refl s tip⟩
  -- an orphan is never swept away
  have hstays : ∀ s', (sweeping s tip).Invariant s' → ∀ m ∈ s.queue, s.IsOrphan m →
      m ∈ s'.queue := by
    intro s' hs' m hm horphan
    by_contra hgone
    exact (MemoryStore.mem_ownedMarkers_iff.1 (hs'.2.mem_ownedMarkers hm hgone)).2.2 horphan
  refine ⟨registry.min_le_removed hkeyed pageSize tip,
    hstays _ (registry.sweeping_scanned pageSize hstart), fun m => ?_⟩
  have hpages : (s.ownedMarkers tip).length ≤
      ((s.ownedMarkers tip).length + pageSize - 1) / pageSize * pageSize := by
    have hmod := Nat.mod_lt ((s.ownedMarkers tip).length + pageSize - 1) hsize
    have hdiv := Nat.div_add_mod' ((s.ownedMarkers tip).length + pageSize - 1) pageSize
    omega
  have hnone := registry.ownedMarkers_rescanned hkeyed hpages
  have hswept := registry.sweeping_rescanned pageSize hstart
    (((s.ownedMarkers tip).length + pageSize - 1) / pageSize)
  generalize registry.rescanned pageSize tip _ s = s' at *
  constructor
  · rintro ⟨hm, hdue⟩
    refine ⟨hswept.2.queued m hm, hdue, ?_⟩
    by_contra howned
    have hleft := MemoryStore.mem_ownedMarkers_iff.2 ⟨hm, hdue, mt hswept.2.isOrphan_iff.1 howned⟩
    rw [hnone] at hleft
    cases hleft
  · rintro ⟨hm, hdue, horphan⟩
    exact ⟨hstays s' hswept m hm horphan, hdue⟩

/-- In `markedRequests` a marker without a delegation stands in front of the two markers of a
delegation. Scans with pages of one marker pass it each time, and two of them remove the other
two. -/
theorem markedRequests_outlasted :
    0 < 1 ∧ ((MemoryStore.ofRequests markedRequests).ownedMarkers 17).length = 2 ∧
    ∀ m, (m ∈ (loneRegistry.rescanned 1 17 2 (.ofRequests markedRequests)).queue ∧ m.IsDue 17) ↔
      m = ⟨3, ⟨9⟩, .timelock⟩ := by
  have howned : ((MemoryStore.ofRequests markedRequests).ownedMarkers 17).length = 2 := by rfl
  obtain ⟨-, -, hleft⟩ := orphans_starve_nothing loneRegistry markedRequests Nat.zero_lt_one 17
  rw [howned] at hleft
  refine ⟨Nat.zero_lt_one, howned, fun m => (hleft m).trans ?_⟩
  have hqueue : m ∈ (MemoryStore.ofRequests markedRequests).queue ↔
      m ∈ [⟨3, ⟨9⟩, .timelock⟩, ⟨5, ⟨0⟩, .earlyUnbonding⟩, ⟨17, ⟨0⟩, .timelock⟩] := Iff.rfl
  rw [hqueue]
  constructor
  · rintro ⟨hm, -, horphan⟩
    simp only [List.mem_cons, List.not_mem_nil, or_false] at hm
    rcases hm with rfl | rfl | rfl
    · rfl
    · exact absurd horphan (by decide +kernel)
    · exact absurd horphan (by decide +kernel)
  · rintro rfl
    exact ⟨List.mem_cons_self, by decide +kernel, rfl⟩

end StakeLedger
