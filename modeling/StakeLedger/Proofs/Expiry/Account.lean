import StakeLedger.Proofs.Expiry.Orphans

/-!
# What Handling Markers Accounts for

A memory store may refuse to remove some of its markers (`MemoryStore.refusing`). On such a store, a
marker is handled by trying its expiry, and by removing it if the expiry did not fail; each one adds
to the counts of the report, and leaves the queue or fails and stays. The markers of a page do so in
turn (`Registry.handles_handlePage`).
-/

namespace StakeLedger

variable {α : Type} {refusal : Marker → Option StoreError} {s s' s'' : MemoryStore} {m : Marker}

/-! ## Stores that Refuse Removals -/

namespace MemoryStore

/-- The memory store, where removing a marker fails if `refusal` gives an error for it, and every
other request is answered as ever. -/
def refusing (refusal : Marker → Option StoreError) : Backend MemoryStore where
  answer
    | .deleteMarker m, s =>
      match refusal m with
      | some e => (.error e, s)
      | none => backend.answer (.deleteMarker m) s
    | r, s => backend.answer r s

/-- Only removals are refused: `refusing` answers any other request as `backend` does. -/
theorem answer_refusing {r : Request} (h : r.method ≠ .deleteMarker) (s : MemoryStore) :
    (refusing refusal).answer r s = backend.answer r s := by
  cases r with
  | deleteMarker m => exact absurd rfl h
  | _ => rfl

/-- A program that removes no markers runs on `refusing` as it runs on `backend`. -/
theorem run_refusing {p : Program α} (h : p.OnlyAsks fun r => r.method ≠ .deleteMarker)
    (s : MemoryStore) :
    p.run (refusing refusal) s = p.run backend s := by
  induction p generalizing s with
  | done a => rfl
  | call r next ih =>
    show (next ((refusing refusal).answer r s).1).run (refusing refusal)
      ((refusing refusal).answer r s).2 =
      (next (backend.answer r s).1).run backend (backend.answer r s).2
    rw [answer_refusing h.1, ih _ (h.2 _)]

/-- Whatever is refused, a program leaves records under their own keys. -/
theorem IsKeyed.run_refusing (h : s.IsKeyed) (refusal : Marker → Option StoreError)
    (p : Program α) :
    (p.run (refusing refusal) s).2.IsKeyed := by
  -- a refused removal leaves the store as it is
  have hanswer : ∀ (s : MemoryStore) r, s.IsKeyed → ((refusing refusal).answer r s).2.IsKeyed := by
    intro s r hs
    by_cases hr : r.method = .deleteMarker
    · cases r with
      | deleteMarker m =>
        simp only [refusing]
        split
        · exact hs
        · exact hs.answer (.deleteMarker m)
      | _ => cases hr
    · rw [answer_refusing hr]
      exact hs.answer r
  induction p generalizing s with
  | done a => exact h
  | call r next ih => exact ih _ (hanswer s r h)

/-- The markers that are due at `tip` and stand behind `after`, if one is given, in their order. -/
def dueBehind (s : MemoryStore) (tip : Height) (after : Option Marker) : List Marker :=
  s.queue.elements.filter fun m => (∀ a ∈ after, compare a m = .lt) ∧ m.IsDue tip

/-- A marker is in `dueBehind` if it is queued, stands behind the given one and is due. -/
theorem mem_dueBehind_iff {tip : Height} {after : Option Marker} :
    m ∈ s.dueBehind tip after ↔ m ∈ s.queue ∧ (∀ a ∈ after, compare a m = .lt) ∧ m.IsDue tip := by
  rw [dueBehind, List.mem_filter, decide_eq_true_iff]
  rfl

/-- Where no marker is given, `dueBehind` has all the due markers. -/
theorem dueBehind_none (s : MemoryStore) (tip : Height) :
    s.dueBehind tip none = s.queue.elements.filter fun m => m.IsDue tip := by
  simp [dueBehind]

/-- The markers of `dueBehind` are in strictly ascending order, as those of the queue are. -/
theorem ascending_dueBehind (s : MemoryStore) (tip : Height) (after : Option Marker) :
    (s.dueBehind tip after).Pairwise fun m m' => compare m m' = .lt := s.queue.ascending.filter _

/-- If a `page` comes first in `dueBehind`, what stands behind its `last` marker is the `rest`, as
long as the queue keeps what is behind it. -/
theorem dueBehind_getLast? {tip : Height} {after : Option Marker} {page rest : List Marker}
    {last : Marker} (hdue : s.dueBehind tip after = page ++ rest) (hend : page.getLast? = some last)
    (hqueue : ∀ m, compare last m = .lt → (m ∈ s'.queue ↔ m ∈ s.queue)) :
    s'.dueBehind tip (some last) = rest := by
  have hascending := s.ascending_dueBehind tip after
  rw [hdue] at hascending
  obtain ⟨hpage, hrest, hbefore⟩ := List.pairwise_append.1 hascending
  have hlast : last ∈ page := List.mem_of_getLast? hend
  have hmem : ∀ m, m ∈ page ++ rest ↔ m ∈ s.queue ∧ (∀ a ∈ after, compare a m = .lt) ∧
      m.IsDue tip := by
    intro m
    rw [← hdue, mem_dueBehind_iff]
  have hbehind := s'.ascending_dueBehind tip (some last)
  -- both lists are ascending, so that the same members make them the same list
  have hperm : (s'.dueBehind tip (some last)).Perm rest := by
    refine (List.perm_ext_iff_of_nodup (nodup_of_ascending hbehind) (nodup_of_ascending hrest)).2
      fun m => ?_
    rw [mem_dueBehind_iff]
    constructor
    · rintro ⟨hm, hlast', hmdue⟩
      have hlt : compare last m = .lt := hlast' last rfl
      have hafter : ∀ a ∈ after, compare a m = .lt := fun a ha =>
        Std.TransCmp.lt_trans (((hmem last).1 (List.mem_append_left _ hlast)).2.1 a ha) hlt
      have hlisted := (hmem m).2 ⟨(hqueue m hlt).1 hm, hafter, hmdue⟩
      exact (List.mem_append.1 hlisted).resolve_left fun hm => not_lt_of_getLast? hpage hend hm hlt
    · intro hm
      obtain ⟨hqueued, -, hmdue⟩ := (hmem m).1 (List.mem_append_right _ hm)
      have hlt := hbefore last hlast m hm
      refine ⟨(hqueue m hlt).2 hqueued, fun a ha => ?_, hmdue⟩
      obtain rfl : last = a := by simpa using ha
      exact hlt
  exact eq_of_ascending (f := id) hbehind hrest hperm

end MemoryStore

namespace Registry

variable {registry : Registry} {report report' report'' : ScanReport} {page page' : List Marker}
  {pageSize : Nat} {tip : Height} {after : Option Marker}

/-! ## Failures -/

/-- Whether the expiry of the marker `m`, applied as an event, fails on the store `s`. -/
def expiryFails (registry : Registry) (backend : Backend MemoryStore) (s : MemoryStore)
    (m : Marker) : Bool :=
  match ((registry.apply (.observed m.txid (.timelockExpired m.subState))).run backend s).1 with
  | .error _ => true
  | .ok _ => false

/-- Whether the marker `m` fails on the store `s`: its expiry does, or removing it is refused. -/
def fails (registry : Registry) (refusal : Marker → Option StoreError) (s : MemoryStore)
    (m : Marker) : Bool :=
  registry.expiryFails (MemoryStore.refusing refusal) s m || (refusal m).isSome

/-- An expiry runs on `refusing` as on `backend`, since it removes nothing. -/
theorem run_expiry_refusing (refusal : Marker → Option StoreError) (s : MemoryStore) (m : Marker) :
    (registry.apply (.observed m.txid (.timelockExpired m.subState))).run
      (MemoryStore.refusing refusal) s =
      (registry.apply (.observed m.txid (.timelockExpired m.subState))).run
          MemoryStore.backend s := by
  refine MemoryStore.run_refusing ?_ s
  exact onlyAsks_observed (by simp [Request.method]) (by simp [Request.method])

/-- The expiry of a marker that belongs to no delegation fails by `delegationNotFound`, and changes
nothing. -/
theorem run_expiry_orphan (horphan : s.IsOrphan m) :
    (registry.apply (.observed m.txid (.timelockExpired m.subState))).run
      (MemoryStore.refusing refusal) s = (.error (.delegationNotFound m.txid), s) := by
  have hnone : s.delegation? m.txid = none := horphan
  have hread : MemoryStore.backend.answer (.getDelegation m.txid) s = (.ok none, s) := by
    show (Except.ok (s.delegation? m.txid), s) = _
    rw [hnone]
  rw [run_expiry_refusing, apply, Program.run_request hread]
  rfl

/-- Any other expiry is applied or rejected. It leaves the queue as it was, and makes no orphans. -/
theorem run_expiry_owned (refusal : Marker → Option StoreError) (hkeyed : s.IsKeyed)
    (howned : ¬s.IsOrphan m) :
    ∃ outcome s',
      (registry.apply (.observed m.txid (.timelockExpired m.subState))).run
        (MemoryStore.refusing refusal) s =
        (.ok outcome, s') ∧ s'.queue = s.queue ∧ ∀ m', s'.IsOrphan m' ↔ s.IsOrphan m' := by
  obtain ⟨d, hd⟩ := Option.ne_none_iff_exists'.1 howned
  rw [run_expiry_refusing, run_expiry hd (hkeyed _ _ hd)]
  split
  next =>
    refine ⟨_, _, rfl, rfl, fun m' => ?_⟩
    by_cases hsame : m'.txid = m.txid
    · simp [MemoryStore.IsOrphan, hsame, hd]
    · rw [MemoryStore.IsOrphan, s.delegation?_written_of_ne _ _ hsame]
      rfl
  next => exact ⟨_, s, rfl, rfl, fun _ => .rfl⟩

/-- Expiries fail for orphans, and for no other markers. -/
theorem expiryFails_eq (refusal : Marker → Option StoreError) (hkeyed : s.IsKeyed) (m : Marker) :
    registry.expiryFails (MemoryStore.refusing refusal) s m = decide (s.IsOrphan m) := by
  by_cases horphan : s.IsOrphan m
  · simp [expiryFails, run_expiry_orphan horphan, horphan]
  · obtain ⟨outcome, s', hrun, -⟩ := registry.run_expiry_owned refusal hkeyed horphan
    simp [expiryFails, hrun, horphan]

/-! ## Markers and Pages -/

/-- What handling the markers of `page` adds to `report`, which becomes `report'`, and takes from
the queue of `s`, which becomes that of `s'`. -/
structure Handles (registry : Registry) (refusal : Marker → Option StoreError) (page : List Marker)
    (report report' : ScanReport) (s s' : MemoryStore) : Prop where
  /-- The number of due markers is not touched by handling a page. -/
  due : report'.due = report.due
  /-- Every marker of `page` is removed or fails. -/
  settled : report'.deleted + report'.failed = report.deleted + report.failed + page.length
  /-- The markers that `fails` tells are counted as failures. -/
  failed : report'.failed = report.failed + page.countP (registry.fails refusal s)
  /-- Every expiry of the page is counted in `applied` or in `rejected`, unless it fails. -/
  tried : report'.applied + report'.rejected +
      page.countP (registry.expiryFails (MemoryStore.refusing refusal) s) =
    report.applied + report.rejected + page.length
  /-- The markers of `page` that do not fail are removed, and no others. -/
  queue : ∀ m, m ∈ s'.queue ↔ m ∈ s.queue ∧ (m ∈ page → registry.fails refusal s m)
  /-- The expiries that fail on `s'` are those that fail on `s`. -/
  fate : registry.expiryFails (MemoryStore.refusing refusal) s' =
    registry.expiryFails (MemoryStore.refusing refusal) s

namespace Handles

theorem refl (registry : Registry) (refusal : Marker → Option StoreError) (report : ScanReport)
    (s : MemoryStore) :
    registry.Handles refusal [] report report s s := by
  constructor <;> simp

/-- The markers that fail on `s'` are those that fail on `s`, as `fate` says of their expiries. -/
theorem fails_eq (h : registry.Handles refusal page report report' s s') :
    registry.fails refusal s' = registry.fails refusal s := by
  funext m
  rw [fails, fails, h.fate]

/-- Handling `page` and then `page'` is handling both: since `fails_eq` leaves the failures where
they were, counts and queues add up. -/
theorem trans (h : registry.Handles refusal page report report' s s')
    (h' : registry.Handles refusal page' report' report'' s' s'') :
    registry.Handles refusal (page ++ page') report report'' s s'' where
  due := h'.due.trans h.due
  settled := by
    rw [h'.settled, h.settled, List.length_append, Nat.add_assoc]
  failed := by
    rw [h'.failed, h.failed, h.fails_eq, List.countP_append, Nat.add_assoc]
  tried := by
    have hfirst := h.tried
    have hrest := h'.tried
    rw [h.fate] at hrest
    rw [List.countP_append, List.length_append]
    omega
  queue m := by
    rw [h'.queue, h.queue, h.fails_eq, List.mem_append]
    tauto
  fate := h'.fate.trans h.fate

end Handles

/-- Removing a queued marker counts it as failed if it is refused, and else as deleted. -/
theorem run_removeMarker_refusing (hm : m ∈ s.queue) (report : ScanReport) :
    (removeMarker m report).run (MemoryStore.refusing refusal) s =
      if (refusal m).isSome then ({ report with failed := report.failed + 1 }, s)
      else ({ report with deleted := report.deleted + 1 },
          { s with queue := s.queue.erase m }) := by
  cases hrefusal : refusal m with
  | some e => simp [removeMarker, Program.run, MemoryStore.refusing, hrefusal]
  | none =>
    have hanswer : MemoryStore.backend.answer (.deleteMarker m) s =
      (.ok (s.deleteMarker m).1, (s.deleteMarker m).2) := rfl
    have hdelete : s.deleteMarker m = (.deleted, { s with queue := s.queue.erase m }) :=
      ((s.deleteMarker_cases m).resolve_left fun h => h.1 hm).2
    rw [hdelete] at hanswer
    simp [removeMarker, Program.run, MemoryStore.refusing, hrefusal, hanswer]

/-- Removing a marker whose expiry was `counted` as applied or rejected completes the account of
it. -/
theorem handles_removeMarker (hkeyed : s.IsKeyed) (hm : m ∈ s.queue)
    (howned : registry.expiryFails (MemoryStore.refusing refusal) s m = false)
    {counted : ScanReport}
    (hcounted : counted.due = report.due ∧ counted.deleted = report.deleted ∧ counted.failed =
      report.failed ∧ counted.applied + counted.rejected = report.applied + report.rejected + 1)
    (hqueue : s'.queue = s.queue) (hkeyed' : s'.IsKeyed)
    (horphans : ∀ m', s'.IsOrphan m' ↔ s.IsOrphan m') :
    registry.Handles refusal [m] report
      ((removeMarker m counted).run (MemoryStore.refusing refusal) s').1 s
      ((removeMarker m counted).run (MemoryStore.refusing refusal) s').2 := by
  obtain ⟨hdue, hdeleted, hfailed, htried⟩ := hcounted
  have hm' : m ∈ s'.queue := hqueue ▸ hm
  -- whether an expiry fails depends on the orphans only, which are the same throughout
  have hfate : ∀ t : MemoryStore, t.IsKeyed → (∀ m', t.IsOrphan m' ↔ s.IsOrphan m') →
      registry.expiryFails (MemoryStore.refusing refusal) t =
        registry.expiryFails (MemoryStore.refusing refusal) s := by
    intro t ht horphans
    funext m'
    rw [expiryFails_eq refusal ht, expiryFails_eq refusal hkeyed, decide_eq_decide, horphans]
  rw [run_removeMarker_refusing hm']
  split
  -- refused: the marker stays, and the failure is counted
  next hrefusal =>
    have hfails : registry.fails refusal s m = true := by simp [fails, hrefusal]
    constructor
    · exact hdue
    · simp [hdeleted, hfailed, Nat.add_assoc]
    · simp [hfailed, hfails]
    · simpa [howned] using htried
    · intro m'
      show m' ∈ s'.queue ↔ _
      rw [hqueue, List.mem_singleton]
      exact ⟨fun h => ⟨h, fun heq => heq ▸ hfails⟩, And.left⟩
    · exact hfate s' hkeyed' horphans
  next hrefusal =>
    -- removed: the marker has left the queue, and did not fail
    have hfails : registry.fails refusal s m = false := by simp [fails, howned, hrefusal]
    constructor
    · exact hdue
    · simp only [hdeleted, hfailed, List.length_singleton]
      omega
    · simp [hfailed, hfails]
    · simpa [howned] using htried
    · intro m'
      show m' ∈ s'.queue.erase m ↔ _
      rw [SortedSet.mem_erase_iff, hqueue, List.mem_singleton]
      refine and_congr_right fun _ => ⟨fun hne heq => absurd heq hne, fun h heq => ?_⟩
      have hfails' := h heq
      rw [heq, hfails] at hfails'
      cases hfails'
    · exact hfate _ hkeyed' horphans

/-- A queued marker that is handled is removed or fails, as `Handles` accounts for it. -/
theorem handles_handleMarker (refusal : Marker → Option StoreError) (hkeyed : s.IsKeyed)
    (hm : m ∈ s.queue) (report : ScanReport) :
    registry.Handles refusal [m] report
      ((registry.handleMarker m report).run (MemoryStore.refusing refusal) s).1 s
      ((registry.handleMarker m report).run (MemoryStore.refusing refusal) s).2 := by
  have hfate := registry.expiryFails_eq refusal hkeyed m
  rw [handleMarker, Program.run_bind]
  by_cases horphan : s.IsOrphan m
  · -- nothing is removed
    rw [run_expiry_orphan horphan]
    have hexpiry : registry.expiryFails (MemoryStore.refusing refusal) s m = true := by
      simp [hfate, horphan]
    have hfails : registry.fails refusal s m = true := by simp [fails, hexpiry]
    constructor
    · rfl
    · rfl
    · simp [Program.run, hfails]
    · simp [Program.run, hexpiry]
    · intro m'
      show m' ∈ s.queue ↔ _
      rw [List.mem_singleton]
      exact ⟨fun h => ⟨h, fun heq => heq ▸ hfails⟩, And.left⟩
    · rfl
  · have hkeyed' := hkeyed.run_refusing refusal
      (registry.apply (.observed m.txid (.timelockExpired m.subState)))
    obtain ⟨outcome, s', hrun, hqueue, horphans⟩ := registry.run_expiry_owned refusal hkeyed horphan
    have howned : registry.expiryFails (MemoryStore.refusing refusal) s m = false := by
      simp [hfate, horphan]
    rw [hrun] at hkeyed' ⊢
    -- whether the expiry moved the delegation or not, the marker is removed afterwards
    cases outcome with
    | applied _ _ _ _ _ =>
      exact handles_removeMarker hkeyed hm howned ⟨rfl, rfl, rfl, by simp; omega⟩ hqueue
        hkeyed' horphans
    | rejected _ _ _ =>
      exact handles_removeMarker hkeyed hm howned ⟨rfl, rfl, rfl, by simp; omega⟩ hqueue
        hkeyed' horphans

/-- The markers of a `page` are handled in turn. The induction is on the page; no marker of it is
listed twice, so that each is still queued at its turn. -/
theorem handles_handlePage (refusal : Marker → Option StoreError) (hkeyed : s.IsKeyed)
    (hnodup : page.Nodup) (hqueued : ∀ m ∈ page, m ∈ s.queue) (report : ScanReport) :
    registry.Handles refusal page report
      ((registry.handlePage page report).run (MemoryStore.refusing refusal) s).1 s
      ((registry.handlePage page report).run (MemoryStore.refusing refusal) s).2 := by
  induction page generalizing s report with
  | nil => exact .refl ..
  | cons m rest ih =>
    obtain ⟨hm, hrest⟩ := List.forall_mem_cons.1 hqueued
    obtain ⟨hnew, hnodup⟩ := List.nodup_cons.1 hnodup
    have hfirst := registry.handles_handleMarker refusal hkeyed hm report
    rw [handlePage, Program.run_bind]
    refine hfirst.trans (ih (hkeyed.run_refusing refusal _) hnodup
      (fun m' hm' => (hfirst.queue m').2 ?_) _)
    exact ⟨hrest m' hm', fun heq => absurd (List.mem_singleton.1 heq ▸ hm') hnew⟩

/-- What a `page` asks and leaves does not depend on what was counted before it, be it in `report`
or `report'`. -/
theorem handlePage_congr (backend : Backend MemoryStore) (page : List Marker)
    (report report' : ScanReport) (s : MemoryStore) :
    (registry.handlePage page report).exchanges backend s =
      (registry.handlePage page report').exchanges backend s ∧
    ((registry.handlePage page report).run backend s).2 =
    ((registry.handlePage page report').run backend s).2 := by
  -- the counts are passed on, and nothing that is asked depends on them
  have hremove : ∀ (m : Marker) (report report' : ScanReport) (s : MemoryStore),
      (removeMarker m report).exchanges backend s = (removeMarker m report').exchanges backend s ∧
      ((removeMarker m report).run backend s).2 = ((removeMarker m report').run backend s).2 := by
    intro m report report' s
    simp only [removeMarker, Program.exchanges, Program.run]
    rcases (backend.answer (.deleteMarker m) s).1 with e | (_ | _) <;> exact ⟨rfl, rfl⟩
  have hmarker : ∀ (m : Marker) (report report' : ScanReport) (s : MemoryStore),
      (registry.handleMarker m report).exchanges backend s =
        (registry.handleMarker m report').exchanges backend s ∧
      ((registry.handleMarker m report).run backend s).2 =
      ((registry.handleMarker m report').run backend s).2 := by
    intro m report report' s
    simp only [handleMarker, Program.exchanges_bind, Program.run_bind]
    rcases ((registry.apply (.observed m.txid (.timelockExpired m.subState))).run backend s).1 with
      e | (_ | _)
    · exact ⟨rfl, rfl⟩
    · obtain ⟨hasked, hleft⟩ := hremove m { report with applied := report.applied + 1 }
        { report' with applied := report'.applied + 1 }
        ((registry.apply (.observed m.txid (.timelockExpired m.subState))).run backend s).2
      exact ⟨congrArg _ hasked, hleft⟩
    · obtain ⟨hasked, hleft⟩ := hremove m { report with rejected := report.rejected + 1 }
        { report' with rejected := report'.rejected + 1 }
        ((registry.apply (.observed m.txid (.timelockExpired m.subState))).run backend s).2
      exact ⟨congrArg _ hasked, hleft⟩
  -- by induction on the page, with both counts open
  induction page generalizing s report report' with
  | nil => exact ⟨rfl, rfl⟩
  | cons m rest ih =>
    obtain ⟨hasked, hleft⟩ := hmarker m report report' s
    simp only [handlePage, Program.exchanges_bind, Program.run_bind]
    rw [hasked, hleft]
    obtain ⟨hasked', hleft'⟩ := ih ((registry.handleMarker m report).run backend s).1
      ((registry.handleMarker m report').run backend s).1
        ((registry.handleMarker m report').run backend s).2
    exact ⟨congrArg _ hasked', hleft'⟩

/-- Handling `page ++ page'` is handling `page`, and then `page'` with the report of the first. -/
theorem handlePage_append (page page' : List Marker) (report : ScanReport) :
    registry.handlePage (page ++ page') report =
      (registry.handlePage page report).bind (registry.handlePage page') := by
  induction page generalizing report with
  | nil => rfl
  | cons m rest ih =>
    show (registry.handleMarker m report).bind (registry.handlePage (rest ++ page')) = _
    rw [handlePage, Program.bind_assoc]
    exact congrArg _ (funext ih)

end Registry

end StakeLedger
