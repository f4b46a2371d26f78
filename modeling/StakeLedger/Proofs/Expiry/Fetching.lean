import StakeLedger.Proofs.Database.Queue
import StakeLedger.Proofs.Database.Sessions
import StakeLedger.Proofs.Expiry.Account

/-!
# Fetching Due Markers Page by Page

Whoever wants all due markers asks for the ones behind the last marker of the page before, until a
page is short (`Program.fetchAfter`). In between, markers that were fetched may be removed from the
queue, one of them or all.

Both stores list the due markers in the order of the markers, and each page is cut off this list
(`ServesQueue`). Because a page starts behind a marker, and not behind a number of them, removals do
not move it: the pages together are the list (`ServesQueue.run_fetchAfter`), with no marker lost and
none repeated (`pages_list_due`).
-/

namespace StakeLedger

/-! ## Fetching -/

namespace Program

/-- Removes the listed markers in turn, whatever is answered, and goes on with `next`. -/
def removeMarkers {α : Type} (next : Program (Except TrackingError α)) :
    List Marker → Program (Except TrackingError α)
  | [] => next
  | m :: rest => .request (.deleteMarker m) fun _ => removeMarkers next rest

/-- Fetches the due markers behind `after`, a page of `limit` at a time until a page is short, and
adds them to those that were `fetched` before. After a full page, those of `removed` are removed
that were fetched by then. -/
def fetchAfter (removed : List Marker → List Marker) (limit : Nat) (tip : Height)
    (after : Option Marker) (fetched : List Marker) :
    Program (Except TrackingError (List Marker)) :=
  .request (.dueMarkers tip after limit) fun page =>
    if page.length < limit then .done (.ok (fetched ++ page))
    else
      match page.getLast? with
      | none => .done (.ok (fetched ++ page))
      | some last =>
        -- a page lists markers above the one it starts after, so the next page starts higher
        if _ : ∀ a ∈ after, compare a last = .lt then
          removeMarkers (fetchAfter removed limit tip (some last) (fetched ++ page))
            ((removed (fetched ++ page)).filter (· ∈ fetched ++ page))
        else .done (.ok (fetched ++ page))
termination_by Marker.remaining after
decreasing_by exact Marker.remaining_lt ‹_›

end Program

/-! ## Stores that Serve a Queue -/

/-- A store of type `σ` has the queue of a memory store, as `Holds` relates them, as far as heights
fit: it lists the due markers in pages, and removes markers. -/
structure ServesQueue {σ : Type} (backend : Backend σ) (Fits : Height → Prop)
    (Holds : σ → MemoryStore → Prop) : Prop where
  /-- The heights in the queue of a store that is held fit. -/
  fits : ∀ {t s}, Holds t s → ∀ m ∈ s.queue, Fits m.expireHeight
  /-- A page is cut off the list `dueBehind` of the due markers behind its start. -/
  due : ∀ {t s tip after}, Holds t s → Fits tip → (∀ a ∈ after, Fits a.expireHeight) → ∀ limit,
    ∃ t', backend.answer (.dueMarkers tip after limit) t =
      (.ok ((s.dueBehind tip after).take limit), t') ∧ Holds t' s
  /-- A marker is removed from the queue, whether or not it is there. -/
  delete : ∀ {t s}, Holds t s → ∀ m, ∃ outcome t',
    backend.answer (.deleteMarker m) t = (.ok outcome, t') ∧ Holds t' (s.deleteMarker m).2

namespace ServesQueue

variable {σ α : Type} {backend : Backend σ} {Fits : Height → Prop} {Holds : σ → MemoryStore → Prop}
  {t : σ} {s : MemoryStore}

/-- Removals take the listed markers out of the queue, and the program goes on with `next`. -/
theorem run_removeMarkers (h : ServesQueue backend Fits Holds) (hs : Holds t s)
    (next : Program (Except TrackingError α)) (markers : List Marker) :
    ∃ t' s', (Program.removeMarkers next markers).run backend t = next.run backend t' ∧
      Holds t' s' ∧ ∀ m, m ∈ s'.queue ↔ m ∈ s.queue ∧ m ∉ markers := by
  induction markers generalizing t s with
  | nil => exact ⟨t, s, rfl, hs, by simp⟩
  | cons m rest ih =>
    obtain ⟨outcome, t', hanswer, hs'⟩ := h.delete hs m
    obtain ⟨t'', s'', hrun, hs'', hqueue⟩ := ih hs'
    refine ⟨t'', s'', by rw [Program.removeMarkers, Program.run_request hanswer, hrun], hs'',
      fun m' => ?_⟩
    rw [hqueue, List.mem_cons, not_or, ← and_assoc]
    refine and_congr_left fun _ => ?_
    -- a marker that is gone already makes no difference
    rcases s.deleteMarker_cases m with ⟨hnone, hdelete⟩ | ⟨-, hdelete⟩
    · rw [hdelete]
      exact (and_iff_left_of_imp fun hm (heq : m' = m) => hnone (heq ▸ hm)).symm
    · rw [hdelete]
      exact SortedSet.mem_erase_iff

/-- All pages together are the list `dueBehind` of the due markers behind the start. The induction
is on the markers above the start of the page; what was `fetched` before is not above it, so that
removals leave what is still to come. -/
theorem run_fetchAfter (h : ServesQueue backend Fits Holds) (hs : Holds t s) {tip : Height}
    (htip : Fits tip) (removed : List Marker → List Marker) {limit : Nat} (hlimit : 0 < limit)
    {after : Option Marker} (hafter : ∀ a ∈ after, Fits a.expireHeight) {fetched : List Marker}
    (hfetched : ∀ m ∈ fetched, ∃ a ∈ after, compare a m ≠ .lt) :
    ((Program.fetchAfter removed limit tip after fetched).run backend t).1 =
      .ok (fetched ++ s.dueBehind tip after) := by
  induction hn : Marker.remaining after using Nat.strongRecOn generalizing t s after fetched with
  | _ n ih =>
    obtain ⟨t', hanswer, hs'⟩ := h.due hs htip hafter limit
    rw [Program.fetchAfter, Program.run_request hanswer]
    have hdue : s.dueBehind tip after =
        (s.dueBehind tip after).take limit ++ (s.dueBehind tip after).drop limit :=
      (List.take_append_drop ..).symm
    have hascending := (s.ascending_dueBehind tip after).sublist (List.take_sublist limit _)
    have hlisted : ∀ m ∈ (s.dueBehind tip after).take limit, m ∈ s.queue ∧ ∀ a ∈ after,
        compare a m = .lt := by
      intro m hm
      obtain ⟨hqueued, hbehind, -⟩ := MemoryStore.mem_dueBehind_iff.1 (List.mem_of_mem_take hm)
      exact ⟨hqueued, hbehind⟩
    split
    next hshort =>
      rw [List.length_take] at hshort
      rw [List.take_of_length_le (by omega)]
      rfl
    next hfull =>
      generalize hpage : (s.dueBehind tip after).take limit = page at *
      cases hend : page.getLast? with
      | none =>
        -- a full page is not empty
        rw [List.getLast?_eq_none_iff.1 hend] at hfull
        exact absurd hlimit hfull
      | some last =>
        have hlast : last ∈ page := List.mem_of_getLast? hend
        have hstart := (hlisted last hlast).2
        dsimp only
        rw [dif_pos hstart]
        obtain ⟨t'', s', hrun, hs'', hqueue⟩ := h.run_removeMarkers hs'
          (Program.fetchAfter removed limit tip (some last) (fetched ++ page))
          ((removed (fetched ++ page)).filter (· ∈ fetched ++ page))
        -- what was fetched is not behind the last marker
        have hfetched' : ∀ m ∈ fetched ++ page, compare last m ≠ .lt := by
          intro m hm hlt
          rcases List.mem_append.1 hm with hm | hm
          · obtain ⟨a, ha, hnot⟩ := hfetched m hm
            exact hnot (Std.TransCmp.lt_trans (hstart a ha) hlt)
          · exact not_lt_of_getLast? hascending hend hm hlt
        have hrest : s'.dueBehind tip (some last) = (s.dueBehind tip after).drop limit := by
          refine MemoryStore.dueBehind_getLast? hdue hend fun m hlt => ?_
          rw [hqueue]
          exact and_iff_left fun hm => hfetched' m (of_decide_eq_true (List.mem_filter.1 hm).2) hlt
        have hnext : ∀ a ∈ some last, Fits a.expireHeight := by
          rintro a ⟨⟩
          exact h.fits hs last (hlisted last hlast).1
        rw [hrun, ih _ (hn ▸ Marker.remaining_lt hstart) hs'' hnext
          (fun m hm => ⟨last, rfl, hfetched' m hm⟩) rfl, hrest, List.append_assoc, ← hdue]

end ServesQueue

/-! ## Both Stores -/

/-- The memory store serves its own queue, whatever the heights are. -/
theorem servesQueue_memory : ServesQueue MemoryStore.backend (fun _ => True) fun t s => t = s where
  fits _ _ _ := trivial
  due := by
    rintro s - tip after rfl - - limit
    exact ⟨s, congrArg (fun page => (Except.ok page, s)) (s.dueMarkers_eq_take tip after limit),
      rfl⟩
  delete := by
    rintro s - rfl m
    exact ⟨_, _, rfl, rfl⟩

/-- The session meets no obstacles and has the rows of a `queue`, all of which are read back. -/
structure Session.HasQueue (session : Session) (queue : SortedSet Marker) : Prop where
  free : session.IsFree
  /-- The rows are those of the `queue`, in any order. -/
  markers : session.database.markers.Perm (queue.elements.map .ofMarker)
  storable : ∀ m ∈ queue, IsStorableHeight m.expireHeight

namespace Session.HasQueue

variable {session : Session} {queue : SortedSet Marker}

/-- A request that the database answers leaves the session with the queue that the rows of `db` are
made of. -/
theorem answer (h : session.HasQueue queue) {queue' : SortedSet Marker} {r : Request} {a : r.Answer}
    {db : Database} (hanswer : session.database.answer r = (.ok a, db))
    (hmarkers : db.markers.Perm (queue'.elements.map .ofMarker))
    (hstorable : ∀ m ∈ queue', IsStorableHeight m.expireHeight) (retries : Nat) :
    ∃ session', (Session.backend retries).answer r session = (.ok a, session') ∧
        session'.HasQueue queue' := by
  obtain ⟨session', hsession, hfree, hdatabase⟩ := answer_of_database h.free hanswer retries
  exact ⟨session', hsession, hfree, hdatabase ▸ hmarkers, hstorable⟩

/-- The due markers are listed as by the memory store with the same `queue`. -/
theorem dueMarkers (h : session.HasQueue queue) {tip : Height} (htip : IsStorableHeight tip)
    {after : Option Marker} (hafter : ∀ a ∈ after, IsStorableHeight a.expireHeight) (limit : Nat) :
    session.database.dueMarkers tip after limit =
      .ok ({ MemoryStore.empty with queue }.dueMarkers tip after limit) := by
  -- the other tables do not count
  have hmirrors := Database.mirrors_empty.writeQueue h.storable h.markers
  exact hmirrors.dueMarkers htip hafter limit

end Session.HasQueue

/-- A session serves the queue it has the rows of, as long as heights are read back, that is,
`IsStorableHeight` holds of them. -/
theorem servesQueue_session (retries : Nat) :
    ServesQueue (Session.backend retries) IsStorableHeight fun session s =>
        session.HasQueue s.queue where
  fits h := h.storable
  due := by
    intro session s tip after h htip hafter limit
    have hlist : session.database.answer (.dueMarkers tip after limit) =
        (.ok ((s.dueBehind tip after).take limit), session.database) := by
      rw [MemoryStore.dueBehind, ← MemoryStore.dueMarkers_eq_take]
      exact congrArg (·, session.database) (h.dueMarkers htip hafter limit)
    exact h.answer hlist h.markers h.storable retries
  delete := by
    intro session s h m
    have hmem := Database.ofMarker_mem_iff h.markers (m := m)
    have hanswer : session.database.answer (.deleteMarker m) =
      (.ok (session.database.deleteMarker m).1, (session.database.deleteMarker m).2) := rfl
    -- the rows stay those of the queue, and the queue only gets smaller
    suffices hrows : (session.database.deleteMarker m).2.markers.Perm
        ((s.deleteMarker m).2.queue.elements.map .ofMarker) ∧
        ∀ m' ∈ (s.deleteMarker m).2.queue, m' ∈ s.queue by
      obtain ⟨session', hsession, h'⟩ :=
        h.answer hanswer hrows.1 (fun m' hm' => h.storable m' (hrows.2 m' hm')) retries
      exact ⟨_, session', hsession, h'⟩
    rw [Database.deleteMarker]
    rcases s.deleteMarker_cases m with ⟨hnone, hdelete⟩ | ⟨hqueued, hdelete⟩
    · rw [hdelete, if_neg fun hrow => hnone (hmem.1 hrow)]
      exact ⟨h.markers, fun _ hm' => hm'⟩
    · rw [hdelete, if_pos (hmem.2 hqueued)]
      exact ⟨Database.markers_filter h.markers m, fun m' hm' => (SortedSet.mem_erase_iff.1 hm').1⟩

/-! ## Lists of Due Markers -/

/-- The list `l` holds every marker of which `p` holds, each once and in order. -/
structure IsListing (p : Marker → Prop) (l : List Marker) : Prop where
  /-- Every marker of `l` is below those that follow it. -/
  ascending : l.Pairwise fun a b => compare a b = .lt
  /-- Listed is what `p` holds of. -/
  mem_iff : ∀ m, m ∈ l ↔ p m

/-- A store `t` lists the markers of `queue` that are due at `tip` and stand behind `after`, which
may be queued or not. A page is the beginning of the list, and all pages together are the list,
whichever of the fetched markers are `removed` before the next page is asked for. -/
def ListsDue {σ : Type} (backend : Backend σ) (t : σ) (queue : SortedSet Marker) (tip : Height)
    (after : Option Marker) : Prop :=
  ∃ due, IsListing (fun m => m ∈ queue ∧ m.IsDue tip ∧ ∀ a ∈ after, compare a m = .lt) due ∧
    (∀ limit, (backend.answer (.dueMarkers tip after limit) t).1 = .ok (due.take limit)) ∧
    ∀ removed limit, 0 < limit →
      ((Program.fetchAfter removed limit tip after []).run backend t).1 = .ok due

/-- The list `dueBehind` has the markers that are queued, due and behind `after`, in their order. -/
theorem MemoryStore.isListing_dueBehind (s : MemoryStore) (tip : Height) (after : Option Marker) :
    IsListing (fun m => m ∈ s.queue ∧ m.IsDue tip ∧ ∀ a ∈ after, compare a m = .lt)
        (s.dueBehind tip after) where
  ascending := s.ascending_dueBehind tip after
  mem_iff m := by rw [mem_dueBehind_iff, and_comm (a := ∀ a ∈ after, compare a m = .lt)]

/-- A store that serves a queue lists its due markers, since pages and fetching are cut off
`dueBehind`. -/
theorem ServesQueue.listsDue {σ : Type} {backend : Backend σ} {Fits : Height → Prop}
    {Holds : σ → MemoryStore → Prop} (h : ServesQueue backend Fits Holds) {t : σ} {s : MemoryStore}
    (hs : Holds t s) {tip : Height} (htip : Fits tip) {after : Option Marker}
    (hafter : ∀ a ∈ after, Fits a.expireHeight) :
    ListsDue backend t s.queue tip after := by
  refine ⟨_, s.isListing_dueBehind tip after, fun limit => ?_, fun removed limit hlimit => ?_⟩
  · obtain ⟨t', hanswer, -⟩ := h.due hs htip hafter limit
    rw [hanswer]
  · exact h.run_fetchAfter hs htip removed hlimit hafter (by simp)

/-- Both stores list the due markers, for every queue, start and size of the pages. A session does
so for heights that are not stored as negative numbers. -/
theorem pages_list_due :
    (∀ (s : MemoryStore) tip after, ListsDue MemoryStore.backend s s.queue tip after) ∧
      ∀ (retries : Nat) {session : Session} {queue : SortedSet Marker}, session.HasQueue queue →
        ∀ {tip : Height} {after : Option Marker}, IsStorableHeight tip →
          (∀ a ∈ after, IsStorableHeight a.expireHeight) →
            ListsDue (Session.backend retries) session queue tip after := by
  refine ⟨fun s tip after => ?_, fun retries session queue h tip after htip hafter => ?_⟩
  · exact servesQueue_memory.listsDue rfl trivial fun _ _ => trivial
  · exact (servesQueue_session retries).listsDue (s := { MemoryStore.empty with queue })
      h htip hafter

/-- Markers that share their height or their transaction. -/
def tiedMarkers : List Marker :=
  [⟨7, ⟨1⟩, .earlyUnbonding⟩, ⟨5, ⟨0⟩, .timelock⟩, ⟨7, ⟨1⟩, .timelock⟩, ⟨7, ⟨0⟩, .timelock⟩]

/-- A session that has the rows of `tiedMarkers`. -/
def tiedSession : Session :=
  { Session.fresh with database := { Database.empty with markers := tiedMarkers.map .ofMarker } }

/-- The session `tiedSession` lists its markers behind one that is not queued. -/
theorem tiedSession_lists_due :
    tiedSession.HasQueue (.ofList tiedMarkers) ∧ IsStorableHeight 7 ∧
      ListsDue (Session.backend 0) tiedSession (.ofList tiedMarkers) 7
          (some ⟨5, ⟨3⟩, .timelock⟩) := by
  have hheight : IsStorableHeight 5 ∧ IsStorableHeight 7 := by
    constructor <;> change _ < _ <;> decide
  have hqueue : tiedSession.HasQueue (.ofList tiedMarkers) := by
    refine ⟨fun _ => rfl, List.Perm.map _ (by decide +kernel), fun m hm => ?_⟩
    rw [SortedSet.mem_ofList, tiedMarkers] at hm
    revert m
    simp [hheight]
  exact ⟨hqueue, hheight.2, pages_list_due.2 0 hqueue hheight.2 (by simp [hheight])⟩

end StakeLedger
