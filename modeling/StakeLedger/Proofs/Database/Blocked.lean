import StakeLedger.Proofs.Database.Readable

/-!
# Scans that Fail for Good

A marker whose height is stored as a negative number comes before all markers that can be read, so
that the first page of due markers begins with a row that cannot be read
(`Database.dueMarkers_blocked`). A call removes no marker but those that it has read, which is why
no call ever removes this one: once such a timelock was opened, every scan fails, and every tick
with it (`scan_fails_after`).
-/

namespace StakeLedger

variable {db : Database} {markers : List Marker} {m : Marker}

/-! ## The Order of the Rows -/

/-- The order of markers in which their rows are listed: by the height as the signed number that is
stored, then by text and path as `Marker` has it, so that it is a total order of its own. -/
def Marker.compareStored : Marker → Marker → Ordering :=
  compareLex (compareOn fun m => m.expireHeight.toInt64)
    (compareLex (compareOn fun m => m.txid.text)
      (compareLex (compareOn fun m => m.subState.index) (compareOn fun m => m.subState.name)))

instance : Std.TransCmp Marker.compareStored :=
  inferInstanceAs (Std.TransCmp (compareLex (compareOn fun m : Marker => m.expireHeight.toInt64)
    (compareLex (compareOn fun m => m.txid.text)
      (compareLex (compareOn fun m => m.subState.index) (compareOn fun m => m.subState.name)))))

/-- The stored order puts smaller signed heights first. -/
theorem Marker.le_of_compareStored {a b : Marker} (h : (a.compareStored b).isLE) :
    a.expireHeight.toInt64 ≤ b.expireHeight.toInt64 := by
  change ((compare a.expireHeight.toInt64 b.expireHeight.toInt64).then _).isLE at h
  rw [← Std.isLE_compare]
  cases hcompare : compare a.expireHeight.toInt64 b.expireHeight.toInt64 with
  | gt =>
    rw [hcompare] at h
    cases h
  | _ => rfl

/-- The key of a row, and behind it the name of the path, order two rows as `Marker.compareStored`
orders the markers they are made of. -/
theorem MarkerRow.compareStored_eq (a b : Marker) :
    ((ofMarker a).compareKey (ofMarker b)).then
      (compare (ofMarker a).subState (ofMarker b).subState) = a.compareStored b := by
  rw [compareKey, rank_ofMarker, rank_ofMarker, Ordering.then_assoc, Ordering.then_assoc]
  rfl

namespace Database

/-- On a table with the rows of `markers`, a query for due markers decodes the first `limit` of
those whose signed height is not above that of the `tip`, in the order `Marker.compareStored`. -/
theorem dueMarkers_map (h : db.markers = markers.map .ofMarker) (tip : Height) (limit : Nat) :
    db.dueMarkers tip none limit = decodeAll MarkerRow.decode
      ((((markers.filter fun m => (compare m.expireHeight.toInt64 tip.toInt64).isLE).mergeSort
        fun a b => (a.compareStored b).isLE).take limit).map .ofMarker) := by
  simp only [dueMarkers, h]
  rw [List.filter_map, List.map_take, List.map_mergeSort]
  · rfl
  · intro a _ b _
    rw [MarkerRow.compareStored_eq]

/-- Decoding fails at the column `expire_height` if the first row is one whose height is stored as a
negative number, whatever the `rest` is. -/
theorem decodeAll_negative (hm : ¬IsStorableHeight m.expireHeight) (rest : List Marker) :
    decodeAll MarkerRow.decode ((m :: rest).map .ofMarker) =
      .error (.driver (.column "expire_height" .negativeHeight)) := by
  have hdecode : (MarkerRow.ofMarker m).decode =
      .error (.column "expire_height" .negativeHeight) := by
    simp only [MarkerRow.ofMarker, MarkerRow.decode, Column.decodeHeight_encodeHeight_error hm]
    rfl
  rw [decodeAll, List.map_cons, List.mapM_cons, hdecode]
  rfl

/-- Where some marker `m` of the table has a height stored as a negative number, the first page of a
query begins with such a marker, and so fails, unless it is empty; at a storable `tip` it is empty
only if `limit` is `0`. -/
theorem dueMarkers_blocked (h : db.markers = markers.map .ofMarker) (hm : m ∈ markers)
    (hblocked : ¬IsStorableHeight m.expireHeight) (tip : Height) (limit : Nat) :
    db.dueMarkers tip none limit = .error (.driver (.column "expire_height" .negativeHeight)) ∨
      (db.dueMarkers tip none limit = .ok [] ∧ (IsStorableHeight tip → limit = 0)) := by
  have hneg : m.expireHeight.toInt64 < 0 := Column.toInt64_neg hblocked
  rw [dueMarkers_map h]
  generalize hdue : markers.filter (fun m => (compare m.expireHeight.toInt64 tip.toInt64).isLE) =
    due
  -- the marker is below every height that is not negative
  have hmem : IsStorableHeight tip → m ∈ due := by
    intro htip
    rw [← hdue, List.mem_filter, Std.isLE_compare]
    exact ⟨hm, Int64.le_of_lt
      (Int64.lt_of_lt_of_le hneg (Int64.not_lt.1 (Column.not_toInt64_neg htip)))⟩
  cases hsorted : due.mergeSort fun a b => (a.compareStored b).isLE with
  | nil =>
    refine .inr ⟨by rw [List.take_nil]; rfl, fun htip => ?_⟩
    have hperm := (List.mergeSort_perm due fun a b => (a.compareStored b).isLE).mem_iff.2
      (hmem htip)
    rw [hsorted] at hperm
    cases hperm
  | cons first rest =>
    cases limit with
    | zero => exact .inr ⟨rfl, fun _ => rfl⟩
    | succ limit =>
      left
      rw [List.take_succ_cons]
      refine decodeAll_negative (fun hfirst => ?_) _
      have hfirst' := Column.not_toInt64_neg hfirst
      by_cases htip : IsStorableHeight tip
      · have hle := Marker.le_of_compareStored (isLE_of_mergeSort_cons hsorted (hmem htip))
        exact hfirst' (Int64.lt_of_le_of_lt hle hneg)
      · have hperm := (List.mergeSort_perm due fun a b => (a.compareStored b).isLE).mem_iff
          (a := first)
        rw [hsorted, ← hdue, List.mem_filter, Std.isLE_compare] at hperm
        have hle := (hperm.1 (List.mem_cons_self ..)).2
        exact hfirst' (Int64.lt_of_le_of_lt hle (Column.toInt64_neg htip))

/-! ## Rows that Stay -/

/-- The database has, as far as markers go, the rows of some set of markers and no other rows, and
all the `queued` ones are among them. -/
def Queues (db : Database) (queued : List Marker) : Prop :=
  ∃ markers : List Marker, db.markers = markers.map .ofMarker ∧ ∀ m ∈ queued, m ∈ markers

variable {queued : List Marker}

/-- A database with the same rows of markers queues the same. -/
theorem Queues.congr {db' : Database} (h : db.Queues queued) (hmarkers : db'.markers = db.markers) :
    db'.Queues queued := by
  obtain ⟨markers, hrows, hqueued⟩ := h
  exact ⟨markers, hmarkers.trans hrows, hqueued⟩

/-- Inserting the row of `m` queues `m` besides what was `queued`, whether or not the row was
there. -/
theorem Queues.insertMarker (h : db.Queues queued) (m : Marker) :
    (db.insertMarker (.ofMarker m)).Queues (m :: queued) := by
  obtain ⟨markers, hrows, hqueued⟩ := h
  rw [Database.insertMarker]
  split
  next hmem =>
    rw [hrows] at hmem
    obtain ⟨m', hm', hrow⟩ := List.mem_map.1 hmem
    obtain rfl := MarkerRow.ofMarker_inj hrow
    exact ⟨markers, hrows, List.forall_mem_cons.2 ⟨hm', hqueued⟩⟩
  next => exact ⟨markers ++ [m], by simp [hrows], by simpa using fun m hm => .inl (hqueued m hm)⟩

/-- What is queued of `queued` is queued of any part of it. -/
theorem Queues.imp {queued' : List Marker} (h : db.Queues queued)
    (himp : ∀ m ∈ queued', m ∈ queued) :
    db.Queues queued' := by
  obtain ⟨markers, hrows, hqueued⟩ := h
  exact ⟨markers, hrows, fun m hm => hqueued m (himp m hm)⟩

/-- A change of state that is `applied` queues the timelock `u.timelock` that it opens, and keeps
what was `queued`. -/
theorem Queues.updateState (h : db.Queues queued) {txid : Txid} {u : StateUpdate}
    (happlied : (db.updateState txid u).1 = .applied) :
    (db.updateState txid u).2.Queues (u.timelock.toList ++ queued) := by
  rw [Database.updateState] at happlied ⊢
  split at happlied
  · rw [if_pos ‹_›]
    cases u.timelock with
    | none => exact h.congr rfl
    | some m =>
      refine Queues.insertMarker ?_ m
      exact h.congr rfl
  · cases happlied

/-- Only the request `deleteMarker` takes a row of a marker away: any other leaves what is
`queued`. -/
theorem Queues.answer (h : db.Queues queued) {r : Request} (hr : r.method ≠ .deleteMarker) :
    (db.answer r).2.Queues queued := by
  cases r with
  | saveDelegation d =>
    -- the rows of signatures that come with a record are inserted one by one
    have hsigned : ∀ (entries : List (XOnlyKey × Signature)) (db : Database),
        (entries.foldl (fun db e =>
        db.insertSignature (.ofSignature d.txid e.1 e.2)) db).markers = db.markers := by
      intro entries
      induction entries with
      | nil => exact fun _ => rfl
      | cons e entries ih =>
        intro db
        rw [List.foldl_cons, ih, insertSignature]
        split <;> rfl
    show (db.saveDelegation d).2.Queues queued
    rw [Database.saveDelegation]
    split
    · exact h
    · exact h.congr (hsigned _ _)
  | updateState txid u =>
    show (db.updateState txid u).2.Queues queued
    cases happlied : (db.updateState txid u).1 with
    | applied => exact (h.updateState happlied).imp fun _ => List.mem_append_right _
    -- the rows are written only where the condition holds
    | preconditionFailed =>
      rw [Database.updateState] at happlied ⊢
      split at happlied
      · cases htimelock : u.timelock <;> rw [htimelock] at happlied <;> cases happlied
      · rwa [if_neg ‹_›]
  | saveSignature txid key signature =>
    show (db.saveSignature txid key signature).2.Queues queued
    rw [Database.saveSignature]
    dsimp only
    split
    · exact h
    · split
      · exact h
      · refine h.congr ?_
        dsimp only
        rw [insertSignature]
        split <;> rfl
  | saveMarker m => exact (h.insertMarker m).imp fun _ => List.mem_cons_of_mem _
  | deleteMarker m => exact absurd rfl hr
  | advanceCursor name expected height =>
    refine h.congr ?_
    show (db.advanceCursor name expected height).2.markers = _
    rw [Database.advanceCursor]
    split <;> split <;> rfl
  | getDelegation _ | delegationsByStates _ | delegationsByProvider _ | dueMarkers _ _ _
  | getCursor _ => exact h

/-- Any request leaves rows of markers as the rows of markers, so that `Queues []` is an
invariant. -/
theorem Queues.rows (h : db.Queues queued) (r : Request) : (db.answer r).2.Queues [] := by
  by_cases hr : r.method = .deleteMarker
  · cases r with
    | deleteMarker m =>
      obtain ⟨markers, hrows, -⟩ := h
      show (db.deleteMarker m).2.Queues []
      rw [Database.deleteMarker]
      split
      · refine ⟨markers.filter fun m' => MarkerRow.ofMarker m' ≠ MarkerRow.ofMarker m, ?_, by simp⟩
        rw [hrows, List.filter_map]
        rfl
      · exact ⟨markers, hrows, by simp⟩
    | _ => cases hr
  · exact (h.answer hr).imp (by simp)

end Database

/-! ## Sessions -/

variable {session : Session} {P : Database → Prop} {α : Type}

/-- A session without obstacles keeps to an invariant `P` of databases, and free of obstacles, if
`Database.answer` does for the request. -/
theorem Session.answer_invariant {r : Request} (h : ∀ db, P db → P (db.answer r).2)
    (hfree : session.IsFree) (hP : P session.database) (retries : Nat) :
    ((backend retries).answer r session).2.IsFree ∧
        P ((backend retries).answer r session).2.database := by
  obtain ⟨-, hdatabase, hfree'⟩ := answer_eq hfree r retries
  exact ⟨hfree', hdatabase ▸ h _ hP⟩

/-- A program that only asks requests in `R` keeps a session to `P` if each of these requests
does. -/
theorem Program.OnlyAsks.invariant {R : Request → Prop} {p : Program α} (hp : p.OnlyAsks R)
    (h : ∀ r, R r → ∀ db, P db → P (db.answer r).2) (hfree : session.IsFree)
    (hP : P session.database) (retries : Nat) :
    (p.run (Session.backend retries) session).2.IsFree ∧
        P (p.run (Session.backend retries) session).2.database := by
  induction p generalizing session with
  | done a => exact ⟨hfree, hP⟩
  | call r next ih =>
    obtain ⟨hfree', hP'⟩ := Session.answer_invariant (h r hp.1) hfree hP retries
    exact ih _ (hp.2 _) hfree' hP'

/-- Every program only asks requests of which `True` holds. -/
theorem Program.onlyAsks_true (p : Program α) : p.OnlyAsks fun _ => True := by
  induction p with
  | done a => trivial
  | call r next ih => exact ⟨trivial, ih⟩

/-- A request `r` of a program either ends it with the failure of the store, or is answered and the
program goes on, so that `Q` holds of the run if it does in both cases. -/
theorem Program.run_request_cases {σ : Type} {backend : Backend σ} {r : Request}
    {next : r.Answer → Program (Except TrackingError α)} {s : σ}
    {Q : Except TrackingError α × σ → Prop}
    (hfail : ∀ e s', backend.answer r s = (.error e, s') → Q (.error (.store e), s'))
    (hnext : ∀ a s', backend.answer r s = (.ok a, s') → Q ((next a).run backend s')) :
    Q ((Program.request r next).run backend s) := by
  rcases h : backend.answer r s with ⟨e | a, s'⟩
  · rw [Program.run_request_error h]
    exact hfail e s' h
  · rw [Program.run_request h]
    exact hnext a s' h

/-- Where the `result` of an event was applied with a timelock `m`, the session afterwards has `m`
queued. -/
def Opens (result : Except TrackingError Outcome × Session) : Prop :=
  ∀ txid origin target subState m, result.1 = .ok (.applied txid origin target subState (some m)) →
    result.2.database.Queues [m]

namespace Registry

variable {registry : Registry}

/-- A new stake opens no timelock, so that there is nothing to be queued. -/
theorem opens_create (stake : Stake) (session : Session) (retries : Nat) :
    Opens ((registry.create stake).run (Session.backend retries) session) := by
  rw [create]
  split
  · simp [Opens, Program.fail, Program.run]
  · split
    · simp [Opens, Program.fail, Program.run]
    · refine Program.run_request_cases (Q := Opens) (by simp [Opens]) fun outcome s' _ => ?_
      cases outcome with
      | inserted => simp [Opens, Program.run]
      | alreadyExists =>
        exact Program.run_request_cases (Q := Opens)
          (by simp [Opens]) fun _ _ _ => by simp [Opens, Program.run]

/-- An observation that is applied has queued the timelock it opened: its write is
`Queues.updateState`, and nothing is removed behind it. -/
theorem opens_observed (hfree : session.IsFree) (hrows : session.database.Queues []) (txid : Txid)
    (o : Observation) (retries : Nat) :
    Opens ((registry.apply (.observed txid o)).run (Session.backend retries) session) := by
  refine Program.run_request_cases (Q := Opens) (by simp [Opens]) fun found read hread => ?_
  have hkept := Session.answer_invariant (r := .getDelegation txid) (P := (·.Queues []))
    (fun _ h => h) hfree hrows retries
  rw [hread] at hkept
  obtain ⟨hfree', hrows'⟩ := hkept
  cases found with
  | none => simp [Opens, Program.fail, Program.run]
  | some d =>
    show Opens ((registry.transition d o).run (Session.backend retries) read)
    rw [transition]
    split
    · simp [Opens, Program.run]
    · split
      · simp [Opens, Program.fail, Program.run]
      next u hu =>
        -- the database answers a change of state, and does what it says
        have hanswer : read.database.answer (.updateState d.txid u) =
            (.ok (read.database.updateState d.txid u).1,
              (read.database.updateState d.txid u).2) := rfl
        obtain ⟨s', hupdate, -, hdatabase⟩ := Session.answer_of_database hfree' hanswer retries
        rw [Program.run_request hupdate]
        cases happlied : (read.database.updateState d.txid u).1 with
        | applied =>
          rintro _ _ _ _ m h
          have htimelock : u.timelock = some m := by
            simp only [Program.run, Except.ok.injEq, Outcome.applied.injEq] at h
            exact h.2.2.2.2
          have hqueues := hrows'.updateState happlied
          rw [htimelock, ← hdatabase] at hqueues
          exact hqueues
        | preconditionFailed =>
          exact Program.run_request_cases (Q := Opens) (by simp [Opens]) fun _ _ _ => by
            simp [Opens, Program.run]

/-! ## Calls -/

/-- A scan that left the marker `m` queued and, unless its pages are empty by `pageSize` or by a
`tip` that is stored as a negative number, failed on the store. -/
def IsStuck (m : Marker) (pageSize : Nat) (tip : Height)
    (result : Except TrackingError ScanReport × Session) : Prop :=
  (result.2.IsFree ∧ result.2.database.Queues [m]) ∧
    (0 < pageSize → IsStorableHeight tip → FromStore result.1)

variable (hblocked : ¬IsStorableHeight m.expireHeight)

include hblocked

/-- A scan is stuck on a queued `m` that is stored with a negative height: its first page is empty
or cannot be read, by `Database.dueMarkers_blocked`, so that it removes no marker. -/
theorem isStuck_scan (hfree : session.IsFree) (hqueues : session.database.Queues [m])
    (pageSize : Nat) (tip : Height) (retries : Nat) :
    IsStuck m pageSize tip ((registry.scan pageSize tip).run (Session.backend retries)
        session) := by
  have hkept := Session.answer_invariant (r := .dueMarkers tip none pageSize) (P := (·.Queues [m]))
    (fun _ h => h) hfree hqueues retries
  obtain ⟨markers, hrows, hqueued⟩ := hqueues
  -- the first request of a scan asks for the page that `m` is due in
  rw [scan, scanAfter]
  rcases Database.dueMarkers_blocked hrows (hqueued m (List.mem_singleton_self m)) hblocked tip
      pageSize with
    hunread | ⟨hempty, hlimit⟩
  · -- `m` is on the page, and its row is not decoded
    obtain ⟨e, session', hreply⟩ :=
      Session.answer_unreadable hfree (r := .dueMarkers tip none pageSize) hunread retries
    rw [hreply] at hkept
    rw [Program.run_request_error hreply]
    exact ⟨hkept, fun _ _ => ⟨e, rfl⟩⟩
  · -- the page is empty, which for a storable `tip` takes a page size of `0`
    have hanswer : session.database.answer (.dueMarkers tip none pageSize) =
        (.ok [], session.database) := by
      rw [Database.answer, hempty]
    obtain ⟨session', hreply, -⟩ := Session.answer_of_database hfree hanswer retries
    rw [hreply] at hkept
    rw [Program.run_request hreply]
    exact ⟨hkept, fun hsize htip => absurd (hlimit htip) (Nat.ne_of_gt hsize)⟩

/-- A tick is stuck as its scan is: the cursor it reads first touches no marker, and what follows a
failed scan is its failure. -/
theorem isStuck_tick (hfree : session.IsFree) (hqueues : session.database.Queues [m])
    (pageSize : Nat) (tip : Height) (retries : Nat) :
    IsStuck m pageSize tip ((registry.tick pageSize (.ok tip)).run (Session.backend retries)
        session) := by
  have hkept := Session.answer_invariant (r := .getCursor scannerCursor) (P := (·.Queues [m]))
    (fun _ h => h) hfree hqueues retries
  refine Program.run_request_cases (Q := IsStuck m pageSize tip)
    (fun e s' hreply => ?_) fun cursor s' hreply => ?_
  · -- the cursor cannot be read, and the tick fails with that
    rw [hreply] at hkept
    exact ⟨hkept, fun _ _ => ⟨e, rfl⟩⟩
  · rw [hreply] at hkept
    have hscan := registry.isStuck_scan hblocked hkept.1 hkept.2 pageSize tip retries
    rw [Program.run_bind]
    generalize (registry.scan pageSize tip).run (Session.backend retries) s' = result at hscan
    obtain ⟨e | report, s''⟩ := result
    · exact hscan
    · -- a scan that has come to its end was not to read the page
      obtain ⟨hkept', hread⟩ := hscan
      have hnone : 0 < pageSize → IsStorableHeight tip → False := fun hsize htip =>
        not_fromStore_ok report (hread hsize htip)
      dsimp only
      split
      · have hasks : (Program.request (.advanceCursor scannerCursor cursor.version tip) fun _ =>
            .done (.ok report) : Program (Except TrackingError ScanReport)).OnlyAsks
              (·.method ≠ .deleteMarker) := Program.onlyAsks_request (by simp [Request.method])
                fun _ => trivial
        exact ⟨hasks.invariant (P := (·.Queues [m])) (fun _ hr _ h => h.answer hr) hkept'.1
          hkept'.2 retries, fun hsize htip => (hnone hsize htip).elim⟩
      · exact ⟨hkept', fun hsize htip => (hnone hsize htip).elim⟩

/-- A `call` of any kind leaves the marker `m` queued: only scans and ticks remove markers, and they
are stuck. -/
theorem queues_program (hfree : session.IsFree) (hqueues : session.database.Queues [m])
    (call : Call) (retries : Nat) :
    ((registry.program call).run (Session.backend retries) session).2.IsFree ∧
      ((registry.program call).run (Session.backend retries) session).2.database.Queues [m] := by
  cases call with
  | apply event =>
    have hasks : (registry.apply event).OnlyAsks (·.method ≠ .deleteMarker) := by
      apply onlyAsks_apply <;> simp [Request.method]
    rw [program, Program.run_bind_done]
    exact hasks.invariant (P := (·.Queues [m])) (fun _ hr _ h => h.answer hr) hfree hqueues retries
  | sign txid key signature =>
    have hasks : (registry.sign txid key signature).OnlyAsks (·.method ≠ .deleteMarker) := by
      apply onlyAsks_sign <;> simp [Request.method]
    rw [program, Program.run_bind_done]
    exact hasks.invariant (P := (·.Queues [m])) (fun _ hr _ h => h.answer hr) hfree hqueues retries
  -- scans and ticks do remove markers, but not while they are stuck
  | scan pageSize tip =>
    rw [program, Program.run_bind_done]
    exact (registry.isStuck_scan hblocked hfree hqueues pageSize tip retries).1
  | tick pageSize tip =>
    rw [program, Program.run_bind_done]
    cases tip with
    | error e => exact ⟨hfree, hqueues⟩
    | ok tip => exact (registry.isStuck_tick hblocked hfree hqueues pageSize tip retries).1

omit hblocked

/-- After any `calls` on an empty database, the table of markers has rows of markers only. -/
theorem queues_sessionAfter (registry : Registry) (retries : Nat) (calls : List Call) :
    (registry.sessionAfter retries calls).IsFree ∧
    (registry.sessionAfter retries calls).database.Queues [] := by
  induction calls using List.reverseRecOn with
  | nil => exact ⟨Session.isFree_fresh, [], rfl, by simp⟩
  | append_singleton calls call ih =>
    rw [sessionAfter_concat]
    exact (Program.onlyAsks_true _).invariant (P := (·.Queues []))
      (fun r _ _ h => h.rows r) ih.1 ih.2 retries

/-- A call whose response tells that a timelock `m` was opened has `m` queued. -/
theorem queues_of_responseAfter {registry : Registry} {retries : Nat} {earlier : List Call}
    {call : Call} {txid : Txid} {origin : Option State} {target : State}
    {subState : Option SubState}
    (hcall : registry.responseAfter retries earlier call =
      .applied (.ok (.applied txid origin target subState (some m)))) :
    (registry.sessionAfter retries (earlier ++ [call])).database.Queues [m] := by
  obtain ⟨hfree, hrows⟩ := registry.queues_sessionAfter retries earlier
  rw [sessionAfter_concat]
  rw [responseAfter] at hcall
  cases call with
  | apply event =>
    rw [program, Program.run_bind_done] at hcall ⊢
    -- the marker was written with the record, by whatever kind of event it was
    have hopens : Opens ((registry.apply event).run (Session.backend retries)
        (registry.sessionAfter retries earlier)) := by
      cases event with
      | newStake stake => exact opens_create stake _ retries
      | observed txid o => exact opens_observed hfree hrows txid o retries
    exact hopens _ _ _ _ _ (Response.applied.inj hcall)
  -- no other call is answered by `applied`
  | sign txid key signature =>
    rw [program, Program.run_bind_done] at hcall
    cases hcall
  | scan pageSize tip =>
    rw [program, Program.run_bind_done] at hcall
    cases hcall
  | tick pageSize tip =>
    rw [program, Program.run_bind_done] at hcall
    cases hcall

end Registry

/-- Once a call was answered that opens a timelock `m` whose end is stored as a negative number,
every scan and every tick fails on the store that is to read a page at a storable `tip`, whatever
calls are made `later`. -/
theorem scan_fails_after (registry : Registry) (retries : Nat) {earlier : List Call} {call : Call}
    {txid : Txid} {origin : Option State} {target : State} {subState : Option SubState} {m : Marker}
    (hcall : registry.responseAfter retries earlier call =
      .applied (.ok (.applied txid origin target subState (some m))))
    (hblocked : ¬IsStorableHeight m.expireHeight) (later : List Call) {pageSize : Nat}
    (hsize : 0 < pageSize) {tip : Height} (htip : IsStorableHeight tip) :
    (registry.responseAfter retries (earlier ++ [call] ++ later)
      (.scan pageSize tip)).IsStoreFailure ∧
      (registry.responseAfter retries (earlier ++ [call] ++ later)
      (.tick pageSize (.ok tip))).IsStoreFailure := by
  have hqueues : (registry.sessionAfter retries (earlier ++ [call] ++ later)).IsFree ∧
      (registry.sessionAfter retries (earlier ++ [call] ++ later)).database.Queues [m] := by
    -- by induction on the calls made later, each of which leaves the marker queued
    induction later using List.reverseRecOn with
    | nil =>
      rw [List.append_nil]
      exact ⟨(registry.queues_sessionAfter retries _).1, Registry.queues_of_responseAfter hcall⟩
    | append_singleton later call' ih =>
      rw [← List.append_assoc, Registry.sessionAfter_concat]
      exact registry.queues_program hblocked ih.1 ih.2 call' retries
  rw [Registry.responseAfter, Registry.responseAfter, Registry.program, Registry.program,
    Program.run_bind_done, Program.run_bind_done]
  exact ⟨(registry.isStuck_scan hblocked hqueues.1 hqueues.2 pageSize tip retries).2 hsize htip,
    (registry.isStuck_tick hblocked hqueues.1 hqueues.2 pageSize tip retries).2 hsize htip⟩

end StakeLedger
