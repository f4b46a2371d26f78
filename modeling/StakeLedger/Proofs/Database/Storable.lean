import StakeLedger.Proofs.Database.Programs
import StakeLedger.Proofs.Lifecycle.Asked
import StakeLedger.Proofs.Lifecycle.Calls

/-!
# Calls that Stay Storable

What a call asks of the memory store is storable as long as the heights and transactions that it
writes are, and then no failure of the store is its result. Only an observation that is applied and
the advance of the scanner's cursor write any (`Registry.isAnswered_observed`,
`Registry.isAnswered_tick`); the scan of a page asks for markers that were read from storable ones.
-/

namespace StakeLedger

/-- The result is a failure of the store. -/
def FromStore {α : Type} (result : Except TrackingError α) : Prop := ∃ e, result = .error (.store e)

@[simp]
theorem not_fromStore_ok {α : Type} (a : α) : ¬FromStore (.ok a) := by simp [FromStore]

@[simp]
theorem fromStore_error {α : Type} {e : TrackingError} :
    FromStore (.error e : Except TrackingError α) ↔ ∃ e', e = .store e' := by simp [FromStore]

/-- No plan fails for a cause of the store: `plannedUpdate` asks for nothing. -/
theorem not_fromStore_plannedUpdate (checkpoint : CheckpointParams) (d : Delegation)
    (t : Transition) (o : Observation) : ¬FromStore (plannedUpdate checkpoint d t o) := by
  have hend : ∀ height blocks, (∃ stop, timelockEnd d.txid height blocks = .ok stop) ∨
      timelockEnd d.txid height blocks = .error (.heightOverflow d.txid height blocks) := by
    intro height blocks
    rw [timelockEnd]
    split
    · exact .inl ⟨_, rfl⟩
    · exact .inr rfl
  cases o with
  | inclusionProofConfirmed inclusion tip =>
    rw [plannedUpdate]
    split
    · rcases hend inclusion d.stake.stakingTime with ⟨stop, h⟩ | h <;> rw [h] <;> rintro ⟨e, he⟩
        <;> cases he
    · simp
  | unbondingTxObserved observed =>
    rw [plannedUpdate]
    rcases hend observed d.stake.unbondingTime with ⟨stop, h⟩ | h <;> rw [h] <;> rintro ⟨e, he⟩
      <;> cases he
  | _ => simp [plannedUpdate]

namespace Registry

variable {registry : Registry} {s : MemoryStore}

/-! ## Events and Signatures -/

/-- The event of a new stake is answered: the record it saves is storable. -/
theorem isAnswered_create (stake : Stake) :
    (registry.create stake).IsAnswered (fun result => ¬FromStore result) s := by
  rw [create]
  split
  · simp
  next params hparams =>
    split
    · simp
    · refine Program.isAnswered_request (Delegation.isStorable_ofStake stake) fun outcome _ => ?_
      cases outcome with
      | inserted => simp
      | alreadyExists => exact Program.isAnswered_request trivial fun _ _ => by simp

/-- An observation is answered if what is planned for it is storable. What has a timelock in its
result was planned with it. -/
theorem isAnswered_observed {txid : Txid} {o : Observation}
    {Q : Except TrackingError Outcome → Prop}
    (hplan : ∀ d (u : StateUpdate), s.delegation? txid = some d →
      u.IsPlanned registry.checkpoint d o →
      u.IsStorable ∧ ∀ origin target subState,
        Q (.ok (.applied d.txid origin target subState u.timelock)))
    (hreject : ∀ txid attempted current, Q (.ok (.rejected txid attempted current)))
    (hfail : ∀ e, ¬FromStore (.error e : Except TrackingError Outcome) → Q (.error e)) :
    (registry.apply (.observed txid o)).IsAnswered Q s := by
  refine Program.isAnswered_request trivial fun found hfound => ?_
  have hread : s.delegation? txid = found := Except.ok.inj hfound
  cases found with
  | none => exact hfail _ (by simp)
  | some d =>
    show (registry.transition d o).IsAnswered Q s
    rw [transition]
    split
    · exact hreject _ _ _
    next t ht =>
      split
      next e he =>
        have hplanned := not_fromStore_plannedUpdate registry.checkpoint d t o
        rw [he] at hplanned
        exact hfail e (by simpa using hplanned)
      -- what is planned is storable by `hplan`, and so the update is answered
      next u hu =>
        obtain ⟨hstorable, hQ⟩ := hplan d u hread ⟨t, ht, hu⟩
        refine Program.isAnswered_request hstorable fun outcome _ => ?_
        cases outcome with
        | applied => exact hQ _ _ _
        -- the state that is read after a lost race is reported
        | preconditionFailed => exact Program.isAnswered_request trivial fun _ _ => hreject _ _ _

/-- An observation that records nothing is answered. -/
theorem isAnswered_observed_plain (txid : Txid) {o : Observation}
    (hplain : ∀ d t, plannedUpdate registry.checkpoint d t o = .ok t.update) :
    (registry.apply (.observed txid o)).IsAnswered (fun result => ¬FromStore result) s := by
  refine isAnswered_observed (fun d u _ ⟨t, _, hu⟩ => ?_) (by simp) fun _ h => h
  obtain rfl := Except.ok.inj ((hplain d t).symm.trans hu)
  exact ⟨⟨by simp [Transition.update], by simp [Transition.update], by simp [Transition.update]⟩,
    by simp⟩

/-- A signature is stored only where its record has been read. -/
theorem isAnswered_recordSignature (txid : Txid) (key : XOnlyKey) (signature : Signature) :
    (registry.recordSignature txid key signature).IsAnswered
      (fun result => ¬FromStore result) s := by
  refine Program.isAnswered_request trivial fun found hfound => ?_
  have hread : s.delegation? txid = found := Except.ok.inj hfound
  cases found with
  | none => simp
  | some d =>
    dsimp only
    split
    · simp
    · split
      · refine Program.isAnswered_request ⟨d, hread⟩ fun outcome _ => ?_
        cases outcome <;> simp
      · simp

/-- The signatures are counted on a record, without a write. -/
theorem isAnswered_tally (txid : Txid) :
    (registry.tally txid).IsAnswered (fun result => ¬FromStore result) s := by
  refine Program.isAnswered_request trivial fun found _ => ?_
  cases found with
  | none => simp
  | some d =>
    dsimp only
    split <;> simp

/-- A signature is answered, and the quorum transition with it. -/
theorem isAnswered_sign (txid : Txid) (key : XOnlyKey) (signature : Signature) :
    (registry.sign txid key signature).IsAnswered (fun result => ¬FromStore result) s := by
  have hquorum : ∀ s', (registry.applyQuorum txid).IsAnswered
      (fun result => ¬FromStore result) s' :=
    fun _ => isAnswered_observed_plain txid fun _ _ => rfl
  refine (isAnswered_recordSignature txid key signature).bind fun result _ hresult => ?_
  split
  -- stored: the transition follows if this signature meets the quorum, or finds it met
  next receipt =>
    split
    · refine (hquorum _).bind fun result _ hresult => ?_
      cases result with
      | error e => simpa using hresult
      | ok outcome => simp
    · split
      · refine (hquorum _).bind fun result _ hresult => ?_
        cases result with
        | error e => simpa using hresult
        | ok outcome => simp
      · simp
  -- a repetition: the signatures are counted first
  next =>
    refine (isAnswered_tally txid).bind fun result _ hresult => ?_
    cases result with
    | error e => simpa using hresult
    | ok receipt =>
      dsimp only
      split
      · refine (hquorum _).bind fun result _ hresult => ?_
        cases result with
        | error e => simpa using hresult
        | ok outcome =>
          dsimp only
          split <;> simp
      · simp
  next => simpa using hresult

/-! ## Scans -/

/-- A marker that is storable is handled, and removed if its time has come. -/
theorem isAnswered_handleMarker {m : Marker} (hm : IsStorableHeight m.expireHeight)
    (report : ScanReport) :
    (registry.handleMarker m report).IsAnswered (fun _ => True) s := by
  have hremove : ∀ report s', (removeMarker m report).IsAnswered (fun _ => True) s' := by
    intro report s'
    refine ⟨hm, ?_⟩
    obtain ⟨outcome, houtcome⟩ := Request.IsAnswered.exists_answer (s := s')
      (r := .deleteMarker m) hm
    rw [houtcome]
    cases outcome <;> trivial
  refine (isAnswered_observed_plain m.txid fun _ _ => rfl).bind fun result _ _ => ?_
  rcases result with _ | _ | _
  · trivial
  · exact hremove _ _
  · exact hremove _ _

/-- A page of storable markers is handled, by induction on the page. -/
theorem isAnswered_handlePage {page : List Marker}
    (hpage : ∀ m ∈ page, IsStorableHeight m.expireHeight) (report : ScanReport) :
    (registry.handlePage page report).IsAnswered (fun _ => True) s := by
  induction page generalizing s report with
  | nil => trivial
  | cons m rest ih =>
    obtain ⟨hm, hrest⟩ := List.forall_mem_cons.1 hpage
    exact (isAnswered_handleMarker hm report).bind fun report' _ _ => ih hrest report'

/-- The markers of a page are storable as those of the queue are. The induction is on the markers
above `after`, the start of the page. -/
theorem isAnswered_scanAfter {session : Session} (h : session.Mirrors s) {tip : Height}
    (htip : IsStorableHeight tip) {after : Option Marker}
    (hafter : ∀ m ∈ after, IsStorableHeight m.expireHeight) (pageSize : Nat) (report : ScanReport) :
    (registry.scanAfter pageSize tip after report).IsAnswered
      (fun result => ¬FromStore result) s := by
  induction hn : Marker.remaining after using Nat.strongRecOn generalizing session s
      after report with
  | _ n ih =>
    rw [scanAfter]
    refine Program.isAnswered_request ⟨htip, hafter⟩ fun page hpage => ?_
    obtain rfl : s.dueMarkers tip after pageSize = page := Except.ok.inj hpage
    have hstorable : ∀ m ∈ s.dueMarkers tip after pageSize, IsStorableHeight m.expireHeight :=
        fun m hm =>
      h.database.storable.queue m (MemoryStore.mem_of_mem_dueMarkers hm).1
    show Program.IsAnswered _ _ s
    have hpage := fun report => registry.isAnswered_handlePage (s := s) hstorable report
    refine (hpage _).bind fun report' _ _ => ?_
    split
    · simp
    next last hlast =>
      split
      · split
        -- the next page starts behind a marker of the queue, which is storable as well
        next hlt =>
          have hlast' := hstorable last (List.mem_of_getLast? hlast)
          exact ih _ (hn ▸ Marker.remaining_lt hlt)
            (h.run (hpage _) 0).2.2 (by simpa using hlast') _ rfl
        next => simp
      · simp

theorem cursors_scan (pageSize : Nat) (tip : Height) (s : MemoryStore) :
    ((registry.scan pageSize tip).run MemoryStore.backend s).2.cursors = s.cursors := by
  refine Program.OnlyAsks.cursors ?_ s
  apply onlyAsks_scan <;> simp [Request.method]

/-- A tick at a storable height is answered, and so is one that gets no height. -/
theorem isAnswered_tick {session : Session} (h : session.Mirrors s) (pageSize : Nat)
    {tip : Except ChainError Height} (htip : ∀ height, tip = .ok height → IsStorableHeight height) :
    (registry.tick pageSize tip).IsAnswered (fun result => ¬FromStore result) s := by
  cases tip with
  | error e => simp [tick]
  | ok tip =>
    have hscan : (registry.scan pageSize tip).IsAnswered (fun result => ¬FromStore result) s :=
      isAnswered_scanAfter h (htip tip rfl) (by simp) pageSize _
    refine Program.isAnswered_request trivial fun cursor hcursor => ?_
    obtain rfl : s.cursor scannerCursor = cursor := Except.ok.inj hcursor
    refine hscan.bind fun result _ hresult => ?_
    cases result with
    | error e => simpa using hresult
    | ok report =>
      -- the scan leaves the cursor alone, so that the tick advances what it read
      have hsame : ((registry.scan pageSize tip).run MemoryStore.backend s).2.cursor scannerCursor =
          s.cursor scannerCursor := by
        rw [MemoryStore.cursor, cursors_scan, ← MemoryStore.cursor]
      show Program.IsAnswered _ _ ((registry.scan pageSize tip).run MemoryStore.backend s).2
      dsimp only
      split
      next hlt =>
        refine Program.isAnswered_request ⟨by rw [hsame], by rwa [hsame], htip tip rfl⟩ fun _ _ =>
          ?_
        simp
      next => simp

end Registry

end StakeLedger
