import StakeLedger.Expiry.Tick
import StakeLedger.Lifecycle.Quorum
import StakeLedger.Proofs.Interleaving.Requests
import StakeLedger.Proofs.Lifecycle.Progress

/-!
# What Calls Ask

The requests that events, scans and ticks make, whatever they are answered. An observation asks for
a write to the target of its kind (`Registry.onlyAsks_observed`), and a scan for writes to the
unbonded state (`Registry.onlyAsks_scan`).
-/

namespace StakeLedger

variable {P : Request → Prop}

namespace Registry

variable {registry : Registry} (hread : ∀ txid, P (.getDelegation txid))

/-! ## Events and Signatures -/

section

include hread

/-- A new stake asks for its record to be saved, under registered parameters, and for nothing else
but to read. -/
theorem onlyAsks_create {stake : Stake}
    (hsave : ∀ params, registry.staking? stake.paramsVersion = some params →
      P (.saveDelegation (.ofStake stake))) : (registry.create stake).OnlyAsks P := by
  rw [create]
  split
  · trivial
  next params hparams =>
    split
    · trivial
    · refine Program.onlyAsks_request (hsave params hparams) fun outcome => ?_
      cases outcome with
      | inserted => trivial
      | alreadyExists => exact Program.onlyAsks_request (hread _) fun _ => trivial

/-- An observation `o` asks for writes to the state `o.kind.target`, besides reading. -/
theorem onlyAsks_observed {txid : Txid} {o : Observation}
    (hupdate : ∀ txid u, u.target = o.kind.target → P (.updateState txid u)) :
    (registry.apply (.observed txid o)).OnlyAsks P := by
  refine Program.onlyAsks_request (hread _) fun found => ?_
  cases found with
  | none => trivial
  | some d =>
    show (registry.transition d o).OnlyAsks P
    rw [transition]
    split
    · trivial
    next t ht =>
      split
      · trivial
      next u hu =>
        have htarget : u.target = o.kind.target := by
          obtain ⟨-, rfl⟩ := TransitionKind.fromState_eq_ok ht
          exact (plannedUpdate_move hu).2.1
        refine Program.onlyAsks_request (hupdate _ u htarget) fun outcome => ?_
        cases outcome with
        | applied => trivial
        -- after a lost race the record is read again
        | preconditionFailed => exact Program.onlyAsks_request (hread _) fun _ => trivial

/-- An event asks for a record to be saved or a state to be updated, besides reading. -/
theorem onlyAsks_apply (hsave : ∀ d, P (.saveDelegation d))
    (hupdate : ∀ txid u, P (.updateState txid u)) (event : Event) :
    (registry.apply event).OnlyAsks P := by
  cases event with
  | newStake stake => exact onlyAsks_create hread fun _ _ => hsave _
  | observed txid o => exact onlyAsks_observed hread fun txid u _ => hupdate txid u

/-- Recording a signature asks for signatures to be saved, besides reading. -/
theorem onlyAsks_recordSignature
    (hsave : ∀ txid key signature, P (.saveSignature txid key signature)) (txid : Txid)
    (key : XOnlyKey) (signature : Signature) :
    (registry.recordSignature txid key signature).OnlyAsks P := by
  refine Program.onlyAsks_request (hread _) fun found => ?_
  cases found with
  | none => trivial
  | some d =>
    dsimp only
    split
    · trivial
    · split
      · refine Program.onlyAsks_request (hsave _ _ _) fun outcome => ?_
        cases outcome <;> trivial
      · trivial

/-- Counting signatures only reads the record. -/
theorem onlyAsks_tally (txid : Txid) : (registry.tally txid).OnlyAsks P := by
  refine Program.onlyAsks_request (hread _) fun found => ?_
  cases found with
  | none => trivial
  | some d =>
    dsimp only
    split <;> trivial

/-- The call `sign` asks for signatures to be saved and for writes to `verified`, besides
reading. -/
theorem onlyAsks_sign (hsave : ∀ txid key signature, P (.saveSignature txid key signature))
    (hupdate : ∀ txid u, u.target = .verified → P (.updateState txid u)) (txid : Txid)
    (key : XOnlyKey) (signature : Signature) : (registry.sign txid key signature).OnlyAsks P := by
  -- the transition is the same wherever it follows
  have hquorum : (registry.applyQuorum txid).OnlyAsks P := onlyAsks_observed hread hupdate
  refine (onlyAsks_recordSignature hread hsave txid key signature).bind fun result => ?_
  split
  · split
    · refine hquorum.bind fun outcome => ?_
      cases outcome <;> trivial
    · split
      · refine hquorum.bind fun outcome => ?_
        cases outcome <;> trivial
      · trivial
  · refine (onlyAsks_tally hread txid).bind fun receipt => ?_
    cases receipt with
    | error e => trivial
    | ok receipt =>
      dsimp only
      split
      · refine hquorum.bind fun outcome => ?_
        cases outcome with
        | error e => trivial
        | ok outcome =>
          dsimp only
          split <;> trivial
      · trivial
  · trivial

end

/-! ## Scans -/

variable (hupdate : ∀ txid u, u.target = .unbonded → P (.updateState txid u))
  (hdelete : ∀ m, P (.deleteMarker m))

section

include hread hupdate hdelete

/-- Handling a marker asks for writes to `unbonded` and for markers to be removed, besides
reading. -/
theorem onlyAsks_handleMarker (m : Marker) (report : ScanReport) :
    (registry.handleMarker m report).OnlyAsks P := by
  have hremove : ∀ report, (removeMarker m report).OnlyAsks P := by
    intro report
    refine ⟨hdelete m, fun reply => ?_⟩
    rcases reply with _ | _ | _ <;> trivial
  have hexpire : (registry.apply (.observed m.txid (.timelockExpired m.subState))).OnlyAsks P :=
    onlyAsks_observed hread hupdate
  refine hexpire.bind fun result => ?_
  rcases result with _ | _ | _
  · trivial
  · exact hremove _
  · exact hremove _

theorem onlyAsks_handlePage (page : List Marker) (report : ScanReport) :
    (registry.handlePage page report).OnlyAsks P := by
  induction page generalizing report with
  | nil => trivial
  | cons m rest ih => exact (onlyAsks_handleMarker hread hupdate hdelete m report).bind ih

variable (hdue : ∀ tip after limit, P (.dueMarkers tip after limit))

include hdue

/-- A scan asks for pages of due markers, and what handling them asks. The induction is on the
markers above the start of the page. -/
theorem onlyAsks_scanAfter (pageSize : Nat) (tip : Height) (after : Option Marker)
    (report : ScanReport) :
    (registry.scanAfter pageSize tip after report).OnlyAsks P := by
  induction hn : Marker.remaining after using Nat.strongRecOn generalizing after report with
  | _ n ih =>
    rw [scanAfter]
    refine Program.onlyAsks_request (hdue _ _ _) fun page => ?_
    refine (onlyAsks_handlePage hread hupdate hdelete page _).bind fun report' => ?_
    split
    · trivial
    · split
      · split
        next hlt => exact ih _ (hn ▸ Marker.remaining_lt hlt) _ _ rfl
        next => trivial
      · trivial

/-- A scan from the first marker on asks what any scan does, by `onlyAsks_scanAfter`. -/
theorem onlyAsks_scan (pageSize : Nat) (tip : Height) : (registry.scan pageSize tip).OnlyAsks P :=
  onlyAsks_scanAfter hread hupdate hdelete hdue pageSize tip none _

/-- A tick asks for a cursor to be read and advanced, besides what its scan asks. -/
theorem onlyAsks_tick (hcursor : ∀ name, P (.getCursor name))
    (hadvance : ∀ name expected height, P (.advanceCursor name expected height)) (pageSize : Nat)
    (tip : Except ChainError Height) : (registry.tick pageSize tip).OnlyAsks P := by
  cases tip with
  | error e => trivial
  | ok tip =>
    refine Program.onlyAsks_request (hcursor _) fun cursor => ?_
    refine (onlyAsks_scan hread hupdate hdelete hdue pageSize tip).bind fun result => ?_
    cases result with
    | error e => trivial
    | ok report =>
      dsimp only
      split
      · exact Program.onlyAsks_request (hadvance _ _ _) fun _ => trivial
      · trivial

end

end Registry

end StakeLedger
