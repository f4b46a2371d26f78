import StakeLedger.Proofs.Lifecycle.Independence
import StakeLedger.Proofs.Quorum.Transition

/-!
# What Events and Signatures Leave Behind

An event that is applied while no other call runs fails or is rejected and leaves everything as it
was, creates its delegation, or moves it by a planned write (`Registry.concludes_apply`). A
signature that is not accepted leaves everything as it was, too, although its quorum transition may
have been tried (`Registry.run_sign_failed`).

The main statement is `effects_disclosed`: what an answer says is all that has changed.
-/

namespace StakeLedger

/-! ## Effects of an Event -/

namespace MemoryStore

/-- The delegation `txid` has moved from `origin` to `target`, and the marker `opened` may have been
queued with the move. -/
structure Moves (txid : Txid) (origin target : State) (subState : Option SubState)
    (opened : Option Marker) (s s' : MemoryStore) : Prop where
  /-- The record has left its `origin` for the `target`. Its stake and its signatures are as they
  were. -/
  record : ∃ d d', s.delegation? txid = some d ∧ s'.delegation? txid = some d' ∧
    d.state = origin ∧ d'.state = target ∧ d'.subState = subState ∧
    d'.stake = d.stake ∧ d'.signatures = d.signatures
  /-- The records other than that of `txid` are as they were. -/
  others : ∀ txid', txid' ≠ txid → s'.delegation? txid' = s.delegation? txid'
  /-- The marker `opened` is queued, if there is one, and none was removed. -/
  queue : ∀ m, m ∈ s'.queue ↔ m ∈ s.queue ∨ opened = some m
  /-- The marker `opened` belongs to the delegation `txid`. -/
  owned : ∀ m, opened = some m → m.txid = txid
  cursors : s'.cursors = s.cursors

/-- What the answer to `event` says has happened to the store `s`, which has become `s'`. -/
def Discloses (event : Event) (s s' : MemoryStore) : Except TrackingError Outcome → Prop
  | .error _ | .ok (.rejected _ _ _) => s' = s
  | .ok (.applied txid none target subState opened) =>
    ∃ stake, event = .newStake stake ∧ stake.txid = txid ∧ s.delegation? txid = none ∧
      s' = s.written txid (.ofStake stake) none ∧ target = .pending ∧ subState = none ∧
        opened = none
  | .ok (.applied txid (some origin) target subState opened) =>
    event.txid = txid ∧ s.Moves txid origin target subState opened s'

end MemoryStore

namespace Registry

variable {registry : Registry} {s : MemoryStore} {txid : Txid} {key : XOnlyKey}
  {signature : Signature} {e : TrackingError}

/-- What an event comes to while no other call runs: its answer, and the store after it. -/
inductive Concludes (registry : Registry) (s : MemoryStore) :
    Event → Except TrackingError Outcome → MemoryStore → Prop
  /-- The event fails by `e`. -/
  | failed (event : Event) (e : TrackingError) : Concludes registry s event (.error e) s
  /-- The event is rejected for the state `current`. -/
  | rejected (event : Event) (txid : Txid) (attempted : Option TransitionKind)
    (current : Option State) :
    Concludes registry s event (.ok (.rejected txid attempted current)) s
  /-- The delegation of a new `stake` is created. -/
  | created (stake : Stake) (hnone : s.delegation? stake.txid = none) :
    Concludes registry s (.newStake stake) (.ok (.applied stake.txid none .pending none none))
      (s.written stake.txid (.ofStake stake) none)
  /-- The delegation `d` is moved by the plan `u`. -/
  | moved {d : Delegation} {o : Observation} {u : StateUpdate} (hd : s.delegation? d.txid = some d)
    (hu : u.IsPlanned registry.checkpoint d o) :
    Concludes registry s (.observed d.txid o)
      (.ok (.applied d.txid (some d.state) u.target (u.subState.or d.subState) u.timelock))
      (s.written d.txid (u.applyTo d) u.timelock)

/-- A new stake `Concludes`: it is refused, or created, or rejected for the record that is there. -/
theorem concludes_create (stake : Stake) :
    registry.Concludes s (.newStake stake) ((registry.create stake).run MemoryStore.backend s).1
      ((registry.create stake).run MemoryStore.backend s).2 := by
  by_cases hadmits : registry.Admits stake
  · rw [run_create hadmits]
    split
    next hnone => exact .created stake hnone
    next => exact .rejected ..
  · -- a stake that is not admitted is refused before the store is asked
    rw [create]
    split
    next => exact .failed ..
    next params hparams =>
      split
      next => exact .failed ..
      next hterms => exact absurd ⟨params, hparams, hterms⟩ hadmits

/-- An observation of the stored record `d` `Concludes`: it is refused, or moves `d` as planned. -/
theorem concludes_transition {d : Delegation} (hd : s.delegation? d.txid = some d)
    (o : Observation) :
    registry.Concludes s (.observed d.txid o)
      ((registry.transition d o).run MemoryStore.backend s).1
      ((registry.transition d o).run MemoryStore.backend s).2 := by
  -- the cases are those of the decision: the state first, and then the plan
  cases ht : o.kind.fromState d.state with
  | error refusal =>
    rw [run_transition_refused (TransitionKind.fromState_eq_error ht)]
    exact .rejected ..
  | ok t =>
    cases hplan : plannedUpdate registry.checkpoint d t o with
    | error e =>
      simp only [transition, ht, hplan]
      exact .failed ..
    | ok u =>
      have hu : u.IsPlanned registry.checkpoint d o := ⟨t, ht, hplan⟩
      rw [run_transition_planned hd hu, ← hu.move.2.1, ← hu.subState]
      exact .moved hd hu

/-- Every event `Concludes` on a store whose records are under their own keys. -/
theorem concludes_apply (hs : s.IsKeyed) (event : Event) :
    registry.Concludes s event ((registry.apply event).run MemoryStore.backend s).1
      ((registry.apply event).run MemoryStore.backend s).2 := by
  cases event with
  | newStake stake => exact concludes_create stake
  | observed txid o =>
    cases hd : s.delegation? txid with
    | none =>
      have hread : MemoryStore.backend.answer (.getDelegation txid) s = (.ok none, s) := by
        show (Except.ok (s.delegation? txid), s) = _
        rw [hd]
      rw [apply, Program.run_request hread]
      exact .failed ..
    | some d =>
      obtain rfl := hs txid d hd
      rw [run_observed hd]
      exact concludes_transition hd o

/-- The answer to an event says what has happened to the store, however it `Concludes`. -/
theorem Concludes.discloses {event : Event} {answer : Except TrackingError Outcome}
    {s' : MemoryStore} (h : registry.Concludes s event answer s') :
    s.Discloses event s' answer := by
  cases h with
  | failed | rejected => rfl
  | created stake hnone => exact ⟨stake, rfl, rfl, hnone, rfl, rfl, rfl, rfl⟩
  | @moved d o u hd hu =>
    refine ⟨rfl, ⟨d, u.applyTo d, hd, s.delegation?_written_self .., rfl, rfl, rfl, rfl, rfl⟩, ?_,
      ?_, ?_, rfl⟩
    · exact fun txid' hne => MemoryStore.delegation?_written_of_ne s _ _ hne
    · intro m
      rw [MemoryStore.mem_queue_written, or_comm]
    · intro m hm
      rcases hu.opens with ⟨hnone, -⟩ | ⟨m', hm', htxid, -⟩
      · cases hnone.symm.trans hm
      · obtain rfl := Option.some.inj (hm'.symm.trans hm)
        exact htxid

/-! ## Signatures that Are Not Accepted -/

/-- A signature that `recordSignature` refuses is not followed up, unless it is refused by
`duplicateSignature`. -/
theorem run_sign_refused
    (h : (registry.recordSignature txid key signature).run MemoryStore.backend s = (.error e, s))
    (hnew : ∀ signed signer, e ≠ .duplicateSignature signed signer) :
    (registry.sign txid key signature).run MemoryStore.backend s = (.error e, s) := by
  rw [sign, Program.run_bind, h]
  cases e with
  | duplicateSignature signed signer => exact absurd rfl (hnew signed signer)
  | _ => rfl

/-- Whatever the call `sign` fails with, nothing has changed. -/
theorem run_sign_failed (hs : s.IsKeyed)
    (hfail : ((registry.sign txid key signature).run MemoryStore.backend s).1 = .error e) :
    ((registry.sign txid key signature).run MemoryStore.backend s).2 = s := by
  cases hd : s.delegation? txid with
  | none =>
    have hread : MemoryStore.backend.answer (.getDelegation txid) s = (.ok none, s) := by
      show (Except.ok (s.delegation? txid), s) = _
      rw [hd]
    -- nobody signs for a delegation that is not there
    have hrecord : (registry.recordSignature txid key signature).run MemoryStore.backend s =
        (.error (.delegationNotFound txid), s) := by
      rw [recordSignature, Program.run_request hread]
      rfl
    rw [run_sign_refused hrecord (by simp)]
  | some d =>
    have htxid : d.txid = txid := hs txid d hd
    have hread : MemoryStore.backend.answer (.getDelegation txid) s = (.ok (some d), s) := by
      show (Except.ok (s.delegation? txid), s) = _
      rw [hd]
    cases hparams : registry.staking? d.stake.paramsVersion with
    | none =>
      have hrecord : (registry.recordSignature txid key signature).run MemoryStore.backend s =
          (.error (.unknownParamsVersion d.txid d.stake.paramsVersion), s) := by
        rw [recordSignature, Program.run_request hread]
        simp [hparams, Program.fail, Program.run]
      rw [run_sign_refused hrecord (by simp)]
    | some params =>
      by_cases hmember : key ∈ params.committee
      · by_cases hkey : d.signatures.contains key
        · -- a repetition fails only if it moved nothing
          rw [run_sign_repeated hd htxid hparams hmember hkey] at hfail ⊢
          split at hfail
          next => cases hfail
          next h => rw [if_neg h]
        · -- a new signature of a member is accepted
          rw [run_sign_new hd htxid hparams hmember hkey rfl] at hfail
          split at hfail <;> cases hfail
      · have hrecord : (registry.recordSignature txid key signature).run MemoryStore.backend s =
            (.error (.unauthorizedSigner txid key), s) := by
          rw [recordSignature, Program.run_request hread]
          simp [hparams, StakingParams.isMember, hmember, Program.fail, Program.run]
        rw [run_sign_refused hrecord (by simp)]

end Registry

/-- On any store that `requests` have led to, and while no other call runs, an event that fails or
is rejected leaves everything as it was; one that is applied creates its delegation or moves it and
queues the marker that it reports, and nothing else has changed. A signature that fails leaves
everything as it was, and one that is accepted changes nothing beyond its delegation. -/
theorem effects_disclosed (registry : Registry) (requests : List Request) :
    (∀ event, (MemoryStore.ofRequests requests).Discloses event
      ((registry.apply event).run MemoryStore.backend (.ofRequests requests)).2
      ((registry.apply event).run MemoryStore.backend (.ofRequests requests)).1) ∧
    ∀ txid key signature,
      match (registry.sign txid key signature).run MemoryStore.backend (.ofRequests requests) with
      | (.error _, s') => s' = .ofRequests requests
      | (.ok _, s') => (MemoryStore.ofRequests requests).DiffersOnlyAt txid s' := by
  have hs : (MemoryStore.ofRequests requests).IsKeyed := MemoryStore.isKeyed_replay requests
  generalize MemoryStore.ofRequests requests = s at *
  refine ⟨fun event => (registry.concludes_apply hs event).discloses, fun txid key signature => ?_⟩
  split
  next e s' hrun =>
    have hfail : ((registry.sign txid key signature).run MemoryStore.backend s).1 = .error e := by
      rw [hrun]
    have hstore := registry.run_sign_failed hs hfail
    rwa [hrun] at hstore
  -- what `sign` does is confined to its delegation, whatever comes of it
  next outcome s' hrun =>
    obtain ⟨-, -, honly⟩ := registry.isConfinedTo_sign key signature s s hs hs (.refl txid s)
    rwa [hrun] at honly

end StakeLedger
