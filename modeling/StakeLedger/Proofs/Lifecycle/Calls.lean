import StakeLedger.Expiry.Tick
import StakeLedger.Lifecycle.Quorum
import StakeLedger.Proofs.Interleaving.Discipline
import StakeLedger.Proofs.Lifecycle.Coherent

/-!
# Calls over the Memory Store

Events are applied, signatures are stored and markers are worked off by calls that run side by side
over one memory store. All of them keep to one discipline (`Registry.lifecycle`): a call creates the
delegations it was given, moves a delegation only as planned from what it has read of it, and
removes a marker only once nothing waits for it.

What an exchange does to the store is one of five things (`Registry.Effect`), from which it follows
that the discipline keeps records and queue coherent. `Registry.keeps_program` says that every call
keeps to it.
-/

namespace StakeLedger

/-- What can be asked of the ledger: an event, a covenant signature, or a scan. -/
inductive Call where
  /-- Apply an event, by `Registry.apply`. -/
  | apply (event : Event)
  /-- Store a covenant signature of `key` for the delegation `txid`. -/
  | sign (txid : Txid) (key : XOnlyKey) (signature : Signature)
  /-- Work off the markers that are due at `tip`, in pages of `pageSize`. -/
  | scan (pageSize : Nat) (tip : Height)
  /-- Work off the markers that are due at `tip`, the end of the chain, which may be unknown. -/
  | tick (pageSize : Nat) (tip : Except ChainError Height)

/-- The result of a call, by its kind. -/
inductive Response where
  | applied (result : Except TrackingError Outcome)
  | signed (result : Except TrackingError SigningOutcome)
  | scanned (result : Except TrackingError ScanReport)

/-- The call asks for the observation `o` of the delegation `txid` to be applied. -/
def Call.Asks (txid : Txid) (o : Observation) : Call → Prop
  | .apply event => event = .observed txid o
  | .sign txid' _ _ => txid' = txid ∧ o = .covenantQuorumReached
  | .scan _ _ | .tick _ _ => ∃ path, o = .timelockExpired path

/-- What is asked for by neither a signature nor a scan is asked for as an event. -/
theorem Call.eq_apply_of_asks {call : Call} {txid : Txid} {o : Observation}
    (hasks : call.Asks txid o) (hquorum : o ≠ .covenantQuorumReached)
    (hexpiry : ∀ path, o ≠ .timelockExpired path) :
    call = .apply (.observed txid o) := by
  cases call with
  | apply event => exact congrArg _ hasks
  | sign _ _ _ => exact absurd hasks.2 hquorum
  | scan _ _ =>
    obtain ⟨path, hpath⟩ := hasks
    exact absurd hpath (hexpiry path)
  | tick _ _ =>
    obtain ⟨path, hpath⟩ := hasks
    exact absurd hpath (hexpiry path)

/-- The state that an exchange writes to a delegation, if it writes one: that of a new record, or
the target of an update. -/
def Exchange.written? : Exchange → Option (Txid × State)
  | ⟨.saveDelegation d, .ok .inserted⟩ => some (d.txid, d.state)
  | ⟨.updateState txid u, .ok .applied⟩ => some (txid, u.target)
  | _ => none

namespace Registry

/-- The program of a call, with its result as a `Response`. -/
def program (registry : Registry) : Call → Program Response
  | .apply event => (registry.apply event).bind fun result => .done (.applied result)
  | .sign txid key signature =>
    (registry.sign txid key signature).bind fun result => .done (.signed result)
  | .scan pageSize tip => (registry.scan pageSize tip).bind fun result => .done (.scanned result)
  | .tick pageSize tip => (registry.tick pageSize tip).bind fun result => .done (.scanned result)

/-- The calls of the ledger over the memory store. -/
def workload (registry : Registry) : Workload Call Response MemoryStore where
  backend := MemoryStore.backend
  program := registry.program

/-! ## The Discipline -/

/-- What a `call` may ask of the memory store: the new record it was given, a write planned from a
record that it has `seen`, and the removal of a marker that is settled. -/
def Permits (registry : Registry) (call : Call) : Request → MemoryStore → Prop
  | .saveDelegation d, _ => ∃ stake, call = .apply (.newStake stake) ∧ d = .ofStake stake
  | .updateState txid u, s => ∃ seen d o, u.IsPlanned registry.checkpoint seen o ∧
      call.Asks txid o ∧ s.delegation? txid = some d ∧ seen.Advances d
  | .deleteMarker m, s => s.IsSettled m
  | .saveMarker _, _ => False
  | .getDelegation _, _ | .saveSignature _ _ _, _ | .delegationsByStates _, _
  | .delegationsByProvider _, _ | .dueMarkers _ _ _, _ | .getCursor _, _
  | .advanceCursor _ _ _, _ => True

/-- What an exchange of a `call` does to the memory store `s`. -/
inductive Effect (registry : Registry) (call : Call) (s : MemoryStore) :
    Exchange → MemoryStore → Prop where
  /-- Records and queue stay as they are; cursors may be advanced. -/
  | unchanged {e : Exchange} (cursors : SortedMap String Cursor) (hwritten : e.written? = none) :
    Effect registry call s e { s with cursors }
  /-- A delegation is created from the `stake` of the call. -/
  | created {stake : Stake} (hcall : call = .apply (.newStake stake))
    (hnone : s.delegation? stake.txid = none) :
    Effect registry call s ⟨.saveDelegation (.ofStake stake), .ok .inserted⟩
      (s.written stake.txid (.ofStake stake) none)
  /-- The delegation `d` is moved as planned for the observation `o`. -/
  | moved {txid : Txid} {d : Delegation} {o : Observation} {u : StateUpdate}
    (hd : s.delegation? txid = some d) (hasks : call.Asks txid o)
    (hu : u.IsPlanned registry.checkpoint d o) :
    Effect registry call s ⟨.updateState txid u, .ok .applied⟩
      (s.written txid (u.applyTo d) u.timelock)
  /-- A signature is added, as the `total`-th. -/
  | signed {txid : Txid} {d : Delegation} {key : XOnlyKey} {signature : Signature} {total : Nat}
    (hd : s.delegation? txid = some d) :
    Effect registry call s ⟨.saveSignature txid key signature, .ok (.inserted total)⟩
      (s.written txid { d with signatures := d.signatures.insert key signature } none)
  /-- The marker `m` is removed, for which no delegation waits any more. -/
  | removed {m : Marker} (hm : s.IsSettled m) :
    Effect registry call s ⟨.deleteMarker m, .ok .deleted⟩ { s with queue := s.queue.erase m }

variable {registry : Registry} {call : Call} {s s' : MemoryStore}

/-- What is permitted has one of the five effects. -/
theorem effect_answer {r : Request} (h : registry.Permits call r s) :
    registry.Effect call s ⟨r, (MemoryStore.backend.answer r s).1⟩
      (MemoryStore.backend.answer r s).2 := by
  cases r with
  | saveDelegation d =>
    obtain ⟨stake, hcall, rfl⟩ := h
    change registry.Effect call s ⟨.saveDelegation (.ofStake stake), .ok (s.saveDelegation _).1⟩
      (s.saveDelegation _).2
    rcases s.saveDelegation_cases (.ofStake stake) with ⟨d', -, heq⟩ | ⟨hnone, heq⟩
    · rw [heq]
      exact .unchanged s.cursors rfl
    · rw [heq]
      exact .created hcall hnone
  | updateState txid u =>
    obtain ⟨seen, d, o, hu, hasks, hd, hadv⟩ := h
    change registry.Effect call s ⟨.updateState txid u, .ok (s.updateState txid u).1⟩
      (s.updateState txid u).2
    rcases s.updateState_cases txid u with ⟨-, heq⟩ | ⟨d', hd', hstate, heq⟩
    · rw [heq]
      exact .unchanged s.cursors rfl
    · rw [heq]
      obtain rfl := Option.some.inj (hd.symm.trans hd')
      -- the write goes through only if the record is still what it was planned from
      rw [hu.move.1, List.mem_singleton] at hstate
      exact .moved hd hasks (hu.congr hadv hstate)
  | saveSignature txid key signature =>
    change registry.Effect call s
      ⟨.saveSignature txid key signature, (s.saveSignature txid key signature).1⟩
      (s.saveSignature txid key signature).2
    rcases s.saveSignature_cases txid key signature with ⟨-, heq⟩ | ⟨d, hd, ⟨-, heq⟩ | ⟨-, heq⟩⟩
    · rw [heq]
      exact .unchanged s.cursors rfl
    · rw [heq]
      exact .unchanged s.cursors rfl
    · rw [heq]
      exact .signed hd
  | deleteMarker m =>
    change registry.Effect call s ⟨.deleteMarker m, .ok (s.deleteMarker m).1⟩ (s.deleteMarker m).2
    rcases s.deleteMarker_cases m with ⟨-, heq⟩ | ⟨-, heq⟩
    · rw [heq]
      exact .unchanged s.cursors rfl
    · rw [heq]
      exact .removed h
  | saveMarker m => exact h.elim
  | advanceCursor name expected height =>
    change registry.Effect call s
      ⟨.advanceCursor name expected height, .ok (s.advanceCursor name expected height).1⟩
      (s.advanceCursor name expected height).2
    rw [MemoryStore.advanceCursor]
    dsimp only
    split
    · exact .unchanged _ rfl
    · exact .unchanged s.cursors rfl
  | getDelegation _ => exact .unchanged s.cursors rfl
  | delegationsByStates _ => exact .unchanged s.cursors rfl
  | delegationsByProvider _ => exact .unchanged s.cursors rfl
  | dueMarkers _ _ _ => exact .unchanged s.cursors rfl
  | getCursor _ => exact .unchanged s.cursors rfl

/-- Every effect keeps records and queue coherent, so that `Coherent` holds along every run. -/
theorem Effect.coherent {e : Exchange} (h : registry.Effect call s e s') (hs : s.Coherent) :
    s'.Coherent := by
  cases h with
  | unchanged cursors _ => exact ⟨hs.keyed, hs.queued, hs.fits, hs.unique⟩
  | created _ hnone => exact hs.create hnone
  | moved hd _ hu => exact hs.move hd hu
  | signed hd => exact hs.sign hd _
  | removed hm => exact hs.erase hm

/-- Every effect develops the store, as `MemoryStore.Later` has it. -/
theorem Effect.later {e : Exchange} (h : registry.Effect call s e s') : s.Later s' := by
  cases h with
  | unchanged cursors _ => exact MemoryStore.Later.refl s
  | created _ hnone =>
    refine MemoryStore.later_written fun old hold => ?_
    exact absurd (hold.symm.trans hnone) nofun
  | moved hd _ hu =>
    refine MemoryStore.later_written fun old hold => ?_
    obtain rfl := Option.some.inj (hold.symm.trans hd)
    exact StateUpdate.advances_applyTo hu.rank_lt
  | signed hd =>
    refine MemoryStore.later_written fun old hold => ?_
    obtain rfl := Option.some.inj (hold.symm.trans hd)
    exact Delegation.advances_signatures _ _
  | removed _ => exact MemoryStore.later_queue s _

/-- The discipline of the ledger: what its calls ask of the memory store, by `Permits`, and what
they can rely on, by `MemoryStore.Coherent` and `MemoryStore.Later`. -/
def lifecycle (registry : Registry) : Discipline Call MemoryStore.backend where
  Invariant := MemoryStore.Coherent
  Later := MemoryStore.Later
  Permits := registry.Permits
  later_refl := MemoryStore.Later.refl
  later_trans := MemoryStore.Later.trans
  invariant_answer hs h := (effect_answer h).coherent hs
  later_answer _ h := (effect_answer h).later

end Registry

end StakeLedger
