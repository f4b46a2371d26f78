import StakeLedger.Proofs.Expiry.Interruption
import StakeLedger.Proofs.Params.Extension
import StakeLedger.Proofs.Store.Confined

/-!
# Delegations Are Independent

Events and signatures are about one delegation each, and their calls are confined to it
(`Registry.isConfinedTo_program`). Of calls that are made one after another, those about one
delegation are therefore answered as if the others had not been made (`Registry.serve_own`).

The main statement is `delegations_independent`: it makes no difference how the calls about
different delegations take turns.
-/

namespace StakeLedger

/-- The delegation that a call is about. Scans and ticks are about no single one. -/
def Call.delegation? : Call → Option Txid
  | .apply event => some event.txid
  | .sign txid _ _ => some txid
  | .scan _ _ | .tick _ _ => none

namespace Registry

variable {registry : Registry} {txid : Txid}

/-! ## Calls -/

/-- A new stake is confined to the delegation `stake.txid`: it saves the record, or reads it. -/
theorem isConfinedTo_create (stake : Stake) : (registry.create stake).IsConfinedTo stake.txid := by
  rw [create]
  split
  next => exact Program.isConfinedTo_done _
  next params _ =>
    split
    next => exact Program.isConfinedTo_done _
    next =>
      refine Program.isConfinedTo_request rfl fun _ outcome _ _ => ?_
      cases outcome with
      | inserted => exact Program.isConfinedTo_done _
      | alreadyExists =>
        exact Program.isConfinedTo_request rfl fun _ _ _ _ => Program.isConfinedTo_done _

/-- A transition of the record `d` is confined to the delegation `d.txid`. -/
theorem isConfinedTo_transition (d : Delegation) (o : Observation) :
    (registry.transition d o).IsConfinedTo d.txid := by
  rw [transition]
  split
  next => exact Program.isConfinedTo_done _
  next t ht =>
    split
    next => exact Program.isConfinedTo_done _
    next u hu =>
      -- the only marker that is queued is one of the delegation
      have hown : ∀ m, u.timelock = some m → m.txid = d.txid := by
        intro m hm
        rcases StateUpdate.IsPlanned.opens ⟨t, ht, hu⟩ with ⟨hnone, -, -⟩ | ⟨m', hm', htxid, -⟩
        · cases hnone.symm.trans hm
        · obtain rfl := Option.some.inj (hm'.symm.trans hm)
          exact htxid
      refine Program.isConfinedTo_request ⟨rfl, hown⟩ fun _ outcome _ _ => ?_
      cases outcome with
      | applied => exact Program.isConfinedTo_done _
      | preconditionFailed =>
        exact Program.isConfinedTo_request rfl fun _ _ _ _ => Program.isConfinedTo_done _

/-- An event is confined to the delegation `event.txid`. -/
theorem isConfinedTo_apply (event : Event) : (registry.apply event).IsConfinedTo event.txid := by
  cases event with
  | newStake stake => exact isConfinedTo_create stake
  | observed txid o =>
    refine Program.isConfinedTo_request rfl fun s found hs hfound => ?_
    cases found with
    | none => exact Program.isConfinedTo_done _
    | some d =>
      -- the record that is found stands under its own identifier
      obtain rfl : d.txid = txid := hs txid d (Except.ok.inj hfound)
      exact isConfinedTo_transition d o

/-- Recording a signature is confined to the delegation that is signed. -/
theorem isConfinedTo_recordSignature (key : XOnlyKey) (signature : Signature) :
    (registry.recordSignature txid key signature).IsConfinedTo txid := by
  refine Program.isConfinedTo_request rfl fun _ found _ _ => ?_
  cases found with
  | none => exact Program.isConfinedTo_done _
  | some d =>
    dsimp only
    split
    next => exact Program.isConfinedTo_done _
    next =>
      split
      · refine Program.isConfinedTo_request rfl fun _ outcome _ _ => ?_
        cases outcome <;> exact Program.isConfinedTo_done _
      · exact Program.isConfinedTo_done _

/-- Counting signatures is confined to the delegation whose record is read. -/
theorem isConfinedTo_tally : (registry.tally txid).IsConfinedTo txid := by
  refine Program.isConfinedTo_request rfl fun _ found _ _ => ?_
  cases found with
  | none => exact Program.isConfinedTo_done _
  | some d =>
    dsimp only
    split <;> exact Program.isConfinedTo_done _

/-- The call `sign` is confined to the delegation that is signed, including its quorum
transition. -/
theorem isConfinedTo_sign (key : XOnlyKey) (signature : Signature) :
    (registry.sign txid key signature).IsConfinedTo txid := by
  -- the transition is of the delegation that is signed
  have hquorum : (registry.applyQuorum txid).IsConfinedTo txid :=
    isConfinedTo_apply (.observed txid .covenantQuorumReached)
  refine (isConfinedTo_recordSignature key signature).bind fun result => ?_
  split
  · split
    · refine hquorum.bind fun outcome => ?_
      cases outcome <;> exact Program.isConfinedTo_done _
    · split
      · refine hquorum.bind fun outcome => ?_
        cases outcome <;> exact Program.isConfinedTo_done _
      · exact Program.isConfinedTo_done _
  · refine isConfinedTo_tally.bind fun receipt => ?_
    cases receipt with
    | error e => exact Program.isConfinedTo_done _
    | ok receipt =>
      dsimp only
      split
      · refine hquorum.bind fun outcome => ?_
        cases outcome with
        | error e => exact Program.isConfinedTo_done _
        | ok outcome =>
          dsimp only
          split <;> exact Program.isConfinedTo_done _
      · exact Program.isConfinedTo_done _
  · exact Program.isConfinedTo_done _

/-- A call about the delegation `txid` is confined to it. -/
theorem isConfinedTo_program {call : Call} (h : call.delegation? = some txid) :
    (registry.program call).IsConfinedTo txid := by
  cases call with
  | apply event =>
    obtain rfl := Option.some.inj h
    exact (isConfinedTo_apply event).bind fun _ => Program.isConfinedTo_done _
  | sign txid' key signature =>
    obtain rfl := Option.some.inj h
    exact (isConfinedTo_sign key signature).bind fun _ => Program.isConfinedTo_done _
  | scan _ _ => cases h
  | tick _ _ => cases h

/-! ## Calls One after Another -/

/-- The `calls` that are made one after another, each with its response. -/
def dialogue (registry : Registry) (calls : List Call) (s : MemoryStore) : List (Call × Response) :=
  calls.zip (registry.serve (calls.map .call) s).1

/-- The store after `calls` that are made one after another. -/
def afterCalls (registry : Registry) (calls : List Call) (s : MemoryStore) : MemoryStore :=
  (registry.serve (calls.map .call) s).2

theorem dialogue_cons (call : Call) (calls : List Call) (s : MemoryStore) :
    registry.dialogue (call :: calls) s =
      (call, ((registry.program call).run MemoryStore.backend s).1) ::
        registry.dialogue calls ((registry.program call).run MemoryStore.backend s).2 := rfl

/-- The store after some calls is that after the rest of them, from the store that the first one
leaves. -/
theorem afterCalls_cons (call : Call) (calls : List Call) (s : MemoryStore) :
    registry.afterCalls (call :: calls) s =
      registry.afterCalls calls ((registry.program call).run MemoryStore.backend s).2 := rfl

/-- Calls that are about some delegation leave the cursors as they are. -/
theorem cursors_afterCalls {calls : List Call} (hcalls : ∀ call ∈ calls, call.delegation?.isSome)
    {s : MemoryStore} (hs : s.IsKeyed) : (registry.afterCalls calls s).cursors = s.cursors := by
  induction calls generalizing s with
  | nil => rfl
  | cons call calls ih =>
    obtain ⟨hcall, hrest⟩ := List.forall_mem_cons.1 hcalls
    obtain ⟨txid, htxid⟩ := Option.isSome_iff_exists.1 hcall
    obtain ⟨-, -, honly⟩ := registry.isConfinedTo_program htxid s s hs hs (.refl txid s)
    rw [afterCalls_cons, ih hrest (hs.run _), honly.cursors]

/-- Of `calls` that are made one after another, those about the delegation `txid` are answered, and
leave its record and its markers, as if only they had been made. The induction is on the calls: one
about the delegation is made in both runs, and any other one leaves the delegation alone. -/
theorem serve_own {calls : List Call} (hcalls : ∀ call ∈ calls, call.delegation?.isSome)
    (txid : Txid) {s t : MemoryStore} (hs : s.IsKeyed) (ht : t.IsKeyed) (h : s.AgreesOn txid t) :
    (registry.dialogue calls s).filter (·.1.delegation? = some txid) =
      registry.dialogue (calls.filter (·.delegation? = some txid)) t ∧
    (registry.afterCalls calls s).AgreesOn txid
      (registry.afterCalls (calls.filter (·.delegation? = some txid)) t) := by
  induction calls generalizing s t with
  | nil => exact ⟨rfl, h⟩
  | cons call calls ih =>
    obtain ⟨hcall, hrest⟩ := List.forall_mem_cons.1 hcalls
    obtain ⟨txid', htxid'⟩ := Option.isSome_iff_exists.1 hcall
    have hconfined := registry.isConfinedTo_program htxid'
    rw [dialogue_cons, afterCalls_cons]
    by_cases hown : txid' = txid
    · subst hown
      obtain ⟨hresult, hagree, -⟩ := hconfined s t hs ht h
      obtain ⟨hdialogue, hafter⟩ := ih hrest (hs.run _) (ht.run _) hagree
      simp only [List.filter_cons, htxid', decide_true, if_true, dialogue_cons,
        afterCalls_cons, hresult, hdialogue]
      exact ⟨trivial, hafter⟩
    · obtain ⟨-, -, honly⟩ := hconfined s s hs hs (.refl txid' s)
      have hagree := (honly.others txid fun heq => hown heq.symm).symm.trans h
      obtain ⟨hdialogue, hafter⟩ := ih hrest (hs.run _) ht hagree
      have hskip : ¬call.delegation? = some txid := by
        rw [htxid', Option.some.injEq]
        exact hown
      simp only [List.filter_cons, hskip, decide_false, Bool.false_eq_true, if_false]
      exact ⟨hdialogue, hafter⟩

end Registry

/-- On any store that `requests` have led to, let events and signatures come in two orders, `calls`
and `calls'`, in which the calls about each delegation are the same and follow one another in the
same way. In both orders every call is answered alike, and delegations, markers and cursors come out
the same. -/
theorem delegations_independent (registry : Registry) (requests : List Request)
    {calls calls' : List Call} (hcalls : ∀ call ∈ calls, call.delegation?.isSome)
    (hcalls' : ∀ call ∈ calls', call.delegation?.isSome)
    (hsame : ∀ txid, calls.filter (·.delegation? = some txid) =
      calls'.filter (·.delegation? = some txid)) :
    registry.afterCalls calls (.ofRequests requests) =
      registry.afterCalls calls' (.ofRequests requests) ∧
    ∀ txid, (registry.dialogue calls (.ofRequests requests)).filter (·.1.delegation? = some txid) =
      (registry.dialogue calls' (.ofRequests requests)).filter (·.1.delegation? = some txid) := by
  have hs : (MemoryStore.ofRequests requests).IsKeyed := MemoryStore.isKeyed_replay requests
  generalize MemoryStore.ofRequests requests = s at *
  -- both orders are compared with the calls about one delegation alone
  have hfirst := fun txid => registry.serve_own hcalls txid hs hs (.refl txid s)
  have hsecond := fun txid => registry.serve_own hcalls' txid hs hs (.refl txid s)
  simp only [hsame] at hfirst
  constructor
  · refine MemoryStore.eq_of_agreesOn (fun txid => (hsecond txid).2.trans (hfirst txid).2.symm) ?_
    rw [Registry.cursors_afterCalls hcalls hs, Registry.cursors_afterCalls hcalls' hs]
  · exact fun txid => (hfirst txid).1.trans (hsecond txid).1.symm

/-! ## Two Delegations that Take Turns -/

/-- A second stake, on the same terms as `loneStake`. -/
def secondStake : Stake := { loneStake with txid := ⟨1⟩ }

/-- Two stakes are created; the first one is signed and included, and the second one is signed
twice. -/
def oneByOne : List Call :=
  [.apply (.newStake loneStake), .sign ⟨0⟩ loneKey ⟨1⟩,
    .apply (.observed ⟨0⟩ (.inclusionProofConfirmed 7 7)),
    .apply (.newStake secondStake), .sign ⟨1⟩ loneKey ⟨1⟩, .sign ⟨1⟩ loneKey ⟨2⟩]

/-- The same calls as in `oneByOne`, with the two delegations taking turns. -/
def takingTurns : List Call :=
  [.apply (.newStake secondStake), .apply (.newStake loneStake), .sign ⟨1⟩ loneKey ⟨1⟩,
    .sign ⟨0⟩ loneKey ⟨1⟩, .sign ⟨1⟩ loneKey ⟨2⟩,
      .apply (.observed ⟨0⟩ (.inclusionProofConfirmed 7 7))]

/-- On a store that holds a marker of the second delegation already, `oneByOne` and `takingTurns`
end with the same two delegations and markers, and the inclusion is applied to the verified
delegation in both. -/
theorem takingTurns_same :
    loneRegistry.afterCalls oneByOne (.ofRequests [.saveMarker ⟨3, ⟨1⟩, .timelock⟩]) =
      loneRegistry.afterCalls takingTurns (.ofRequests [.saveMarker ⟨3, ⟨1⟩, .timelock⟩]) ∧
    ((loneRegistry.dialogue takingTurns (.ofRequests [.saveMarker ⟨3, ⟨1⟩, .timelock⟩])).filter
      (·.1.delegation? = some ⟨0⟩)).getLast? =
        some (.apply (.observed ⟨0⟩ (.inclusionProofConfirmed 7 7)), .applied (.ok
          (.applied ⟨0⟩ (some .verified) .active none (some ⟨17, ⟨0⟩, .timelock⟩)))) := by
  have hsame : ∀ txid, oneByOne.filter (·.delegation? = some txid) =
      takingTurns.filter (·.delegation? = some txid) := by
    intro txid
    by_cases hfirst : txid = ⟨0⟩
    · subst hfirst
      rfl
    · by_cases hsecond : txid = ⟨1⟩
      · subst hsecond
        rfl
      · -- neither order has a call about any third delegation
        have hnone : ∀ calls ∈ [oneByOne, takingTurns], calls.filter (·.delegation? = some txid) =
            [] := by
          have habout : ∀ calls ∈ [oneByOne, takingTurns], ∀ call ∈ calls,
              call.delegation? = some ⟨0⟩ ∨ call.delegation? = some ⟨1⟩ := by decide
          intro calls hcalls
          refine List.filter_eq_nil_iff.2 fun call hcall => ?_
          obtain hcall | hcall := habout calls hcalls call hcall
          · simpa [hcall] using fun h => hfirst h.symm
          · simpa [hcall] using fun h => hsecond h.symm
        rw [hnone oneByOne (by simp), hnone takingTurns (by simp)]
  have hcalls : ∀ call ∈ oneByOne, call.delegation?.isSome := by decide
  have hcalls' : ∀ call ∈ takingTurns, call.delegation?.isSome := by decide
  obtain ⟨hstore, hanswers⟩ :=
    delegations_independent loneRegistry [.saveMarker ⟨3, ⟨1⟩, .timelock⟩] hcalls hcalls' hsame
  exact ⟨hstore, by rw [← hanswers]; rfl⟩

end StakeLedger
