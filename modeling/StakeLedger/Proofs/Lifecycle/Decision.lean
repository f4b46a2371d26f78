import StakeLedger.Proofs.Interleaving.Requests
import StakeLedger.Proofs.Lifecycle.Calls

/-!
# How Events Are Decided

The programs of events are gone through request by request, while other calls run. What an attempt
to move a delegation comes to does not depend on the discipline that the others keep to
(`Registry.keeps_attempt`).

An observation is decided from the record that was read, and from what the write then finds
(`Registry.Decided`); a new stake is decided from its terms and from what is stored under its
identifier (`Registry.Received`). Either way an event that is applied writes a state with its last
request, and any other event writes none.

What was decided stays true, because records only advance.
-/

namespace StakeLedger

/-- Only `saveDelegation` and `updateState` write a state. -/
theorem Exchange.written?_of_method {e : Exchange} (hsave : e.request.method ≠ .saveDelegation)
    (hupdate : e.request.method ≠ .updateState) : e.written? = none := by
  obtain ⟨r, reply⟩ := e
  cases r <;> first | rfl | exact absurd rfl hsave | exact absurd rfl hupdate

/-- A request that failed by `e` has written no state. -/
theorem Exchange.written?_error (r : Request) (e : StoreError) : written? ⟨r, .error e⟩ = none := by
  cases r <;> rfl

namespace Registry

variable {registry : Registry} {call : Call}

/-! ## Attempts -/

/-- What an attempt to move a delegation that was read as `seen` comes to, whatever it can rely on:
it is refused for the state that was read, it fails, or its update is served and either moves the
delegation or comes too late. The discipline `D` is any one that permits its requests. -/
theorem keeps_attempt {κ : Type} {D : Discipline κ MemoryStore.backend} {call : κ}
    {post : List Exchange → Except TrackingError Outcome → MemoryStore → Prop} {o : Observation}
    {seen : Delegation} {log : List Exchange} {s : MemoryStore}
    (hfailed : ∀ e rest s', (∀ x ∈ rest, x.written? = none) → post (log ++ rest) (.error e) s')
    (hrefused : seen.state ∉ o.kind.qualified → ∀ s', D.Later s s' →
      post log (.ok (.rejected seen.txid (some o.kind) (some seen.state))) s')
    (hupdate : ∀ u s', u.IsPlanned registry.checkpoint seen o → D.Later s s' →
      D.Permits call (.updateState seen.txid u) s')
    (hread : ∀ s', D.Permits call (.getDelegation seen.txid) s')
    (hmoved : ∀ u d s' s'', u.IsPlanned registry.checkpoint seen o → D.Later s s' →
      s'.delegation? seen.txid = some d → d.state = seen.state →
      D.Later (s'.written seen.txid (u.applyTo d) u.timelock) s'' →
      post (log ++ [⟨.updateState seen.txid u, .ok .applied⟩])
        (.ok (.applied seen.txid (some seen.state) u.target (u.subState.or seen.subState)
          u.timelock)) s'')
    (hovertaken : ∀ u s' s'' s₃, u.IsPlanned registry.checkpoint seen o → D.Later s s' →
      (∀ d, s'.delegation? seen.txid = some d → d.state ≠ seen.state) → D.Later s' s'' →
        D.Later s'' s₃ →
      post (log ++ [⟨.updateState seen.txid u, .ok .preconditionFailed⟩,
          ⟨.getDelegation seen.txid, .ok (s''.delegation? seen.txid)⟩])
        (.ok (.rejected seen.txid (some o.kind) ((s''.delegation? seen.txid).map (·.state)))) s₃) :
    (registry.transition seen o).Keeps D call post log s := by
  rw [transition]
  split
  -- the state that was read does not fit the observation
  next r hr =>
    exact Program.Keeps.done fun s' hlater _ =>
      hrefused (TransitionKind.fromState_eq_error hr) s' hlater
  next t ht =>
    split
    next e _ => exact Program.Keeps.done fun s' _ _ => by simpa using hfailed e [] s' (by simp)
    next u hu =>
      have hplan : u.IsPlanned registry.checkpoint seen o := ⟨t, ht, hu⟩
      -- by the time the update is served, the record may have changed
      refine Program.Keeps.request
        (fun e s' => hfailed _ _ s' (by simpa using Exchange.written?_error _ e))
        fun s' hlater _ => ⟨hupdate u s' hplan hlater, fun a ha => ?_⟩
      change Except.ok (s'.updateState seen.txid u).1 = _ at ha
      change Program.Keeps _ _ _ _ _ (s'.updateState seen.txid u).2
      rcases s'.updateState_cases seen.txid u with ⟨hne, heq⟩ | ⟨d, hd, hstate, heq⟩ <;>
        rw [heq] at ha ⊢ <;> obtain rfl := Except.ok.inj ha
      -- another writer was first
      · have hne' : ∀ d, s'.delegation? seen.txid = some d → d.state ≠ seen.state :=
            fun d hd hstate =>
          hne d hd (by rw [hplan.move.1, hstate]; exact List.mem_singleton_self _)
        refine Program.Keeps.request (fun e s'' => ?_) fun s'' hlater' _ =>
          ⟨hread s'', fun a ha => ?_⟩
        · rw [List.append_assoc]
          exact hfailed _ _ s'' (by simp [Exchange.written?])
        · obtain rfl := Except.ok.inj ha
          refine Program.Keeps.done fun s₃ hlater₃ _ => ?_
          rw [List.append_assoc]
          exact hovertaken u s' s'' s₃ hplan hlater hne' hlater' hlater₃
      -- the delegation is moved
      · obtain ⟨-, rfl⟩ := TransitionKind.fromState_eq_ok ht
        obtain ⟨horigins, htarget, hsub⟩ := plannedUpdate_move hu
        rw [horigins, List.mem_singleton] at hstate
        refine Program.Keeps.done fun s'' hlater' _ => ?_
        have hpost := hmoved u d s' s'' hplan hlater hd hstate hlater'
        rw [htarget, hsub] at hpost
        exact hpost

/-! ## Observations -/

/-- How the observation `o` of a delegation that was read as `seen` is decided, and with which
exchanges. -/
inductive Decided (registry : Registry) (txid : Txid) (o : Observation) (seen : Delegation) :
    List Exchange → Except TrackingError Outcome → MemoryStore → Prop where
  /-- The state of `seen` does not fit the observation. -/
  | refused {s : MemoryStore} {d : Delegation} (hseen : seen.state ∉ o.kind.qualified)
    (hd : s.delegation? txid = some d) (hadv : seen.Advances d) :
    Decided registry txid o seen [] (.ok (.rejected txid (some o.kind) (some seen.state))) s
  /-- The delegation was moved by the plan `u`. It may have been signed since it was read. -/
  | moved {s : MemoryStore} {d : Delegation} {u : StateUpdate}
    {signatures : SortedMap XOnlyKey Signature}
    (hplan : u.IsPlanned registry.checkpoint seen o) (hd : s.delegation? txid = some d)
    (hadv : (u.applyTo { seen with signatures }).Advances d) :
    Decided registry txid o seen [⟨.updateState txid u, .ok .applied⟩]
      (.ok (.applied txid (some seen.state) u.target (u.subState.or seen.subState) u.timelock)) s
  /-- Another writer was first, and the delegation was read again as `now`. -/
  | overtaken {s : MemoryStore} {now d : Delegation} {u : StateUpdate}
    (hplan : u.IsPlanned registry.checkpoint seen o) (hmoved : seen.state.rank < now.state.rank)
    (hd : s.delegation? txid = some d) (hadv : now.Advances d) :
    Decided registry txid o seen
      [⟨.updateState txid u, .ok .preconditionFailed⟩, ⟨.getDelegation txid, .ok (some now)⟩]
      (.ok (.rejected txid (some o.kind) (some now.state))) s
  /-- The observation could not be planned, or a request failed. Nothing is written. -/
  | failed {s : MemoryStore} {log : List Exchange} {e : TrackingError}
    (hlog : ∀ x ∈ log, x.written? = none) :
    Decided registry txid o seen log (.error e) s

/-- A delegation that was read as `seen` is moved as planned, or it is `Decided` otherwise. -/
theorem keeps_transition {txid : Txid} {o : Observation} {seen : Delegation} {log : List Exchange}
    {s : MemoryStore} (hasks : call.Asks txid o) (hs : s.Coherent)
    (hseen : s.delegation? txid = some seen) :
    (registry.transition seen o).Keeps registry.lifecycle call
      (fun log' result s' =>
        ∃ rest, log' = log ++ rest ∧ registry.Decided txid o seen rest result s') log s := by
  obtain rfl := hs.keyed txid seen hseen
  refine keeps_attempt (fun e rest s' hrest => ⟨rest, rfl, .failed hrest⟩) ?_ ?_
    (fun _ => trivial) ?_ ?_
  · intro hrefused s' hlater
    obtain ⟨d, hd, hadv⟩ := hlater _ _ hseen
    exact ⟨[], (List.append_nil log).symm, .refused hrefused hd hadv⟩
  · intro u s' hplan hlater
    obtain ⟨d, hd, hadv⟩ := hlater _ _ hseen
    exact ⟨seen, d, o, hplan, hasks, hd, hadv⟩
  · intro u d s' s'' hplan hlater hd hstate hlater'
    obtain ⟨d', hd', hadv⟩ := hlater _ _ hseen
    obtain rfl := Option.some.inj (hd.symm.trans hd')
    obtain ⟨d'', hd'', hadv''⟩ := hlater' _ _ (MemoryStore.delegation?_written_self ..)
    rw [hadv.eq_of_state_eq hstate] at hadv''
    exact ⟨_, rfl, .moved hplan hd'' hadv''⟩
  · intro u s' s'' s₃ hplan hlater hne hlater' hlater₃
    obtain ⟨d, hd, hadv⟩ := hlater _ _ hseen
    have hmoved := hadv.rank_lt_of_state_ne (hne d hd)
    -- the second read finds a state that is no further back than the write found it
    obtain ⟨now, hnow, hadv'⟩ := hlater' _ _ hd
    obtain ⟨d₃, hd₃, hadv₃⟩ := hlater₃ _ _ hnow
    rw [hnow]
    exact ⟨_, rfl, .overtaken hplan (Nat.lt_of_lt_of_le hmoved hadv'.rank_le) hd₃ hadv₃⟩

/-- An observation is `Decided` from a record that is read first, unless there is none. -/
theorem keeps_decided {txid : Txid} {o : Observation} {log : List Exchange} {s : MemoryStore}
    (hasks : call.Asks txid o) :
    (registry.apply (.observed txid o)).Keeps registry.lifecycle call
      (fun log' result s' =>
        (∃ seen rest, log' = log ++ ⟨.getDelegation txid, .ok (some seen)⟩ :: rest ∧
          (∀ d, s.delegation? txid = some d → d.Advances seen) ∧
          registry.Decided txid o seen rest result s') ∨
        ∃ read e, log' = log ++ [⟨.getDelegation txid, read⟩] ∧ result = .error e) log s := by
  refine Program.Keeps.request (fun _ _ => .inr ⟨_, _, rfl, rfl⟩) fun s' hlater hinv =>
    ⟨trivial, fun a ha => ?_⟩
  obtain rfl := Except.ok.inj ha
  -- `s'` is the store at the moment of the reading
  cases hd : s'.delegation? txid with
  | none => exact Program.Keeps.done fun _ _ _ => .inr ⟨_, _, rfl, rfl⟩
  | some seen =>
    refine (keeps_transition hasks hinv hd).imp ?_
    rintro log' result s'' ⟨rest, rfl, hdecided⟩
    refine .inl ⟨seen, rest, List.append_assoc .., fun d hd' => ?_, hdecided⟩
    -- a record of `s` has only advanced until it was read
    obtain ⟨d', hd'', hadv⟩ := hlater _ _ hd'
    obtain rfl := Option.some.inj (hd.symm.trans hd'')
    exact hadv

/-! ## New Stakes -/

/-- The terms of the `stake` are those of the registered parameters that it names. -/
def Admits (registry : Registry) (stake : Stake) : Prop :=
  ∃ params, registry.staking? stake.paramsVersion = some params ∧ params.checkTerms stake = .ok ()

/-- How the new `stake` is decided, and with which exchanges. -/
inductive Received (registry : Registry) (stake : Stake) :
    List Exchange → Except TrackingError Outcome → MemoryStore → Prop where
  /-- The delegation of `stake` was created; by now it may have advanced to `d`. -/
  | created {s : MemoryStore} {d : Delegation} (hadmits : registry.Admits stake)
    (hd : s.delegation? stake.txid = some d) (hadv : (Delegation.ofStake stake).Advances d) :
    Received registry stake [⟨.saveDelegation (.ofStake stake), .ok .inserted⟩]
      (.ok (.applied stake.txid none .pending none none)) s
  /-- There is a delegation of this identifier, in the state `now`. -/
  | repeated {s : MemoryStore} {now : Option State} {read : Reply (.getDelegation stake.txid)} :
    Received registry stake
      [⟨.saveDelegation (.ofStake stake), .ok .alreadyExists⟩, ⟨.getDelegation stake.txid, read⟩]
      (.ok (.rejected stake.txid none now)) s
  /-- The stake is not admitted, or a request failed. Nothing is written. -/
  | failed {s : MemoryStore} {log : List Exchange} {e : TrackingError}
    (hlog : ∀ x ∈ log, x.written? = none) :
    Received registry stake log (.error e) s

/-- A delegation is created from the `stake` that was asked for, or it is `Received` otherwise. -/
theorem keeps_received {stake : Stake} (hcall : call = .apply (.newStake stake))
    {log : List Exchange} {s : MemoryStore} :
    (registry.create stake).Keeps registry.lifecycle call
      (fun log' result s' =>
        ∃ rest, log' = log ++ rest ∧ registry.Received stake rest result s') log s := by
  rw [create]
  split
  next => exact Program.Keeps.done fun _ _ _ => ⟨[], (List.append_nil log).symm, .failed (by simp)⟩
  next params hparams =>
    split
    next =>
      exact Program.Keeps.done fun _ _ _ => ⟨[], (List.append_nil log).symm, .failed (by simp)⟩
    next hterms =>
      refine Program.Keeps.request (fun e _ => ⟨_, rfl, .failed ?_⟩) fun s' _ _ =>
        ⟨⟨stake, hcall, rfl⟩, fun a ha => ?_⟩
      · simpa using Exchange.written?_error _ e
      -- the insertion finds a record, whose state is read next, or makes one
      change Except.ok (s'.saveDelegation (.ofStake stake)).1 = _ at ha
      change Program.Keeps _ _ _ _ _ (s'.saveDelegation (.ofStake stake)).2
      rcases s'.saveDelegation_cases (.ofStake stake) with ⟨d', -, heq⟩ | ⟨-, heq⟩
      · rw [heq] at ha ⊢
        obtain rfl := Except.ok.inj ha
        refine Program.Keeps.request (fun e _ => ⟨_, List.append_assoc .., .failed ?_⟩)
          fun s'' _ _ => ⟨trivial, fun a _ => ?_⟩
        · simp [Exchange.written?]
        exact Program.Keeps.done fun _ _ _ => ⟨_, List.append_assoc .., .repeated⟩
      · rw [heq] at ha ⊢
        obtain rfl := Except.ok.inj ha
        refine Program.Keeps.done fun s'' hlater _ => ?_
        -- the new record may have advanced by the time the call ends
        obtain ⟨d, hd, hadv⟩ := hlater _ _ (MemoryStore.delegation?_written_self ..)
        exact ⟨_, rfl, .created ⟨params, hparams, hterms⟩ hd hadv⟩

end Registry

end StakeLedger
