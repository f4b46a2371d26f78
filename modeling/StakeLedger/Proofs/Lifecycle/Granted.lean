import StakeLedger.Proofs.Lifecycle.Asked
import StakeLedger.Proofs.Lifecycle.Conduct

/-!
# Granted Events

An event is granted if it is answered as applied. The answer then tells what the call has written,
although it was put together from what the call had read (`Registry.Grants`): the record as written
is in the state and the sub state of the answer. A call that has returned with such an answer has
written once, with its last request, and a call that has returned otherwise has written nothing
(`Registry.keeps_answers`).
-/

namespace StakeLedger

/-- The outcome of an event that was applied, and `none` for one that was rejected. -/
def Outcome.granted? : Outcome → Option Outcome
  | applied txid origin target subState timelock =>
    some (applied txid origin target subState timelock)
  | rejected _ _ _ => none

/-- An outcome that `isApplied` is its own `granted?`. -/
theorem Outcome.granted?_of_isApplied {outcome : Outcome} (h : outcome.isApplied) :
    outcome.granted? = some outcome := by
  cases outcome with
  | applied => rfl
  | rejected => cases h

/-- The event that a call asks to be applied, if it is but one. The event of a signature is
`covenantQuorumReached`. -/
def Call.event? : Call → Option Event
  | .apply event => some event
  | .sign txid _ _ => some (.observed txid .covenantQuorumReached)
  | .scan _ _ | .tick _ _ => none

/-- A call asks for the observation that is its event. -/
theorem Call.asks_of_event? {call : Call} {txid : Txid} {o : Observation}
    (h : call.event? = some (.observed txid o)) : call.Asks txid o := by
  cases call with
  | apply event => exact Option.some.inj h
  | sign txid' _ _ =>
    cases h
    exact ⟨rfl, rfl⟩
  | scan _ _ => cases h
  | tick _ _ => cases h

/-- A call whose event is the observation `o` asks for no other one. -/
theorem Call.eq_of_asks {call : Call} {txid : Txid} {o o' : Observation}
    (h : call.event? = some (.observed txid o)) (hasks : call.Asks txid o') : o' = o := by
  cases call with
  | apply event =>
    obtain rfl := Option.some.inj h
    exact (Event.observed.inj hasks).2.symm
  | sign txid' _ _ =>
    cases h
    exact hasks.2
  | scan _ _ => cases h
  | tick _ _ => cases h

/-- A call that is about no single event works off markers. -/
theorem Call.exists_path_of_asks {call : Call} {txid : Txid} {o : Observation}
    (h : call.event? = none) (hasks : call.Asks txid o) : ∃ path, o = .timelockExpired path := by
  cases call with
  | apply event => cases h
  | sign txid' _ _ => cases h
  | scan _ _ => exact hasks
  | tick _ _ => exact hasks

/-- The outcome that a response reports of an event that was applied. -/
def Response.granted? : Response → Option Outcome
  | .applied (.ok outcome) => outcome.granted?
  | .signed (.ok ⟨_, some outcome⟩) => outcome.granted?
  | _ => none

/-- The exchanges of `log` write no state. -/
def WritesNoState (log : List Exchange) : Prop := ∀ e ∈ log, e.written? = none

theorem WritesNoState.append {log log' : List Exchange} (h : WritesNoState log)
    (h' : WritesNoState log') :
    WritesNoState (log ++ log') :=
  fun e he => (List.mem_append.1 he).elim (h e) (h' e)

namespace Registry

variable {registry : Registry} {call : Call} {event : Event} {log log' : List Exchange}
  {s s' : MemoryStore}

/-! ## Answers -/

/-- An event is granted by a write: the exchange, the outcome that is answered, and the record as it
is written. -/
inductive Grants (registry : Registry) : Event → Exchange → Outcome → Delegation → Prop where
  /-- The delegation of an admitted `stake` is created. -/
  | created {stake : Stake} (hadmits : registry.Admits stake) :
    Grants registry (.newStake stake) ⟨.saveDelegation (.ofStake stake), .ok .inserted⟩
      (.applied stake.txid none .pending none none) (.ofStake stake)
  /-- A delegation is moved as planned from what was `seen` of it. Signatures may have been added
  since. -/
  | moved {txid : Txid} {o : Observation} {seen : Delegation} {u : StateUpdate}
    (signatures : SortedMap XOnlyKey Signature) (hplan : u.IsPlanned registry.checkpoint seen o) :
    Grants registry (.observed txid o) ⟨.updateState txid u, .ok .applied⟩
      (.applied txid (some seen.state) u.target (u.subState.or seen.subState) u.timelock)
      (u.applyTo { seen with signatures })

/-- What the answer to `event` says of the exchanges of its call, and of the store from then on. -/
inductive Answered (registry : Registry) (event : Event) :
    List Exchange → Option Outcome → MemoryStore → Prop where
  /-- The event was applied by the last exchange `write`, and the record has advanced from what was
  written. -/
  | granted {before : List Exchange} {write : Exchange} {outcome : Outcome} {record d : Delegation}
    {s : MemoryStore} (hbefore : WritesNoState before)
    (hgrants : registry.Grants event write outcome record)
    (hd : s.delegation? event.txid = some d) (hadv : record.Advances d) :
    Answered registry event (before ++ [write]) (some outcome) s
  /-- The event was not applied, and its call has written no state. -/
  | otherwise {log : List Exchange} {s : MemoryStore} (hlog : WritesNoState log) :
    Answered registry event log none s

/-- The write that grants an event is one of its delegation, to the state of `record`. -/
theorem Grants.written? {write : Exchange} {outcome : Outcome} {record : Delegation}
    (h : registry.Grants event write outcome record) :
    write.written? = some (event.txid, record.state) := by
  cases h <;> rfl

/-- An answer stays true on a later store. -/
theorem Answered.later {outcome? : Option Outcome} (h : registry.Answered event log outcome? s)
    (hs : s.Later s') : registry.Answered event log outcome? s' := by
  cases h with
  | granted hbefore hgrants hd hadv =>
    obtain ⟨d', hd', hadv'⟩ := hs _ _ hd
    exact .granted hbefore hgrants hd' (hadv.trans hadv')
  | otherwise hlog => exact .otherwise hlog

/-- Exchanges before the event that write nothing do not matter to the answer. -/
theorem Answered.append {outcome? : Option Outcome} (hlog : WritesNoState log)
    (h : registry.Answered event log' outcome? s) :
    registry.Answered event (log ++ log') outcome? s := by
  cases h with
  | granted hbefore hgrants hd hadv =>
    rw [← List.append_assoc]
    exact .granted (hlog.append hbefore) hgrants hd hadv
  | otherwise hlog' => exact .otherwise (hlog.append hlog')

/-- A write of a state is the last exchange of the call, and `Grants` its event. -/
theorem Answered.of_written {write : Exchange} {rest : List Exchange} {outcome? : Option Outcome}
    (h : registry.Answered event (log ++ write :: rest) outcome? s)
    (hwrite : write.written? ≠ none) :
    rest = [] ∧ ∃ outcome record d, outcome? = some outcome ∧ registry.Grants event write
      outcome record ∧ s.delegation? event.txid = some d ∧ record.Advances d := by
  generalize hall : log ++ write :: rest = all at h
  cases h with
  | @granted before write' outcome record d _ hbefore hgrants hd hadv =>
    -- the exchanges before the one that grants the event write nothing
    have hrest : rest = [] := by
      by_contra hne
      have hmem : write ∈ (log ++ write :: rest).dropLast := by
        rw [List.dropLast_append_of_ne_nil (List.cons_ne_nil _ _), List.dropLast_cons_of_ne_nil hne]
        simp
      rw [hall, List.dropLast_concat] at hmem
      exact hwrite (hbefore write hmem)
    subst hrest
    obtain ⟨-, hwrite'⟩ := List.append_inj' hall rfl
    obtain rfl := List.singleton_inj.1 hwrite'
    exact ⟨rfl, outcome, record, d, rfl, hgrants, hd, hadv⟩
  | otherwise hlog => exact absurd (hlog write (hall ▸ by simp)) hwrite

/-- No event is granted where the last exchange writes no state. -/
theorem Answered.eq_none {outcome? : Option Outcome} (h : registry.Answered event log outcome? s)
    (hlast : ∀ e, log.getLast? = some e → e.written? = none) : outcome? = none := by
  cases h with
  | granted hbefore hgrants hd hadv =>
    have hwrite := hlast _ List.getLast?_concat
    rw [hgrants.written?] at hwrite
    cases hwrite
  | otherwise => rfl

/-- An observation that is `Decided` is answered by its result: only a planned move writes a state,
with the last exchange. -/
theorem Decided.answered {txid : Txid} {o : Observation} {seen : Delegation}
    {result : Except TrackingError Outcome} (h : registry.Decided txid o seen log result s) :
    registry.Answered (.observed txid o) log (Response.applied result).granted? s := by
  cases h with
  | refused => exact .otherwise (by simp [WritesNoState])
  | @moved _ d u signatures hplan hd hadv =>
    rw [← List.nil_append [_]]
    exact .granted (by simp [WritesNoState]) (.moved signatures hplan) hd hadv
  | overtaken => exact .otherwise (by simp [WritesNoState, Exchange.written?])
  | failed hlog => exact .otherwise hlog

/-- A stake that is `Received` is answered by its result: only the creation writes a state. -/
theorem Received.answered {stake : Stake} {result : Except TrackingError Outcome}
    (h : registry.Received stake log result s) :
    registry.Answered (.newStake stake) log (Response.applied result).granted? s := by
  cases h with
  | created hadmits hd hadv =>
    rw [← List.nil_append [_]]
    exact .granted (by simp [WritesNoState]) (.created hadmits) hd hadv
  | repeated => exact .otherwise (by simp [WritesNoState, Exchange.written?])
  | failed hlog => exact .otherwise hlog

/-! ## Every Call -/

/-- An event is answered, after any `log` of exchanges that write nothing, as `Answered` says. -/
theorem keeps_granted (hcall : call.event? = some event) (hlog : WritesNoState log) :
    (registry.apply event).Keeps registry.lifecycle call
      (fun log' result s' => registry.Answered event log' (Response.applied result).granted? s')
      log s := by
  cases event with
  | newStake stake =>
    have hcreate : call = .apply (.newStake stake) := by
      cases call with
      | apply event => rw [Option.some.inj hcall]
      | _ => cases hcall
    refine (keeps_received hcreate).imp ?_
    rintro log' result s' ⟨rest, rfl, hreceived⟩
    exact hreceived.answered.append hlog
  | observed txid o =>
    refine (keeps_decided (Call.asks_of_event? hcall)).imp ?_
    rintro log' result s' (⟨seen, rest, rfl, -, hdecided⟩ | ⟨read, e, rfl, rfl⟩)
    · -- the record is read first, which writes nothing
      refine Answered.append hlog ?_
      rw [← List.singleton_append]
      exact hdecided.answered.append (by simp [WritesNoState, Exchange.written?])
    · exact .otherwise (hlog.append (by simp [WritesNoState, Exchange.written?]))

/-- The call `sign` reports the quorum transition if it is the one that made it. -/
theorem keeps_signed (txid : Txid) (key : XOnlyKey) (signature : Signature) (s : MemoryStore) :
    (registry.sign txid key signature).Keeps registry.lifecycle (.sign txid key signature)
      (fun log result s' => registry.Answered (.observed txid .covenantQuorumReached) log
        (Response.signed result).granted? s') [] s := by
  have hnone : ∀ e : Exchange, e.request.method ≠ .saveDelegation ∧
      e.request.method ≠ .updateState →
      e.written? = none := fun e he => Exchange.written?_of_method he.1 he.2
  have hrecord : (registry.recordSignature txid key signature).OnlyAsks fun r =>
      r.method ≠ .saveDelegation ∧ r.method ≠ .updateState := by
    apply onlyAsks_recordSignature <;> simp [Request.method]
  have htally : (registry.tally txid).OnlyAsks fun r =>
      r.method ≠ .saveDelegation ∧ r.method ≠ .updateState := by
    apply onlyAsks_tally; simp [Request.method]
  -- what is made of the answer to the quorum transition does not change what it grants
  have hfollow : ∀ {log : List Exchange} {s : MemoryStore}
      {f : Except TrackingError Outcome → Program (Except TrackingError SigningOutcome)},
      WritesNoState log →
      (∀ result, ∃ result', f result = .done result' ∧
        (Response.signed result').granted? = (Response.applied result).granted?) →
      ((registry.applyQuorum txid).bind f).Keeps registry.lifecycle (.sign txid key signature)
        (fun log result s' => registry.Answered (.observed txid .covenantQuorumReached) log
          (Response.signed result).granted? s') log s := by
    intro log s f hlog hf
    refine Program.Keeps.bind ((keeps_granted rfl hlog).imp fun log' result s' hanswered => ?_)
    obtain ⟨result', hresult, hgranted⟩ := hf result
    rw [hresult]
    exact Program.Keeps.done fun s'' hlater _ => hgranted ▸ hanswered.later hlater
  refine Program.Keeps.bind
    (((keeps_recordSignature txid key signature [] s).onlyAsks hrecord).imp ?_)
  rintro log result s₁ ⟨⟨rest, hrest_eq, hrest⟩, -⟩
  obtain rfl : log = rest := hrest_eq
  have hlog : WritesNoState log := fun e he => hnone e (hrest e he)
  split
  next receipt =>
    -- the signature is stored: it crosses the quorum, comes after it, or before it
    split
    · refine hfollow hlog fun result => ?_
      cases result <;> exact ⟨_, rfl, rfl⟩
    · split
      · refine hfollow hlog fun result => ?_
        rcases result with _ | _ | _ <;> exact ⟨_, rfl, rfl⟩
      · exact Program.Keeps.done fun _ _ _ => .otherwise hlog
  next =>
    -- the key has signed before
    refine Program.Keeps.bind (((keeps_tally txid _ s₁).onlyAsks htally).imp ?_)
    rintro log' receipt s₂ ⟨⟨rest', rfl, hrest'⟩, -⟩
    have hlog' := hlog.append fun e he => hnone e (hrest' e he)
    cases receipt with
    | error e => exact Program.Keeps.done fun _ _ _ => .otherwise hlog'
    | ok receipt =>
      dsimp only
      split
      · refine hfollow hlog' fun result => ?_
        rcases result with _ | _ | _ <;> exact ⟨_, rfl, rfl⟩
      · exact Program.Keeps.done fun _ _ _ => .otherwise hlog'
  next => exact Program.Keeps.done fun _ _ _ => .otherwise hlog

/-- The `response` of a call that asks for one event to be applied is the answer to this event. -/
def AnswersEvent (registry : Registry) (call : Call) (log : List Exchange) (response : Response)
    (s : MemoryStore) : Prop :=
  ∀ event, call.event? = some event → registry.Answered event log response.granted? s

/-- Every call answers its event, while it keeps to `lifecycle`. -/
theorem keeps_answers (registry : Registry) (call : Call) (s : MemoryStore)
    (hs : registry.lifecycle.Invariant s) :
    (registry.workload.program call).Keeps registry.lifecycle call (registry.AnswersEvent call)
    [] s := by
  cases call with
  | apply event =>
    have hevent : (Call.apply event).event? = some event := rfl
    refine Program.Keeps.bind
      ((keeps_granted hevent (by simp [WritesNoState])).imp fun log result s₁ h => ?_)
    refine Program.Keeps.done fun _ hlater _ event' hevent' => ?_
    obtain rfl := Option.some.inj hevent'
    exact h.later hlater
  | sign txid key signature =>
    refine Program.Keeps.bind ((keeps_signed txid key signature s).imp fun log result s₁ h => ?_)
    refine Program.Keeps.done fun _ hlater _ event hevent => ?_
    obtain rfl := Option.some.inj hevent
    exact h.later hlater
  | scan pageSize tip =>
    -- scans and ticks have no event of their own
    exact (registry.keeps_program _ s hs).imp fun _ _ _ _ _ hevent => by cases hevent
  | tick pageSize tip =>
    exact (registry.keeps_program _ s hs).imp fun _ _ _ _ _ hevent => by cases hevent

end Registry

end StakeLedger
