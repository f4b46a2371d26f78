import StakeLedger.Proofs.Lifecycle.Alone
import StakeLedger.Proofs.Lifecycle.Granted

/-!
# Events Take Effect One at a Time

Whatever calls run side by side, each event that is applied takes effect with the write that it is
granted by. If just these events are applied again, one after the other in the order of their
writes, and with the signatures and the removals of markers in their places, then each of them is
answered as before, and delegations and markers come out the same (`applied_linearizable`).

A call puts its answer together from what it has read, whereas the event that is applied in turn
goes by the record that is stored. The two agree because the write goes through only in the state
that was read, and a record that is in the same state as before differs in signatures only
(`Registry.Grants.run_apply`).
-/

namespace StakeLedger

/-! ## Changes in Turn -/

/-- A change that a call makes to delegations or markers. -/
inductive Change where
  /-- The `event` is applied. -/
  | event (event : Event)
  /-- The `signature` of `key` is stored. -/
  | signature (txid : Txid) (key : XOnlyKey) (signature : Signature)
  /-- The `marker` is removed. -/
  | removal (marker : Marker)

/-- The change that an exchange makes, if it makes one. The events of scans are expiries. -/
def Entry.change? (e : Entry Call) : Option Change :=
  match e.exchange with
  | ⟨.saveDelegation _, .ok .inserted⟩ => e.call.event?.map .event
  | ⟨.updateState txid u, .ok .applied⟩ =>
    (e.call.event?.or (u.subState.map fun path => .observed txid (.timelockExpired path))).map
      .event
  | ⟨.saveSignature txid key signature, .ok (.inserted _)⟩ => some (.signature txid key signature)
  | ⟨.deleteMarker m, .ok .deleted⟩ => some (.removal m)
  | _ => none

/-- The changes of `history`, each with the call that made it. -/
def changes (history : List (Entry Call)) : List (Nat × Change) :=
  history.filterMap fun e => e.change?.map (e.caller, ·)

/-- The answers to events that were applied in turn, each with the call that it is for, and the
store after them. -/
structure Turns where
  /-- The answers given so far, each with the place of its call. -/
  answers : List (Nat × Except TrackingError Outcome)
  store : MemoryStore

/-- The answers that are for the call at `caller`. -/
def Turns.answersTo (turns : Turns) (caller : Nat) : List (Except TrackingError Outcome) :=
  (turns.answers.filter fun a => a.1 = caller).map (·.2)

namespace Registry

/-- Makes one `change` while no call runs, on the store of `turns`, and keeps the answer if it is an
event. -/
def turn (registry : Registry) (turns : Turns) (change : Nat × Change) : Turns :=
  match change.2 with
  | .event event =>
    let (answer, store) := (registry.apply event).run MemoryStore.backend turns.store
    ⟨turns.answers ++ [(change.1, answer)], store⟩
  | .signature txid key signature =>
    { turns with store := (turns.store.saveSignature txid key signature).2 }
  | .removal m => { turns with store := (turns.store.deleteMarker m).2 }

/-- Makes `changes` one after the other, on the store `start`. -/
def inTurn (registry : Registry) (start : MemoryStore) (changes : List (Nat × Change)) : Turns :=
  changes.foldl registry.turn ⟨[], start⟩

/-- Makes the change of the exchange `e`, if it makes one. -/
def follow (registry : Registry) (turns : Turns) (e : Entry Call) : Turns :=
  match e.change? with
  | none => turns
  | some change => registry.turn turns (e.caller, change)

/-- The last exchange of a history makes its change last. -/
theorem inTurn_changes_concat (registry : Registry) (start : MemoryStore)
    (history : List (Entry Call)) (e : Entry Call) :
    registry.inTurn start (changes (history ++ [e])) =
      registry.follow (registry.inTurn start (changes history)) e := by
  rw [changes, List.filterMap_append, inTurn, List.foldl_append, follow]
  cases h : e.change? <;> simp [h, inTurn, changes]

/-- The changes of a run, made in turn from the store `start`, on which the run starts. -/
def turns (registry : Registry) (start : MemoryStore) (schedule : List (Action Call)) : Turns :=
  registry.inTurn start (changes (registry.workload.run start schedule).history)

end Registry

/-- The outcome that a call has reported of an event that was applied. -/
def Thread.granted? : Thread Call Response → Option Outcome
  | ⟨_, some (.done response)⟩ => response.granted?
  | _ => none

/-- What a write has done to its delegation between `s` and `s'` is what the outcome says. -/
def Outcome.Describes (s s' : MemoryStore) : Outcome → Prop
  | applied txid origin target subState timelock =>
    (s.delegation? txid).map (·.state) = origin ∧
    ∃ d, s'.delegation? txid = some d ∧ d.state = target ∧ d.subState = subState ∧
      ∀ m, timelock = some m → m ∈ s'.queue ∧ d.expiryHeight = some m.expireHeight
  | rejected _ _ _ => False

/-- Only an outcome that `isApplied` describes a write. -/
theorem Outcome.Describes.isApplied {outcome : Outcome} {s s' : MemoryStore}
    (h : outcome.Describes s s') :
    outcome.isApplied := by
  cases outcome with
  | applied => rfl
  | rejected => exact h.elim

namespace Registry

/-- What calls have done side by side, in the run of `schedule` from `start`, they would have done
one after the other. -/
structure Linearizes (registry : Registry) (start : MemoryStore)
    (schedule : List (Action Call)) : Prop where
  /-- Delegations and markers come out the same as in the run of `schedule`. Cursors are left
  out. -/
  store : (registry.turns start schedule).store =
    { (registry.workload.run start schedule).store with cursors := start.cursors }
  /-- Answers are for calls that were started in `schedule`. -/
  caller_lt : ∀ a ∈ (registry.turns start schedule).answers,
    a.1 < (registry.workload.run start schedule).threads.length
  /-- Every event that has a turn is applied in it. -/
  applied : ∀ a ∈ (registry.turns start schedule).answers, ∃ outcome, a.2 = .ok outcome ∧
    outcome.isApplied
  /-- A call whose event was applied is given the same answer in its turn, `t.granted?`, and any
  other call has no turn. -/
  answers : ∀ (i : Nat) (t : Thread Call Response),
    (registry.workload.run start schedule).threads[i]? = some t →
    t.rest.isSome → t.call.event?.isSome →
    (registry.turns start schedule).answersTo i = t.granted?.toList.map .ok
  /-- What a call has answered is what the store held before and after one action `a` of the
  schedule. -/
  recorded : ∀ (i : Nat) (t : Thread Call Response) (outcome : Outcome),
    (registry.workload.run start schedule).threads[i]? = some t → t.call.event?.isSome →
    t.granted? = some outcome → ∃ before a after, schedule = before ++ a :: after ∧
      outcome.Describes (registry.workload.run start before).store
        (registry.workload.run start (before ++ [a])).store

variable {registry : Registry} {call : Call} {s s' : MemoryStore} {event : Event} {e : Exchange}

/-! ## One Exchange -/

/-- A planned write `u` is described by the outcome that is put together from the record `d` before
it. -/
theorem describes_moved {txid : Txid} {d : Delegation} {u : StateUpdate}
    (hd : s.delegation? txid = some d) :
    (Outcome.applied txid (some d.state) u.target (u.subState.or d.subState) u.timelock).Describes s
      (s.written txid (u.applyTo d) u.timelock) := by
  refine ⟨by rw [hd]; rfl, u.applyTo d, MemoryStore.delegation?_written_self .., rfl, rfl,
    fun m hm => ⟨?_, ?_⟩⟩
  · exact MemoryStore.mem_queue_written.2 (.inl hm)
  · rw [StateUpdate.applyTo, hm]
    rfl

/-- An event that is granted by a write is answered in the same way if it is applied alone in its
place. The `cursors` are whatever they are at that place in turn. -/
theorem Grants.run_apply {outcome : Outcome} {record d : Delegation}
    (h : registry.Grants event e outcome record) (heffect : registry.Effect call s e s')
    (hcall : call.event? = some event) (hs : s.Coherent) (hd : s'.delegation? event.txid = some d)
    (hadv : record.Advances d) (cursors : SortedMap String Cursor) :
    (registry.apply event).run MemoryStore.backend { s with cursors } =
      (.ok outcome, { s' with cursors }) ∧ outcome.Describes s s' := by
  cases h with
  | @created stake hadmits =>
    cases heffect with
    | unchanged cursors' hwritten => cases hwritten
    | created _ hnone =>
      -- what is stored of a delegation does not depend on the cursors
      have hnone' : ({ s with cursors } : MemoryStore).delegation? stake.txid = none := hnone
      refine ⟨?_, ?_⟩
      · rw [apply, registry.run_create hadmits, hnone']
        rfl
      · refine ⟨by rw [hnone]; rfl, .ofStake stake, MemoryStore.delegation?_written_self ..,
          rfl, rfl, nofun⟩
  | @moved txid o seen u signatures hplan =>
    cases heffect with
    | unchanged cursors' hwritten => cases hwritten
    | @moved _ now o' _ hnow hasks hu =>
      obtain rfl : o' = o := Call.eq_of_asks hcall hasks
      have hrun := registry.run_observed_planned (s := { s with cursors }) hnow
        (hs.keyed _ _ hnow) hu
      -- the record is in the state that was read, and so it has the same sub state
      have hstate : seen.state = now.state := by
        have horigins := hplan.move.1.symm.trans hu.move.1
        exact List.singleton_inj.1 horigins
      replace hd : (s.written txid (u.applyTo now) u.timelock).delegation? txid = some d := hd
      rw [MemoryStore.delegation?_written_self] at hd
      obtain rfl := Option.some.inj hd
      have hsub : u.subState.or now.subState = u.subState.or seen.subState :=
        congrArg Delegation.subState (hadv.eq_of_state_eq rfl)
      rw [hstate, ← hsub]
      exact ⟨hrun, describes_moved hnow⟩

/-- What a scan writes is what the expiry of a marker writes if it is applied alone in its place. -/
theorem Effect.run_expiry (heffect : registry.Effect call s e s') (hwritten : e.written? ≠ none)
    (hcall : call.event? = none) (hs : s.Coherent) (caller : Nat)
    (cursors : SortedMap String Cursor) :
    ∃ event outcome, (⟨caller, call, e⟩ : Entry Call).change? = some (.event event) ∧
      (registry.apply event).run MemoryStore.backend { s with cursors } =
        (.ok outcome, { s' with cursors }) ∧
      outcome.Describes s s' := by
  cases heffect with
  | unchanged _ hnone => exact absurd hnone hwritten
  | created happly _ =>
    rw [happly] at hcall
    cases hcall
  | @moved txid d o u hd hasks hu =>
    -- a call without an event of its own moves delegations only by the expiries of markers
    obtain ⟨path, rfl⟩ := Call.exists_path_of_asks hcall hasks
    have hsub : u.subState = some path := hu.subState
    have hchange : (⟨caller, call, ⟨.updateState txid u, .ok .applied⟩⟩ : Entry Call).change? =
        some (.event (.observed txid (.timelockExpired path))) := by
      simp [Entry.change?, hcall, hsub]
    have hrun := registry.run_observed_planned (s := { s with cursors }) hd (hs.keyed _ _ hd) hu
    exact ⟨_, _, hchange, hrun, describes_moved hd⟩
  | signed => exact absurd rfl hwritten
  | removed => exact absurd rfl hwritten

/-- The write that grants the event of its call makes the change `.event event`. -/
theorem Grants.change? {outcome : Outcome} {record : Delegation}
    (h : registry.Grants event e outcome record) (hcall : call.event? = some event) (caller : Nat) :
    (⟨caller, call, e⟩ : Entry Call).change? = some (.event event) := by
  cases h <;> simp [Entry.change?, hcall]

/-- An exchange that writes no state makes the same change in its turn. -/
theorem follow_unwritten {r : Request} (hpermits : registry.Permits call r s)
    (hwritten : Exchange.written? ⟨r, (MemoryStore.backend.answer r s).1⟩ = none) (caller : Nat)
    {turns : Turns} {cursors : SortedMap String Cursor}
    (hturns : turns.store = { s with cursors }) :
    registry.follow turns ⟨caller, call, ⟨r, (MemoryStore.backend.answer r s).1⟩⟩ =
      { turns with store := { (MemoryStore.backend.answer r s).2 with cursors } } := by
  obtain ⟨answers, _⟩ := turns
  obtain rfl := hturns
  cases r with
  -- a record that is inserted or moved is written, against `hwritten`
  | saveDelegation d =>
    change Exchange.written? ⟨.saveDelegation d, .ok (s.saveDelegation d).1⟩ = none at hwritten
    change registry.follow _ ⟨caller, call, ⟨.saveDelegation d, .ok (s.saveDelegation d).1⟩⟩ =
      ⟨answers, { (s.saveDelegation d).2 with cursors }⟩
    rcases s.saveDelegation_cases d with ⟨_, -, heq⟩ | ⟨-, heq⟩ <;> rw [heq] at hwritten ⊢
    · rfl
    · cases hwritten
  | updateState txid u =>
    change Exchange.written? ⟨.updateState txid u, .ok (s.updateState txid u).1⟩ = none at hwritten
    change registry.follow _ ⟨caller, call, ⟨.updateState txid u, .ok (s.updateState txid u).1⟩⟩ =
      ⟨answers, { (s.updateState txid u).2 with cursors }⟩
    rcases s.updateState_cases txid u with ⟨-, heq⟩ | ⟨_, -, -, heq⟩ <;> rw [heq] at hwritten ⊢
    · rfl
    · cases hwritten
  | saveSignature txid key signature =>
    -- signatures and removals are made in their turn, whatever the cursors are
    have hturn := s.saveSignature_with_cursors cursors txid key signature
    change registry.follow _
        ⟨caller, call,
          ⟨.saveSignature txid key signature, (s.saveSignature txid key signature).1⟩⟩ =
      ⟨answers, { (s.saveSignature txid key signature).2 with cursors }⟩
    rcases s.saveSignature_cases txid key signature with ⟨-, heq⟩ | ⟨_, -, ⟨-, heq⟩ | ⟨-, heq⟩⟩ <;>
      rw [heq] at hturn ⊢
    · rfl
    · rfl
    · simp [follow, Entry.change?, turn, hturn]
  | deleteMarker m =>
    have hturn := s.deleteMarker_with_cursors cursors m
    change registry.follow _ ⟨caller, call, ⟨.deleteMarker m, .ok (s.deleteMarker m).1⟩⟩ =
      ⟨answers, { (s.deleteMarker m).2 with cursors }⟩
    rcases s.deleteMarker_cases m with ⟨-, heq⟩ | ⟨-, heq⟩ <;> rw [heq] at hturn ⊢
    · rfl
    · simp [follow, Entry.change?, turn, hturn]
  | advanceCursor name expected height =>
    change registry.follow _ ⟨caller, call, ⟨.advanceCursor name expected height, _⟩⟩ =
      ⟨answers, { (s.advanceCursor name expected height).2 with cursors }⟩
    rcases s.advanceCursor_cases name expected height with ⟨-, heq⟩ | ⟨-, heq⟩ <;> rw [heq] <;> rfl
  | saveMarker m => exact hpermits.elim
  | _ => rfl

/-- A call of which the last exchange writes no state has granted no event. -/
theorem granted?_eq_none {p : Program Response} {log : List Exchange}
    (hkeeps : p.Keeps registry.lifecycle call (registry.AnswersEvent call) log s) (hs : s.Coherent)
    (hlast : ∀ e, log.getLast? = some e → e.written? = none) (hevent : call.event?.isSome) :
    Thread.granted? ⟨call, some p⟩ = none := by
  obtain ⟨event, hevent⟩ := Option.isSome_iff_exists.1 hevent
  cases p with
  | call r next => rfl
  | done response => exact (hkeeps s (MemoryStore.Later.refl s) hs event hevent).eq_none hlast

/-- Whatever the exchange of `r` changes is changed in the same way in its turn, and `answered` as
the call answers it. -/
theorem follow_served {r : Request} {next : Reply r → Program Response} {log : List Exchange}
    (hs : s.Coherent) (hpermits : registry.Permits call r s) (caller : Nat)
    (hkeeps : (next (MemoryStore.backend.answer r s).1).Keeps registry.lifecycle call
      (registry.AnswersEvent call) (log ++ [⟨r, (MemoryStore.backend.answer r s).1⟩])
      (MemoryStore.backend.answer r s).2)
    {turns : Turns} {cursors : SortedMap String Cursor}
    (hturns : turns.store = { s with cursors }) :
    ∃ answered : Option Outcome,
      registry.follow turns ⟨caller, call, ⟨r, (MemoryStore.backend.answer r s).1⟩⟩ =
          ⟨turns.answers ++ answered.toList.map fun outcome => (caller, .ok outcome),
            { (MemoryStore.backend.answer r s).2 with cursors }⟩ ∧
      (∀ outcome, answered = some outcome →
        outcome.Describes s (MemoryStore.backend.answer r s).2) ∧
      (call.event?.isSome →
        Thread.granted? ⟨call, some (next (MemoryStore.backend.answer r s).1)⟩ = answered) := by
  have heffect := effect_answer hpermits
  have hs' := heffect.coherent hs
  by_cases hwritten : Exchange.written? ⟨r, (MemoryStore.backend.answer r s).1⟩ = none
  -- no state is written, and no event is granted
  · refine ⟨none, by simpa using follow_unwritten hpermits hwritten caller hturns, by simp,
      fun hevent => ?_⟩
    exact granted?_eq_none hkeeps hs' (by simpa using hwritten) hevent
  · generalize next (MemoryStore.backend.answer r s).1 = p at *
    generalize (MemoryStore.backend.answer r s).2 = s' at *
    generalize (⟨r, (MemoryStore.backend.answer r s).1⟩ : Exchange) = e at *
    have hturn : ∀ {event outcome}, (⟨caller, call, e⟩ : Entry Call).change? = some (.event event) →
        (registry.apply event).run MemoryStore.backend { s with cursors } =
          (.ok outcome, { s' with cursors }) →
        registry.follow turns ⟨caller, call, e⟩ =
          ⟨turns.answers ++ [(caller, .ok outcome)], { s' with cursors }⟩ := by
      intro event outcome hchange hrun
      simp [follow, hchange, turn, hturns, hrun]
    cases hevent : call.event? with
    | none =>
      obtain ⟨event, outcome, hchange, hrun, hdescribes⟩ :=
        heffect.run_expiry hwritten hevent hs caller cursors
      refine ⟨some outcome, hturn hchange hrun, fun _ h => ?_, nofun⟩
      exact Option.some.inj h ▸ hdescribes
    | some event =>
      -- the call has nothing left to do, or else it could be brought to an answer that is not true
      obtain ⟨rest, response, hanswers, hdone⟩ := hkeeps.exists_end hs'
      have hanswered := hanswers event hevent
      rw [List.append_assoc] at hanswered
      obtain ⟨rfl, outcome, record, d, hgranted, hgrants, hd, hadv⟩ := hanswered.of_written hwritten
      obtain ⟨hrun, hdescribes⟩ := hgrants.run_apply heffect hevent hs hd hadv cursors
      refine ⟨some outcome, hturn (hgrants.change? hevent caller) hrun, fun _ h => ?_, fun _ => ?_⟩
      · exact Option.some.inj h ▸ hdescribes
      · rw [hdone rfl]
        exact hgranted

/-! ## Runs -/

/-- An answer is added to those of its call and to no others. -/
theorem answersTo_append (turns : Turns) (caller : Nat) (answered : Option Outcome)
    (store : MemoryStore) (i : Nat) :
    Turns.answersTo ⟨turns.answers ++ answered.toList.map fun outcome =>
      (caller, .ok outcome), store⟩ i =
      if i = caller then turns.answersTo i ++ answered.toList.map .ok else turns.answersTo i := by
  by_cases h : i = caller
  · subst h
    cases answered <;> simp [Turns.answersTo]
  · have h' : ¬caller = i := fun heq => h heq.symm
    cases answered <;> simp [Turns.answersTo, h, h']

variable {start : MemoryStore} {schedule : List (Action Call)} {a : Action Call}

/-- An exchange that changes the store as it does in its turn, and is `answered` as in its turn, is
in line with what came before. -/
theorem Linearizes.exchanged (h : registry.Linearizes start schedule) {caller : Nat} {r : Request}
    {next : Reply r → Program Response} {reply : Reply r} {store : MemoryStore}
    {answered : Option Outcome}
    (hthread : (registry.workload.run start schedule).threads[caller]? =
      some ⟨call, some (.call r next)⟩)
    (hstep : registry.workload.step (registry.workload.run start schedule) a =
      (registry.workload.run start schedule).exchanged caller call r next reply store)
    (hfollow : registry.follow (registry.turns start schedule) ⟨caller, call, ⟨r, reply⟩⟩ =
      ⟨(registry.turns start schedule).answers ++ answered.toList.map fun outcome =>
        (caller, .ok outcome), { store with cursors := start.cursors }⟩)
    (hdescribes : ∀ outcome, answered = some outcome →
      outcome.Describes (registry.workload.run start schedule).store store)
    (hgranted : call.event?.isSome → Thread.granted? ⟨call, some (next reply)⟩ = answered) :
    registry.Linearizes start (schedule ++ [a]) := by
  have hrun : registry.workload.run start (schedule ++ [a]) =
      (registry.workload.run start schedule).exchanged caller call r next reply store := by
    rw [Workload.run_concat, hstep]
  -- the turns of the longer run are those so far and the one that the exchange takes
  have hturns := (registry.inTurn_changes_concat start _ ⟨caller, call, ⟨r, reply⟩⟩).trans hfollow
  change registry.inTurn start
    (changes ((registry.workload.run start schedule).exchanged caller call r next reply
    store).history) = _ at hturns
  rw [← hrun, ← turns] at hturns
  have hcaller := (List.getElem?_eq_some_iff.1 hthread).1
  constructor
  · rw [hturns, hrun]
    rfl
  · rw [hturns, hrun]
    intro x hx
    simp only [System.exchanged, List.length_set]
    rcases List.mem_append.1 hx with hx | hx
    · exact h.caller_lt x hx
    · obtain ⟨outcome, -, rfl⟩ := List.mem_map.1 hx
      exact hcaller
  · rw [hturns]
    intro x hx
    rcases List.mem_append.1 hx with hx | hx
    · exact h.applied x hx
    · obtain ⟨outcome, houtcome, rfl⟩ := List.mem_map.1 hx
      exact ⟨outcome, rfl, (hdescribes outcome (Option.mem_toList.1 houtcome)).isApplied⟩
  · rw [hturns, hrun]
    intro i t ht hrest hevent
    rw [answersTo_append]
    simp only [System.exchanged, List.getElem?_set] at ht
    split at ht
    next hi =>
      -- the call was in progress, and had no answer yet
      subst hi
      obtain rfl := Option.some.inj ht
      rw [if_pos rfl, h.answers _ _ hthread rfl hevent, hgranted hevent]
      rfl
    next hi =>
      rw [if_neg fun heq => hi heq.symm]
      exact h.answers i t ht hrest hevent
  · intro i t outcome ht hevent hreported
    rw [hrun] at ht
    simp only [System.exchanged, List.getElem?_set] at ht
    split at ht
    next hi =>
      -- the answer was given just now, and so the write is this exchange
      subst hi
      obtain rfl := Option.some.inj ht
      refine ⟨schedule, a, [], rfl, ?_⟩
      rw [hrun]
      exact hdescribes outcome ((hgranted hevent).symm.trans hreported)
    next hi =>
      obtain ⟨before, a', after, rfl, hdescribed⟩ := h.recorded i t outcome ht hevent hreported
      exact ⟨before, a', after ++ [a], by simp, hdescribed⟩

/-- An action without an exchange is in line with what came before, if a call that is started by it
has no event granted at once. -/
theorem Linearizes.unchanged (h : registry.Linearizes start schedule)
    (hstore : (registry.workload.run start (schedule ++ [a])).store =
      (registry.workload.run start schedule).store)
    (hhistory : (registry.workload.run start (schedule ++ [a])).history =
      (registry.workload.run start schedule).history)
    (hlength : (registry.workload.run start schedule).threads.length ≤
      (registry.workload.run start (schedule ++ [a])).threads.length)
    (hthreads : ∀ (i : Nat) (t : Thread Call Response),
      (registry.workload.run start (schedule ++ [a])).threads[i]? = some t → t.rest.isSome →
      t.call.event?.isSome → (registry.workload.run start schedule).threads[i]? = some t ∨
        ((registry.workload.run start schedule).threads.length ≤ i ∧ t.granted? = none)) :
    registry.Linearizes start (schedule ++ [a]) := by
  -- no exchange, no turn
  have hturns : registry.turns start (schedule ++ [a]) = registry.turns start schedule := by
    rw [turns, hhistory, turns]
  constructor
  · rw [hturns, hstore]
    exact h.store
  · rw [hturns]
    exact fun x hx => Nat.lt_of_lt_of_le (h.caller_lt x hx) hlength
  · rw [hturns]
    exact h.applied
  · intro i t ht hrest hevent
    rw [hturns]
    rcases hthreads i t ht hrest hevent with ht | ⟨hi, hnone⟩
    · exact h.answers i t ht hrest hevent
    · -- a call that was not started had no turn
      have hnil : (registry.turns start schedule).answersTo i = [] := by
        rw [Turns.answersTo, List.map_eq_nil_iff, List.filter_eq_nil_iff]
        intro x hx
        have hlt := h.caller_lt x hx
        simp only [decide_eq_true_eq]
        omega
      rw [hnil, hnone]
      rfl
  · intro i t outcome ht hevent hgranted
    have hrest : t.rest.isSome := by
      obtain ⟨_, _ | p⟩ := t
      · cases hgranted
      · rfl
    -- a call that was granted something was there before the action
    rcases hthreads i t ht hrest hevent with ht | ⟨-, hnone⟩
    · obtain ⟨before, a', after, rfl, hdescribed⟩ := h.recorded i t outcome ht hevent hgranted
      exact ⟨before, a', after ++ [a], by simp, hdescribed⟩
    · rw [hnone] at hgranted
      cases hgranted

/-- Every run from a coherent store is in line with its turns. The induction is on the `schedule`;
an action makes an exchange, which is served or fails, or it makes none. -/
theorem linearizes (hstart : start.Coherent) (schedule : List (Action Call)) :
    registry.Linearizes start schedule := by
  have hsound := Workload.run_keeps (w := registry.workload) (D := registry.lifecycle)
    registry.keeps_answers hstart
  induction schedule using List.reverseRecOn with
  | nil =>
    constructor
    case store => rfl
    case caller_lt | applied => simp [turns, inTurn, changes, System.ofStore]
    case answers | recorded => simp [System.ofStore]
  | append_singleton schedule a ih =>
    have hbefore := hsound schedule
    rcases registry.workload.step_cases (registry.workload.run start schedule) a with
      ⟨hstore, hhistory, hlength, hthreads⟩ | ⟨caller, call, r, next, hthread, hstep⟩
    · rw [← Workload.run_concat] at hstore hhistory hlength hthreads
      refine ih.unchanged hstore hhistory hlength fun i t ht hrest hevent => ?_
      obtain ⟨p, hp⟩ := Option.isSome_iff_exists.1 hrest
      rcases hthreads i t ht p hp with hthread | ⟨hi, -, hprogram⟩
      · exact .inl hthread
      -- a call that was just started has made no exchange
      refine .inr ⟨Nat.le_of_eq hi.symm, ?_⟩
      obtain ⟨call, rest⟩ := t
      obtain rfl : rest = some p := hp
      rw [hprogram]
      exact granted?_eq_none (registry.keeps_answers call _ hbefore.invariant) hbefore.invariant
        (by simp) hevent
    · obtain ⟨hpermits, hserved, hfailed⟩ :=
        hbefore.keeps caller _ _ hthread rfl _ (MemoryStore.Later.refl _) hbefore.invariant
      rcases hstep with hstep | ⟨e, -, hstep⟩
      · obtain ⟨answered, hfollow, hdescribes, hgranted⟩ :=
          follow_served hbefore.invariant hpermits caller hserved ih.store
        exact ih.exchanged hthread hstep hfollow hdescribes hgranted
      · refine ih.exchanged hthread hstep ?_ (fun _ (h : none = some _) => by cases h)
          fun hevent => ?_
        -- a request that fails is no change
        · have hnone : (⟨caller, call, ⟨r, .error e⟩⟩ : Entry Call).change? = none := by
            cases r <;> rfl
          simp [follow, hnone, ← ih.store]
        · exact granted?_eq_none (hfailed e) hbefore.invariant
            (by simpa using Exchange.written?_error r e) hevent

end Registry

/-- From any store that the calls of `earlier` have left, whatever calls run side by side, in
whatever order their requests are served, and wherever they fail or are abandoned: if just the
events that were applied are applied one after the other in the order of their writes, with the
signatures and the removals of markers in their places, then delegations and markers come out the
same, every event is applied again, and every call that has returned is given the answer that it has
returned. What an answer says is what its write has stored. -/
theorem applied_linearizable (registry : Registry) (earlier schedule : List (Action Call)) :
    registry.Linearizes (registry.workload.run .empty earlier).store schedule :=
  registry.linearizes (registry.run_coherent earlier) schedule

end StakeLedger
