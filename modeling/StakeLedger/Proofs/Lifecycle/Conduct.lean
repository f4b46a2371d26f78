import StakeLedger.Proofs.Expiry.Paging
import StakeLedger.Proofs.Lifecycle.Decision

/-!
# Every Call Keeps to the Discipline

The programs of the ledger are gone through request by request. On the way it is shown what the
verdict on an observation says about the delegation (`Verdict`): whoever is told that the expiry of
a timelock was applied or came too late can rely on the delegation having left the state that waits
for it. That is why a scan may remove the marker, even if it lost a race for the delegation.

The main statement is `Registry.keeps_program`. It makes every run keep records and queue coherent
(`Registry.run_coherent`) and develop the store in one direction (`Registry.run_later`).
-/

namespace StakeLedger

namespace Registry

variable {registry : Registry} {call : Call} {α : Type}

/-! ## Applying an Event -/

/-- What a verdict on the observation `o` says about the delegation: it was moved from the state it
was `seen` in; or it was seen in a state that the observation does not fit; or it had moved on
before it could be written. -/
def Verdict (txid : Txid) (o : Observation) (seen : Delegation) : Outcome → MemoryStore → Prop
  | .applied _ _ _ _ _, s => ∃ d, s.delegation? txid = some d ∧
      seen.state ∈ o.kind.qualified ∧ seen.state.rank < d.state.rank
  | .rejected txid' attempted current, s => txid' = txid ∧ attempted = some o.kind ∧
      ∃ state d, current = some state ∧ s.delegation? txid = some d ∧ state.rank ≤ d.state.rank ∧
        ((seen.state ∉ o.kind.qualified ∧ state = seen.state) ∨
          (seen.state ∈ o.kind.qualified ∧ seen.state.rank < state.rank))

/-- A verdict on `o` stays true on a later store, since a delegation does not come back. -/
theorem Verdict.later {txid : Txid} {o : Observation} {seen : Delegation} {outcome : Outcome}
    {s s' : MemoryStore} (h : Verdict txid o seen outcome s) (hs : s.Later s') :
    Verdict txid o seen outcome s' := by
  cases outcome with
  | applied =>
    obtain ⟨d, hd, hq, hrank⟩ := h
    obtain ⟨d', hd', hadv⟩ := hs _ _ hd
    exact ⟨d', hd', hq, Nat.lt_of_lt_of_le hrank hadv.rank_le⟩
  | rejected =>
    obtain ⟨htxid, hattempted, state, d, hcurrent, hd, hle, hcase⟩ := h
    obtain ⟨d', hd', hadv⟩ := hs _ _ hd
    exact ⟨htxid, hattempted, state, d', hcurrent, hd', Nat.le_trans hle hadv.rank_le, hcase⟩

/-- What was decided about an observation is a `Verdict`, unless it is a failure. -/
theorem Decided.verdict {txid : Txid} {o : Observation} {seen : Delegation} {log : List Exchange}
    {outcome : Outcome} {s : MemoryStore} (h : registry.Decided txid o seen log (.ok outcome) s) :
    Verdict txid o seen outcome s := by
  cases h with
  | refused hseen hd hadv => exact ⟨rfl, rfl, _, _, rfl, hd, hadv.rank_le, .inl ⟨hseen, rfl⟩⟩
  | moved hplan hd hadv =>
    exact ⟨_, hd, hplan.move.2.2, Nat.lt_of_lt_of_le hplan.rank_lt hadv.rank_le⟩
  | overtaken hplan hmoved hd hadv =>
    exact ⟨rfl, rfl, _, _, rfl, hd, hadv.rank_le, .inr ⟨hplan.move.2.2, hmoved⟩⟩

/-- An observation keeps to `lifecycle`, and its outcome is a `Verdict` on the record that it reads
first. -/
theorem keeps_observed {txid : Txid} {o : Observation} {log : List Exchange} {s : MemoryStore}
    (hasks : call.Asks txid o) :
    (registry.apply (.observed txid o)).Keeps registry.lifecycle call
      (fun log' result s' => ∀ outcome, result = .ok outcome → ∃ seen rest,
        log' = log ++ ⟨.getDelegation txid, .ok (some seen)⟩ :: rest ∧
        (∀ d, s.delegation? txid = some d → d.Advances seen) ∧ Verdict txid o seen outcome s')
      log s := by
  refine (keeps_decided hasks).imp ?_
  rintro log' result s' (⟨seen, rest, hlog, hadv, hdecided⟩ | ⟨_, _, -, rfl⟩) outcome hout
  · exact ⟨seen, rest, hlog, hadv, (hout ▸ hdecided).verdict⟩
  -- there is no verdict on a failure
  · cases hout

/-- A new stake keeps to `lifecycle`: its delegation is created from the stake that was asked for. A
repetition attempts no transition. -/
theorem keeps_create {stake : Stake} (hcall : call = .apply (.newStake stake)) {log : List Exchange}
    {s : MemoryStore} :
    (registry.create stake).Keeps registry.lifecycle call
      (fun _ result _ => ∀ txid attempted current,
        result = .ok (.rejected txid attempted current) → attempted = none) log s := by
  refine (keeps_received hcall).imp ?_
  rintro log' result s' ⟨rest, -, hreceived⟩ txid attempted current rfl
  cases hreceived
  rfl

/-! ## Storing a Signature -/

/-- The condition that every result meets. -/
abbrev anyResult {β : Type} : List Exchange → β → MemoryStore → Prop := fun _ _ _ => True

/-- A request of which nothing is learned keeps to `lifecycle` if it is always permitted. -/
theorem keeps_plain_request {r : Request} {next : r.Answer → Program (Except TrackingError α)}
    {log : List Exchange} {s : MemoryStore} (hp : ∀ s, registry.Permits call r s)
    (hnext : ∀ a log s, (next a).Keeps registry.lifecycle call anyResult log s) :
    (Program.request r next).Keeps registry.lifecycle call anyResult log s :=
  Program.Keeps.request (fun _ _ => trivial) fun s' _ _ => ⟨hp s', fun a _ => hnext a _ _⟩

/-- A program that is done keeps to `lifecycle`, if nothing is asked of its result. -/
theorem keeps_done (a : α) (log : List Exchange) (s : MemoryStore) :
    (Program.done a).Keeps registry.lifecycle call anyResult log s :=
  Program.Keeps.done fun _ _ _ => trivial

/-- A program may go on in any way that keeps to `lifecycle`. -/
theorem keeps_bind {β : Type} {p : Program α} {f : α → Program β} {log : List Exchange}
    {s : MemoryStore} (h : p.Keeps registry.lifecycle call anyResult log s)
    (hf : ∀ a log s, (f a).Keeps registry.lifecycle call anyResult log s) :
    (p.bind f).Keeps registry.lifecycle call anyResult log s :=
  Program.Keeps.bind (h.imp fun log a s _ => hf a log s)

/-- Recording a signature writes nothing else, and keeps to `lifecycle`. -/
theorem keeps_recordSignature (txid : Txid) (key : XOnlyKey) (signature : Signature)
    (log : List Exchange) (s : MemoryStore) :
    (registry.recordSignature txid key signature).Keeps registry.lifecycle call
        anyResult log s := by
  refine keeps_plain_request (fun _ => trivial) fun a log s => ?_
  cases a with
  | none => exact keeps_done _ log s
  | some d =>
    dsimp only
    split
    next => exact keeps_done _ log s
    -- the one request that writes is `saveSignature`, made for a member
    next params hparams =>
      split
      next =>
        refine keeps_plain_request (fun _ => trivial) fun a log s => ?_
        cases a with
        | inserted total => exact keeps_done _ log s
        | alreadyExists => exact keeps_done _ log s
      next => exact keeps_done _ log s

/-- Counting signatures writes nothing, and keeps to `lifecycle`. -/
theorem keeps_tally (txid : Txid) (log : List Exchange) (s : MemoryStore) :
    (registry.tally txid).Keeps registry.lifecycle call anyResult log s := by
  refine keeps_plain_request (fun _ => trivial) fun a log s => ?_
  cases a with
  | none => exact keeps_done _ log s
  | some d =>
    dsimp only
    split
    next => exact keeps_done _ log s
    next => exact keeps_done _ log s

/-- The call `sign` keeps to `lifecycle`: a signature may be followed by the quorum transition of
its delegation. -/
theorem keeps_sign (txid : Txid) (key : XOnlyKey) (signature : Signature) (log : List Exchange)
    (s : MemoryStore) :
    (registry.sign txid key signature).Keeps registry.lifecycle (.sign txid key signature) anyResult
      log s := by
  -- the quorum is the only observation that the call of a signature may make
  have hasks : Call.Asks txid .covenantQuorumReached (.sign txid key signature) := ⟨rfl, rfl⟩
  have hquorum : ∀ log s, (registry.applyQuorum txid).Keeps registry.lifecycle
      (.sign txid key signature) anyResult log s :=
    fun log s => (keeps_observed hasks).imp fun _ _ _ _ => trivial
  refine keeps_bind (keeps_recordSignature txid key signature log s) fun result log s => ?_
  split
  next receipt =>
    -- the signature is stored: it crosses the quorum, comes after it, or before it
    split
    · refine keeps_bind (hquorum log s) fun outcome log s => ?_
      cases outcome <;> exact keeps_done _ log s
    · split
      · refine keeps_bind (hquorum log s) fun outcome log s => ?_
        cases outcome <;> exact keeps_done _ log s
      · exact keeps_done _ log s
  next =>
    -- the key has signed before
    refine keeps_bind (keeps_tally txid log s) fun receipt log s => ?_
    cases receipt with
    | error e => exact keeps_done _ log s
    | ok receipt =>
      dsimp only
      split
      · refine keeps_bind (hquorum log s) fun outcome log s => ?_
        cases outcome with
        | error e => exact keeps_done _ log s
        | ok outcome =>
          dsimp only
          split <;> exact keeps_done _ log s
      · exact keeps_done _ log s
  next => exact keeps_done _ log s

/-! ## Scanning -/

/-- The delegation of the marker `m` has come to the state that waits for it. -/
def IsReached (s : MemoryStore) (m : Marker) : Prop :=
  ∃ d, s.delegation? m.txid = some d ∧ m.subState.awaited.rank ≤ d.state.rank

/-- What was reached stays reached on a later store. -/
theorem IsReached.later {s s' : MemoryStore} {m : Marker} (h : IsReached s m) (hs : s.Later s') :
    IsReached s' m := by
  obtain ⟨d, hd, hrank⟩ := h
  obtain ⟨d', hd', hadv⟩ := hs m.txid d hd
  exact ⟨d', hd', Nat.le_trans hrank hadv.rank_le⟩

/-- A state at or above the one that waits for `path` is either that state or past it. -/
theorem awaited_rank_lt {path : SubState} {state : State}
    (hreached : path.awaited.rank ≤ state.rank) (hne : state ≠ path.awaited) :
    path.awaited.rank < state.rank := by
  cases path <;> cases state <;> first | exact absurd rfl hne | revert hreached; decide

/-- Once there is a verdict on the expiry of a marker that was reached, nothing waits for the marker
any more. -/
theorem Verdict.isSettled {m : Marker} {seen : Delegation} {outcome : Outcome} {s : MemoryStore}
    (hreached : m.subState.awaited.rank ≤ seen.state.rank)
    (h : Verdict m.txid (.timelockExpired m.subState) seen outcome s) : s.IsSettled m := by
  have hqualified : seen.state ∈ (Observation.timelockExpired m.subState).kind.qualified ↔
      seen.state = m.subState.awaited := by
    change seen.state ∈ (TransitionKind.timelockExpired m.subState).qualified ↔ _
    rw [TransitionKind.qualified_timelockExpired, List.mem_singleton]
  cases outcome with
  | applied =>
    obtain ⟨d, hd, hq, hrank⟩ := h
    exact ⟨d, hd, Nat.lt_of_le_of_lt hreached hrank⟩
  | rejected =>
    obtain ⟨-, -, state, d, -, hd, hle, ⟨hq, rfl⟩ | ⟨-, hlt⟩⟩ := h
    -- it was rejected as it was read, at or above the state that waits, and hence past it
    · rw [hqualified] at hq
      exact ⟨d, hd, Nat.lt_of_lt_of_le (awaited_rank_lt hreached hq) hle⟩
    -- another writer has moved it on
    · exact ⟨d, hd, Nat.lt_of_le_of_lt hreached (Nat.lt_of_lt_of_le hlt hle)⟩

/-- Handling a marker that was reached keeps to `lifecycle`: the marker is removed whatever the
verdict on its expiry was, by `Verdict.isSettled`. -/
theorem keeps_handleMarker {m : Marker} {s : MemoryStore}
    (hasks : call.Asks m.txid (.timelockExpired m.subState)) (hm : IsReached s m)
    (report : ScanReport) (log : List Exchange) :
    (registry.handleMarker m report).Keeps registry.lifecycle call anyResult log s := by
  refine keeps_handling ((keeps_observed hasks).imp fun log' result s' h outcome hout => ?_)
  obtain ⟨seen, -, -, hadv, hverdict⟩ := h outcome hout
  obtain ⟨d, hd, hrank⟩ := hm
  exact hverdict.isSettled (Nat.le_trans hrank (hadv d hd).rank_le)

/-- A scan keeps to `lifecycle`: it removes what it has handled. -/
theorem keeps_scanAfter (hasks : ∀ txid path, call.Asks txid (.timelockExpired path))
    (pageSize : Nat) (tip : Height) (after : Option Marker) (report : ScanReport)
    (log : List Exchange) (s : MemoryStore) :
    (registry.scanAfter pageSize tip after report).Keeps registry.lifecycle call
        anyResult log s := by
  -- the markers of a page were reached when it was fetched, and stay so
  refine keeps_scanning (P := fun m s => IsReached s m) (fun m s s' hm hs => hm.later hs)
    (fun m report log s hm => keeps_handleMarker (hasks _ _) hm report log) (fun _ _ _ => trivial)
    (fun m s hinv hm _ => ?_) after
  obtain ⟨d, hd, hfit⟩ := hinv.fits m hm
  exact ⟨d, hd, hfit.reached⟩

/-- A tick keeps to `lifecycle`: it writes nothing but its cursor besides what its scan writes. -/
theorem keeps_tick (hasks : ∀ txid path, call.Asks txid (.timelockExpired path)) (pageSize : Nat)
    (tip : Except ChainError Height) (log : List Exchange) (s : MemoryStore) :
    (registry.tick pageSize tip).Keeps registry.lifecycle call anyResult log s := by
  cases tip with
  | error e => exact keeps_done _ _ _
  | ok tip =>
    refine keeps_plain_request (fun _ => trivial) fun cursor log s => ?_
    refine keeps_bind (keeps_scanAfter hasks pageSize tip none _ log s) fun result log s => ?_
    cases result with
    | error e => exact keeps_done _ _ _
    | ok report =>
      dsimp only
      split
      · exact keeps_plain_request (fun _ => trivial) fun _ log s => keeps_done _ log s
      · exact keeps_done _ _ _

/-! ## Every Call -/

/-- What is known of the result of a call, from its exchanges: the `Verdict` on an observation goes
back to the record that was read first. -/
def Concluded : Call → List Exchange → Response → MemoryStore → Prop
  | .apply (.newStake _), _, .applied result, _ => ∀ txid attempted current,
      result = .ok (.rejected txid attempted current) → attempted = none
  | .apply (.observed txid o), log, .applied result, s => ∀ outcome, result = .ok outcome →
      ∃ seen rest, log = ⟨.getDelegation txid, .ok (some seen)⟩ :: rest ∧
        Verdict txid o seen outcome s
  | _, _, _, _ => True

/-- Every call keeps to `lifecycle`, and ends as `Concluded` says. -/
theorem keeps_program (registry : Registry) (call : Call) (s : MemoryStore)
    (_ : registry.lifecycle.Invariant s) :
    (registry.workload.program call).Keeps registry.lifecycle call (Concluded call) [] s := by
  cases call with
  | apply event =>
    cases event with
    | newStake stake =>
      refine Program.Keeps.bind ((keeps_create rfl).imp fun log result s h => ?_)
      exact Program.Keeps.done fun _ _ _ => h
    | observed txid o =>
      have hasks : Call.Asks txid o (.apply (.observed txid o)) := rfl
      refine Program.Keeps.bind ((keeps_observed hasks).imp fun log result s h => ?_)
      refine Program.Keeps.done fun s' hlater _ outcome hout => ?_
      -- the verdict was given on an earlier store, and stays true of later ones
      obtain ⟨seen, rest, rfl, -, hverdict⟩ := h outcome hout
      exact ⟨seen, rest, rfl, hverdict.later hlater⟩
  | sign txid key signature =>
    exact keeps_bind (keeps_sign txid key signature [] s) fun _ log s => keeps_done _ log s
  | scan pageSize tip =>
    have hasks : ∀ txid path, Call.Asks txid (.timelockExpired path) (.scan pageSize tip) :=
      fun _ path => ⟨path, rfl⟩
    exact keeps_bind (keeps_scanAfter hasks pageSize tip none _ [] s) fun _ log s =>
      keeps_done _ log s
  | tick pageSize tip =>
    have hasks : ∀ txid path, Call.Asks txid (.timelockExpired path) (.tick pageSize tip) :=
      fun _ path => ⟨path, rfl⟩
    exact keeps_bind (keeps_tick hasks pageSize tip [] s) fun _ log s => keeps_done _ log s

/-- Records and queue are coherent after every `schedule`. -/
theorem run_coherent (registry : Registry) (schedule : List (Action Call)) :
    (registry.workload.run .empty schedule).store.Coherent := by
  have hsound := Workload.run_keeps (w := registry.workload) (D := registry.lifecycle)
    registry.keeps_program MemoryStore.coherent_empty schedule
  exact hsound.invariant

/-- A run that goes on, by the actions in `more`, loses no record, and every record advances. -/
theorem run_later (registry : Registry) (schedule more : List (Action Call)) :
    (registry.workload.run .empty schedule).store.Later
      (registry.workload.run .empty (schedule ++ more)).store := by
  exact Workload.run_later (w := registry.workload) (D := registry.lifecycle)
    registry.keeps_program MemoryStore.coherent_empty schedule more

end Registry

end StakeLedger
