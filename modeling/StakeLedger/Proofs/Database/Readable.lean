import StakeLedger.Proofs.Database.Storable
import StakeLedger.Proofs.Database.Unreadable
import StakeLedger.Proofs.Lifecycle.Rejection

/-!
# What Calls Leave Unreadable

Calls are made in turn of a session with a fresh database that meets no obstacles. As long as the
timelocks that they open end below two to the 63rd, the slashings that they record are of such a
height and of a transaction that a reader accepts, and the ticks are at such a height
(`Call.IsReadable`), no call fails for a cause of the store. The first call that is not readable is
accepted all the same, and leaves a row behind that makes a later call fail.

The main statement is `no_store_failure_iff`.
-/

namespace StakeLedger

/-- The call has ended with a failure of the store, whatever kind of call it was. -/
def Response.IsStoreFailure : Response → Prop
  | applied result => FromStore result
  | signed result => FromStore result
  | scanned result => FromStore result

/-- What an observation records of itself is read back: the transaction and the height of a
slashing. -/
def Observation.IsReadable : Observation → Prop
  | slashingTxObserved transaction height =>
    transaction.encode.length ≤ Transaction.sizeLimit ∧ IsStorableHeight height
  | _ => True

/-- What a call has written is read back, by what it asked and its response: what an applied
observation records, the timelock it has opened, and the height of a tick. -/
def Call.IsReadable : Call → Response → Prop
  | .apply (.observed _ o), .applied (.ok (.applied _ _ _ _ timelock)) =>
    o.IsReadable ∧ ∀ m ∈ timelock, IsStorableHeight m.expireHeight
  | .tick _ (.ok tip), _ => IsStorableHeight tip
  | _, _ => True

instance (h : Height) : Decidable (IsStorableHeight h) := inferInstanceAs (Decidable (_ < _))

instance (o : Observation) : Decidable o.IsReadable := by
  unfold Observation.IsReadable
  split <;> infer_instance

instance (call : Call) (response : Response) : Decidable (call.IsReadable response) := by
  unfold Call.IsReadable
  split <;> infer_instance

/-! ## Plans -/

section

variable {checkpoint : CheckpointParams} {d : Delegation} {t : Transition} {o : Observation}
  {u : StateUpdate}

/-- Only the observation of a slashing plans to record one. -/
theorem plannedUpdate_slashing (h : plannedUpdate checkpoint d t o = .ok u) {s : Slashing}
    (hs : s ∈ u.slashing) :
    o = .slashingTxObserved s.transaction s.spendHeight := by
  cases o with
  | slashingTxObserved transaction spendHeight =>
    obtain rfl := Except.ok.inj h
    obtain rfl := Option.some.inj hs
    rfl
  | inclusionProofConfirmed inclusion tip =>
    rcases plannedUpdate_cases h with ⟨_, _, _, _, _, rfl⟩ | ⟨_, _, _, _, rfl⟩ | ⟨hpath, -⟩
    · cases hs
    · cases hs
    · exact absurd rfl (hpath .timelock)
  | unbondingTxObserved observed =>
    rcases plannedUpdate_cases h with ⟨_, _, _, _, _, rfl⟩ | ⟨_, _, _, _, rfl⟩ | ⟨hpath, -⟩
    · cases hs
    · cases hs
    · exact absurd rfl (hpath .earlyUnbonding)
  | covenantQuorumReached | unbondingTxConfirmed | timelockExpired _ | withdrawalTxObserved =>
    obtain rfl := Except.ok.inj h
    cases hs

/-- The plan `u` is storable if and only if the observation and the timelock that it opens are
readable. -/
theorem StateUpdate.IsPlanned.isStorable_iff (h : u.IsPlanned checkpoint d o) :
    u.IsStorable ↔ o.IsReadable ∧ ∀ m ∈ u.timelock, IsStorableHeight m.expireHeight := by
  constructor
  · refine fun hu => ⟨?_, hu.timelock⟩
    cases o with
    | slashingTxObserved transaction spendHeight =>
      obtain ⟨t, -, hplan⟩ := h
      obtain rfl := Except.ok.inj hplan
      exact ⟨(hu.slashing _ rfl).transaction, (hu.slashing _ rfl).spendHeight⟩
    | _ => trivial
  · rintro ⟨ho, htimelock⟩
    refine ⟨fun start hstart => ?_, htimelock, fun s hs => ?_⟩
    · rcases h.opens with ⟨-, hnone, -⟩ | ⟨m, hm, -, -, hpath⟩
      · rw [hnone] at hstart
        cases hstart
      · -- the timelock runs from the start
        have hend := htimelock m hm
        cases hsub : m.subState with
        | timelock =>
          simp only [hsub] at hpath
          obtain ⟨start', hstart', hsum⟩ := hpath
          obtain rfl : start' = start := Option.some.inj (hstart'.symm.trans hstart)
          exact Nat.lt_of_le_of_lt (by omega) hend
        | earlyUnbonding =>
          simp only [hsub] at hpath
          rw [hpath] at hstart
          cases hstart
    · obtain ⟨t, -, hplan⟩ := h
      obtain rfl := plannedUpdate_slashing hplan hs
      exact ⟨ho.1, ho.2⟩

end

/-! ## Calls -/

variable {s : MemoryStore} {session : Session}

/-- A session without obstacles fails where the database cannot read a row. -/
theorem Session.answer_unreadable (hfree : session.IsFree) {r : Request} {name : String}
    {cause : ColumnFailure}
    (h : (session.database.answer r).1 = .error (.driver (.column name cause))) (retries : Nat) :
    ∃ e session', (backend retries).answer r session = (.error e, session') := by
  have hreply := (answer_eq hfree r retries).1
  rw [h] at hreply
  exact ⟨_, _, Prod.ext hreply rfl⟩

namespace Registry

variable {registry : Registry}

/-- The response of the call is no failure of the store. If the call is readable, the session
mirrors a memory store afterwards; otherwise some call after it fails for a cause of the store. -/
def IsAccounted (registry : Registry) (retries : Nat) (call : Call)
    (result : Response × Session) : Prop :=
  ¬result.1.IsStoreFailure ∧
    ((call.IsReadable result.1 ∧ ∃ s, result.2.Mirrors s) ∨
      (¬call.IsReadable result.1 ∧
        ∃ next, ((registry.program next).run (Session.backend retries) result.2).1.IsStoreFailure))

/-- A call that asks only for what is answered, with a response of this kind, is accounted for. -/
theorem isAccounted_of_isAnswered (h : session.Mirrors s) {call : Call}
    (hcall : (registry.program call).IsAnswered
      (fun response => ¬response.IsStoreFailure ∧ call.IsReadable response) s)
    (retries : Nat) :
    registry.IsAccounted retries call
      ((registry.program call).run (Session.backend retries) session) := by
  obtain ⟨hresult, ⟨hfailure, hreadable⟩, hmirrors⟩ := h.run hcall retries
  rw [← hresult] at hfailure hreadable
  exact ⟨hfailure, .inl ⟨hreadable, _, hmirrors⟩⟩

/-- A plan `u` that is not storable is written nevertheless, and the delegation is not read any
more. -/
theorem run_observed_unstorable (h : session.Mirrors s) {txid : Txid} {d : Delegation}
    (hd : s.delegation? txid = some d) {o : Observation} {u : StateUpdate}
    (hu : u.IsPlanned registry.checkpoint d o) (hunstorable : ¬u.IsStorable) (retries : Nat) :
    ∃ origin target subState session',
      (registry.apply (.observed txid o)).run (Session.backend retries) session =
        (.ok (.applied txid origin target subState u.timelock), session') ∧
      ∃ e session'', (Session.backend retries).answer (.getDelegation txid) session' =
        (.error e, session'') := by
  obtain rfl := h.database.storable.keyed txid d hd
  obtain ⟨found, read, hfound, hread, hmirrors⟩ :=
    h.answer (r := .getDelegation d.txid) trivial retries
  obtain rfl : some d = found := hd.symm.trans (Except.ok.inj hfound)
  have horigin : d.state ∈ u.origins := by simp [hu.move.1]
  obtain ⟨happlied, name, cause, hunread⟩ :=
    hmirrors.database.updateState_unstorable hd horigin hunstorable
  have hanswer : read.database.answer (.updateState d.txid u) =
      (.ok .applied, (read.database.updateState d.txid u).2) := by
    rw [← happlied]
    rfl
  obtain ⟨session', hupdate, hfree, hdatabase⟩ :=
    Session.answer_of_database hmirrors.free hanswer retries
  have hfails : (session'.database.answer (.getDelegation d.txid)).1 =
      .error (.driver (.column name cause)) := by
    rw [hdatabase]
    exact hunread
  obtain ⟨t, ht, hplan⟩ := hu
  refine ⟨some t.origin, t.target, t.subState.or d.subState, session', ?_,
    Session.answer_unreadable hfree hfails retries⟩
  rw [apply, Program.run_request hread]
  simp only [transition, ht, hplan]
  rw [Program.run_request hupdate]
  rfl

/-- If the plan of an observation is not storable, the next read of the delegation fails; otherwise
the observation is answered as by the memory store. -/
theorem isAccounted_observed (h : session.Mirrors s) (txid : Txid) (o : Observation)
    (retries : Nat) :
    registry.IsAccounted retries (.apply (.observed txid o))
      ((registry.program (.apply (.observed txid o))).run (Session.backend retries) session) := by
  by_cases hplan : ∀ d (u : StateUpdate), s.delegation? txid = some d →
      u.IsPlanned registry.checkpoint d o → u.IsStorable
  · refine isAccounted_of_isAnswered h ?_ retries
    refine Program.IsAnswered.bind (Q := fun result => ¬FromStore result ∧
      (Call.apply (.observed txid o)).IsReadable (.applied result))
      (isAnswered_observed (fun d u hd hu => ?_) ?_ fun e he => ⟨he, trivial⟩) fun _ _ hresult =>
        hresult
    · have hstorable := hplan d u hd hu
      exact ⟨hstorable, fun _ _ _ => ⟨by simp, hu.isStorable_iff.1 hstorable⟩⟩
    · exact fun _ _ _ => ⟨by simp, trivial⟩
  · push Not at hplan
    obtain ⟨d, u, hd, hu, hunstorable⟩ := hplan
    obtain ⟨origin, target, subState, session', hrun, e, session'', hread⟩ :=
      run_observed_unstorable h hd hu hunstorable retries
    rw [program, Program.run_bind_done, hrun]
    refine ⟨not_fromStore_ok _, .inr ⟨fun hreadable => hunstorable (hu.isStorable_iff.2 hreadable),
      .apply (.observed txid .withdrawalTxObserved), ?_⟩⟩
    rw [program, Program.run_bind_done, apply, Program.run_request_error hread]
    exact ⟨e, rfl⟩

/-- A scan at a height that is stored as a negative number finds nothing to do. -/
theorem run_scan_unstorable (registry : Registry) (h : session.Mirrors s) {tip : Height}
    (htip : ¬IsStorableHeight tip) (pageSize retries : Nat) :
    ∃ session', (registry.scan pageSize tip).run (Session.backend retries) session =
      (.ok (.start tip), session') ∧ session'.Mirrors s := by
  have hanswer : session.database.answer (.dueMarkers tip none pageSize) =
      (.ok [], session.database) := by
    rw [Database.answer, h.database.dueMarkers_negative htip]
  obtain ⟨session', hpage, hfree, hdatabase⟩ := Session.answer_of_database h.free hanswer retries
  refine ⟨session', ?_, hfree, hdatabase ▸ h.database, h.paced⟩
  rw [scan, scanAfter, Program.run_request hpage]
  rfl

/-- A tick at a height that is stored as a negative number advances the cursor, which is not read
any more. -/
theorem run_tick_unstorable (registry : Registry) (h : session.Mirrors s) {tip : Height}
    (htip : ¬IsStorableHeight tip) (pageSize retries : Nat) :
    ∃ session', (registry.tick pageSize (.ok tip)).run (Session.backend retries) session =
        (.ok (.start tip), session') ∧
      ∃ e session'', (Session.backend retries).answer (.getCursor scannerCursor) session' =
        (.error e, session'') := by
  obtain ⟨cursor, read, hcursor, hread, hmirrors⟩ :=
    h.answer (r := .getCursor scannerCursor) trivial retries
  obtain rfl : s.cursor scannerCursor = cursor := Except.ok.inj hcursor
  obtain ⟨scanned, hscan, hscanned⟩ := registry.run_scan_unstorable hmirrors htip pageSize retries
  -- the height of the cursor is storable, so that the tick raises it
  have hlt : (s.cursor scannerCursor).height < tip :=
    UInt64.lt_iff_toNat_lt.2 (Nat.lt_of_lt_of_le (h.paced scannerCursor).2 (Nat.le_of_not_lt htip))
  obtain ⟨hadvanced, hunread⟩ := hscanned.database.advanceCursor_unstorable scannerCursor htip
  have hanswer : scanned.database.answer
      (.advanceCursor scannerCursor (s.cursor scannerCursor).version tip) =
      (.ok (.advanced ⟨tip, (s.cursor scannerCursor).version + 1⟩),
        (scanned.database.advanceCursor scannerCursor (s.cursor scannerCursor).version tip).2) :=
    Prod.ext hadvanced rfl
  obtain ⟨session', hadvance, hfree, hdatabase⟩ :=
    Session.answer_of_database hscanned.free hanswer retries
  have hfails : (session'.database.answer (.getCursor scannerCursor)).1 =
      .error (.driver (.column "height" .negativeHeight)) := by
    rw [hdatabase]
    exact hunread
  refine ⟨session', ?_, Session.answer_unreadable hfree hfails retries⟩
  rw [tick, Program.run_request hread, Program.run_bind, hscan]
  dsimp only
  rw [if_pos hlt, Program.run_request hadvance]
  rfl

/-- Every call is accounted for, in any session that mirrors a memory store. -/
theorem isAccounted (h : session.Mirrors s) (call : Call) (retries : Nat) :
    registry.IsAccounted retries call
      ((registry.program call).run (Session.backend retries) session) := by
  cases call with
  | apply event =>
    cases event with
    | newStake stake =>
      refine isAccounted_of_isAnswered h ?_ retries
      exact (isAnswered_create stake).bind fun _ _ hresult => ⟨hresult, trivial⟩
    | observed txid o => exact isAccounted_observed h txid o retries
  | sign txid key signature =>
    refine isAccounted_of_isAnswered h ?_ retries
    exact (isAnswered_sign txid key signature).bind fun _ _ hresult => ⟨hresult, trivial⟩
  | scan pageSize tip =>
    by_cases htip : IsStorableHeight tip
    · -- a scan at a storable height asks for storable things only
      refine isAccounted_of_isAnswered h ?_ retries
      exact (isAnswered_scanAfter h htip (by simp) pageSize _).bind fun _ _ hresult =>
        ⟨hresult, trivial⟩
    · -- at any other height it finds nothing, and leaves the store readable
      obtain ⟨session', hrun, hmirrors⟩ := registry.run_scan_unstorable h htip pageSize retries
      rw [program, Program.run_bind_done, hrun]
      exact ⟨not_fromStore_ok _, .inl ⟨trivial, s, hmirrors⟩⟩
  | tick pageSize tip =>
    by_cases htip : ∀ height, tip = .ok height → IsStorableHeight height
    · refine isAccounted_of_isAnswered h ?_ retries
      refine (isAnswered_tick h pageSize htip).bind fun _ _ hresult => ⟨hresult, ?_⟩
      cases tip with
      | error e => trivial
      | ok height => exact htip height rfl
    · push Not at htip
      obtain ⟨height, rfl, hunstorable⟩ := htip
      obtain ⟨session', hrun, e, session'', hread⟩ :=
        registry.run_tick_unstorable h hunstorable pageSize retries
      rw [program, Program.run_bind_done, hrun]
      -- the tick went through, and the cursor that it wrote fails the next one
      refine ⟨not_fromStore_ok _, .inr ⟨hunstorable, .tick 0 (.ok 0), ?_⟩⟩
      rw [program, Program.run_bind_done, tick, Program.run_request_error hread]
      exact ⟨e, rfl⟩

/-- The session after `calls` were made in turn, from a fresh database. -/
def sessionAfter (registry : Registry) (retries : Nat) (calls : List Call) : Session :=
  calls.foldl (fun session call =>
    ((registry.program call).run (Session.backend retries) session).2) .fresh

/-- The response to `call` after `calls` were made in turn. -/
def responseAfter (registry : Registry) (retries : Nat) (calls : List Call) (call : Call) :
    Response :=
  ((registry.program call).run (Session.backend retries) (registry.sessionAfter retries calls)).1

/-- The session after one more call is what its program leaves. -/
theorem sessionAfter_concat (registry : Registry) (retries : Nat) (calls : List Call)
    (call : Call) :
    registry.sessionAfter retries (calls ++ [call]) =
      ((registry.program call).run (Session.backend retries)
        (registry.sessionAfter retries calls)).2 := by
  rw [sessionAfter, List.foldl_append]
  rfl

/-- All of `calls`, made in turn, are readable by the responses they get. -/
def IsReadable (registry : Registry) (retries : Nat) (calls : List Call) : Prop :=
  ∀ earlier call, earlier ++ [call] <+: calls →
    call.IsReadable (registry.responseAfter retries earlier call)

/-- Readable calls leave a session that mirrors a memory store, by induction from the front. -/
theorem IsReadable.mirrors {retries : Nat} {calls : List Call}
    (h : registry.IsReadable retries calls) :
    ∃ s, (registry.sessionAfter retries calls).Mirrors s := by
  induction calls using List.reverseRecOn with
  | nil => exact ⟨_, .fresh⟩
  | append_singleton calls call ih =>
    obtain ⟨s, hs⟩ := ih fun earlier call' hearlier =>
      h earlier call' (hearlier.trans (List.prefix_append _ _))
    rw [sessionAfter_concat]
    rcases (isAccounted hs call retries).2 with ⟨-, hmirrors⟩ | ⟨hunreadable, -⟩
    · exact hmirrors
    · exact absurd (h calls call (List.prefix_refl _)) hunreadable

theorem not_isReadable_concat {registry : Registry} {retries : Nat} {earlier : List Call}
    {call : Call} (hcall : ¬call.IsReadable (registry.responseAfter retries earlier call)) :
    ¬registry.IsReadable retries (earlier ++ [call]) :=
  fun h => hcall (h earlier call (List.prefix_refl _))

end Registry

/-- Calls of a fresh database without obstacles, made in turn, never come to a point at which some
`next` call fails for a cause of the store exactly if all of them are readable. -/
theorem no_store_failure_iff (registry : Registry) (retries : Nat) (calls : List Call) :
    (∀ earlier, earlier <+: calls → ∀ next,
      ¬(registry.responseAfter retries earlier next).IsStoreFailure) ↔
      registry.IsReadable retries calls := by
  constructor
  · intro h
    -- by induction on the calls: those before the last one are readable, and so mirrored
    induction calls using List.reverseRecOn with
    | nil =>
      intro earlier call hfirst
      simp at hfirst
    | append_singleton calls call ih =>
      have hreadable := ih fun earlier hearlier =>
        h earlier (hearlier.trans (List.prefix_append _ _))
      obtain ⟨s, hs⟩ := hreadable.mirrors
      intro earlier call' hfirst
      rcases List.prefix_concat_iff.1 hfirst with heq | hearlier
      · obtain ⟨rfl, hcall⟩ := List.append_inj' heq rfl
        obtain rfl := List.singleton_inj.1 hcall
        rcases (Registry.isAccounted hs call' retries).2 with ⟨hcall', -⟩ | ⟨-, next, hnext⟩
        · exact hcall'
        · -- the call that is not readable is followed by one that fails
          refine absurd ?_ (h _ (List.prefix_refl _) next)
          rwa [Registry.responseAfter, Registry.sessionAfter_concat]
      · exact hreadable earlier call' hearlier
  · intro h earlier hearlier next
    have hreadable : registry.IsReadable retries earlier := fun earlier' call hfirst =>
      h earlier' call (hfirst.trans hearlier)
    obtain ⟨s, hs⟩ := hreadable.mirrors
    exact (Registry.isAccounted hs next retries).1

/-- A stake is included at two to the 63rd. -/
def lateInclusion : Call :=
  .apply (.observed ⟨0⟩ (.inclusionProofConfirmed 9223372036854775808 9223372036854775808))

/-- The inclusion is accepted, and some call after it fails for a cause of the store. -/
theorem lateInclusion_unreadable :
    ¬∀ earlier, earlier <+: [.apply (.newStake loneStake)] ++ [lateInclusion] → ∀ next,
      ¬(loneRegistry.responseAfter 3 earlier next).IsStoreFailure := by
  have hunreadable : ¬lateInclusion.IsReadable
      (loneRegistry.responseAfter 3 [.apply (.newStake loneStake)] lateInclusion) := by
    decide +kernel
  rw [no_store_failure_iff]
  exact Registry.not_isReadable_concat hunreadable

end StakeLedger
