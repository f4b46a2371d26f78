import StakeLedger.Proofs.Expiry.Advance

/-!
# Ticks that Take Turns

A tick asks for the cursor of the scanner to be advanced as the last thing it does, and only after a
scan at its height has come to a report (`Registry.leadsTo_program`). In every run, the cursor
therefore only takes heights that have been scanned before, and a tick that was overtaken by another
one still has its report (`scanner_cursor_moves_forward`).
-/

namespace StakeLedger

/-- What a tick with a `report` comes to when its last request is replied to. -/
def ScanReport.after (report : ScanReport) {r : Request} : Reply r → Except TrackingError ScanReport
  | .ok _ => .ok report
  | .error e => .error (.store e)

namespace Registry

/-! ## What a Tick Has Done -/

/-- A tick has read the cursor `seen`, and its scan at `tip` has come to `result`, by the exchanges
of `log`. -/
def HasScanned (registry : Registry) (pageSize : Nat) (tip : Height) (seen : Cursor)
    (result : Except TrackingError ScanReport) (log : List Exchange) : Prop :=
  ∃ scanned, log = ⟨.getCursor scannerCursor, .ok seen⟩ :: scanned ∧
    (registry.scan pageSize tip).LeadsTo scanned (.done result)

/-- The height of a tick could not be had, or its cursor could not be read, or its scan has failed,
as the exchanges of a log tell. -/
inductive HasFailed (registry : Registry) (pageSize : Nat) :
    Except ChainError Height → List Exchange → Prop where
  /-- The end of the chain is unknown; there is nothing to scan. -/
  | tip (e : ChainError) (log : List Exchange) : HasFailed registry pageSize (.error e) log
  /-- The cursor `scannerCursor` could not be read. -/
  | cursor (tip : Except ChainError Height) (e : StoreError) (rest : List Exchange) :
    HasFailed registry pageSize tip (⟨.getCursor scannerCursor, .error e⟩ :: rest)
  /-- The scan has failed by `e`. -/
  | scan {tip : Height} {seen : Cursor} {e : TrackingError} {before : List Exchange}
    (h : registry.HasScanned pageSize tip seen (.error e) before) (rest : List Exchange) :
    HasFailed registry pageSize (.ok tip) (before ++ rest)

/-- What a tick has done that has asked for the cursor to be advanced: it has nothing left to
ask. -/
inductive HasAsked (registry : Registry) : Call → List Exchange → Program Response → Prop where
  /-- The height `tip` is greater than that of the cursor, and was scanned. -/
  | tick {pageSize : Nat} {tip : Height} {seen : Cursor} {report : ScanReport}
    {before : List Exchange}
    (h : registry.HasScanned pageSize tip seen (.ok report) before) (hlt : seen.height < tip)
    (reply : Reply (.advanceCursor scannerCursor seen.version tip)) :
    HasAsked registry (.tick pageSize (.ok tip))
      (before ++ [⟨.advanceCursor scannerCursor seen.version tip, reply⟩])
      (.done (.scanned (report.after reply)))

variable {registry : Registry} {call : Call} {pageSize : Nat} {tip : Height} {seen seen' : Cursor}
  {log before before' rest rest' : List Exchange} {result result' : Except TrackingError ScanReport}

/-- Reading the cursor and scanning ask for no advance. -/
theorem HasScanned.method_ne (h : registry.HasScanned pageSize tip seen result log) :
    ∀ e ∈ log, e.request.method ≠ .advanceCursor := by
  obtain ⟨scanned, rfl, hscan⟩ := h
  intro e he
  rcases List.mem_cons.1 he with rfl | he
  · exact Method.noConfusion
  · exact hscan.onlyAsks (registry.onlyAsks_scan_method pageSize tip) e he

/-- The scan of a tick comes to one result, for the exchanges `before` the others determine it. -/
theorem HasScanned.result_unique (h : registry.HasScanned pageSize tip seen result before)
    (h' : registry.HasScanned pageSize tip seen' result' before')
    (hlog : before ++ rest = before' ++ rest') :
    result = result' := by
  obtain ⟨scanned, rfl, hscan⟩ := h
  obtain ⟨scanned', rfl, hscan'⟩ := h'
  exact (hscan.end_unique hscan' (List.cons.inj hlog).2).2

/-- A tick has not asked for an advance, or has scanned and got a `reply` to it. -/
theorem leadsTo_tick {q : Program (Except TrackingError ScanReport)}
    (h : (registry.tick pageSize (.ok tip)).LeadsTo log q) :
    (∀ e ∈ log, e.request.method ≠ .advanceCursor) ∨
    ∃ seen report before reply, registry.HasScanned pageSize tip seen (.ok report) before ∧
      seen.height < tip ∧
      log = before ++ [⟨.advanceCursor scannerCursor seen.version tip, reply⟩] ∧
      q = .done (report.after reply) := by
  rcases h.request_cases with ⟨rfl, -⟩ | ⟨e, rfl, -⟩ | ⟨seen, rest, rfl, hrest⟩
  · exact .inl (by simp)
  · exact .inl (by simp [Request.method])
  rcases hrest.bind_cases with ⟨p', hscan, -⟩ | ⟨scanned, result, last, rfl, hscan, hlast⟩
  -- the scan is under way
  · have honly := hscan.onlyAsks (registry.onlyAsks_scan_method pageSize tip)
    exact .inl (List.forall_mem_cons.2 ⟨Method.noConfusion, honly⟩)
  have hscanned : registry.HasScanned pageSize tip seen result
      (⟨.getCursor scannerCursor, .ok seen⟩ :: scanned) :=
    ⟨scanned, rfl, hscan⟩
  have hquiet : last = [] →
      ∀ e ∈ (⟨.getCursor scannerCursor, .ok seen⟩ :: (scanned ++ last) : List Exchange),
      e.request.method ≠ .advanceCursor := by
    rintro rfl
    rw [List.append_nil]
    exact hscanned.method_ne
  cases result with
  | error e => exact .inl (hquiet hlast.of_done.1)
  | ok report =>
    dsimp only at hlast
    split at hlast
    next hlt =>
      rcases hlast.request_cases with ⟨hnil, -⟩ | ⟨e, rfl, hq⟩ | ⟨outcome, more, rfl, hmore⟩
      · exact .inl (hquiet hnil)
      · exact .inr ⟨seen, report, _, .error e, hscanned, hlt, rfl, hq⟩
      · obtain ⟨rfl, hq⟩ := hmore.of_done
        exact .inr ⟨seen, report, _, .ok outcome, hscanned, hlt, rfl, hq⟩
    next => exact .inl (hquiet hlast.of_done.1)

/-- A call has not asked for an advance, or is a tick that has scanned and got a reply to it, as
`HasAsked` says. -/
theorem leadsTo_program {q : Program Response} (h : (registry.program call).LeadsTo log q) :
    (∀ e ∈ log, e.request.method ≠ .advanceCursor) ∨ registry.HasAsked call log q := by
  by_cases htick : ∃ pageSize tip, call = .tick pageSize tip
  · obtain ⟨pageSize, tip, rfl⟩ := htick
    cases tip with
    | error e =>
      have h : (Program.done (.scanned (.error (.chain e)))).LeadsTo log q := h
      obtain ⟨rfl, -⟩ := h.of_done
      exact .inl (by simp)
    | ok tip =>
      -- a tick that got a height is the tick of the scanner and what it answers
      have h : ((registry.tick pageSize (.ok tip)).bind fun result =>
        .done (.scanned result)).LeadsTo log q := h
      rcases h.bind_cases with ⟨p', hp', rfl⟩ | ⟨before, result, after, rfl, hbefore, hafter⟩
      · rcases leadsTo_tick hp' with hquiet | ⟨seen, report, before, reply, hscanned, hlt, rfl, rfl⟩
        · exact .inl hquiet
        · exact .inr (.tick hscanned hlt reply)
      · obtain ⟨rfl, rfl⟩ := hafter.of_done
        rw [List.append_nil]
        rcases leadsTo_tick hbefore with hquiet | ⟨seen, report, before, reply, hscanned, hlt,
          rfl, hresult⟩
        · exact .inl hquiet
        · cases hresult
          exact .inr (.tick hscanned hlt reply)
  · -- no other call asks for an advance
    refine .inl (h.onlyAsks (registry.onlyAsks_program_method fun pageSize tip heq =>
      htick ⟨pageSize, tip, heq⟩))

/-- A tick that has asked for an advance has not failed before. -/
theorem HasAsked.not_hasFailed {tip : Except ChainError Height} {q : Program Response}
    (h : registry.HasAsked (.tick pageSize tip) log q) : ¬registry.HasFailed pageSize tip log := by
  intro hfailed
  generalize hcall : Call.tick pageSize tip = call at h
  cases h with
  | @tick pageSize' tip' seen report before hscanned hlt reply =>
    cases hcall
    generalize hlog : before ++ [⟨.advanceCursor scannerCursor seen.version tip', reply⟩] =
      log at hfailed
    cases hfailed with
    | cursor tip e rest =>
      obtain ⟨scanned, rfl, -⟩ := hscanned
      cases hlog
    | scan hscanned' rest => cases hscanned.result_unique hscanned' hlog

/-- What a call has asked that has asked for an advance is a scan, and this: the exchange `e` is the
last of its log. -/
theorem HasAsked.of_mem {q : Program Response} (h : registry.HasAsked call log q) {e : Exchange}
    (he : e ∈ log) (hmethod : e.request.method = .advanceCursor) :
    ∃ pageSize tip seen report before reply, call = .tick pageSize (.ok tip) ∧ seen.height < tip ∧
      registry.HasScanned pageSize tip seen (.ok report) before ∧ log = before ++ [e] ∧
      e = ⟨.advanceCursor scannerCursor seen.version tip, reply⟩ ∧
      q = .done (.scanned (report.after reply)) := by
  cases h with
  | @tick pageSize tip seen report before hscanned hlt reply =>
    rcases List.mem_append.1 he with he | he
    · exact absurd hmethod (hscanned.method_ne e he)
    · obtain rfl := List.mem_singleton.1 he
      exact ⟨pageSize, tip, seen, report, before, reply, rfl, hlt, hscanned, rfl, rfl, rfl⟩

/-! ## Every Run -/

/-- The cursor of the scanner has only moved forward from `start`, where it was before the run
`sys`, and each advance was made by a tick that has scanned. -/
structure MovesForward (registry : Registry) (start : Cursor)
    (sys : System Call Response MemoryStore) : Prop
    extends HasAdvanced start sys.history sys.store where
  /-- There are no more advances than heights above `start.height`. -/
  bounded : start.height.toNat + (advances sys.history).length < UInt64.size
  /-- The versions count up by one, unless they run out. There are always enough of them if
  `start.version` is not greater than `start.height`. -/
  counted : start.version.toNat + (advances sys.history).length < UInt64.size →
    (start :: advances sys.history).IsChain fun a b => b.version.toNat = a.version.toNat + 1
  /-- No version is written twice, and `start.version` is not written again. -/
  versions : ((start :: advances sys.history).map (·.version)).Nodup
  /-- An advance is made by a tick at its height, from the cursor `seen` that the tick has read. It
  comes after a scan at this height has come to a report, and is the last thing the tick asks
  for. -/
  scanned : ∀ e ∈ sys.history, ∀ cursor, e.exchange.advanced? = some cursor →
    ∃ pageSize seen report before, e.call = .tick pageSize (.ok cursor.height) ∧
      seen.Precedes cursor ∧ registry.HasScanned pageSize cursor.height seen (.ok report) before ∧
      sys.log e.caller = before ++ [e.exchange]
  /-- A tick that `HasFailed` in its height, cursor or scan does not ask for an advance. -/
  failed : ∀ caller pageSize tip rest, sys.threads[caller]? = some ⟨.tick pageSize tip, rest⟩ →
    registry.HasFailed pageSize tip (sys.log caller) → ∀ e ∈ sys.log caller, e.request.method ≠
      .advanceCursor
  /-- A call that is told of a cursor `current` other than the one it expected is a tick. It is told
  the cursor that was written last, makes no advance, and is done with the `report` of its scan. -/
  overtaken : ∀ before e after expected height current, sys.history = before ++ e :: after →
    e.exchange = ⟨.advanceCursor scannerCursor expected height, .ok (.stale current)⟩ →
    (start :: advances before).getLast? = some current ∧ current.version ≠ expected ∧
      (∀ e' ∈ sys.log e.caller, e'.advanced? = none) ∧
      ∃ pageSize seen report, e.call = .tick pageSize (.ok height) ∧ seen.version = expected ∧
        (∃ log, registry.HasScanned pageSize height seen (.ok report) log ∧
          sys.log e.caller = log ++ [e.exchange]) ∧
        ∀ t p, sys.threads[e.caller]? = some t → t.rest = some p → p = .done (.scanned (.ok report))

variable {sys : System Call Response MemoryStore} {caller : Nat} {rest : Option (Program Response)}

/-- An exchange that asks for an advance is the last one of a tick that has scanned, since the log
of a call leads from its program to what is left of it. -/
theorem hasAsked_of_traced (h : registry.workload.Traced sys)
    (hthread : sys.threads[caller]? = some ⟨call, rest⟩) {e : Exchange} (he : e ∈ sys.log caller)
    (hmethod : e.request.method = .advanceCursor) :
    ∃ q, registry.HasAsked call (sys.log caller) q ∧ ∀ p ∈ rest, p = q := by
  obtain ⟨q, hq, hrest⟩ := h.leads caller call rest hthread
  rcases leadsTo_program hq with hquiet | hasked
  · exact absurd hmethod (hquiet e he)
  · exact ⟨q, hasked, hrest⟩

/-- An exchange that writes a `cursor` belongs to a tick at its height that has scanned there, as
`MovesForward.scanned` has it. -/
theorem scanned_of_traced (h : registry.workload.Traced sys) {e : Entry Call} (he : e ∈ sys.history)
    {cursor : Cursor} (hcursor : e.exchange.advanced? = some cursor) :
    ∃ pageSize seen report before, e.call = .tick pageSize (.ok cursor.height) ∧
      seen.Precedes cursor ∧ registry.HasScanned pageSize cursor.height seen (.ok report) before ∧
      sys.log e.caller = before ++ [e.exchange] := by
  have hmethod : e.exchange.request.method = .advanceCursor := by
    by_contra hother
    cases (Exchange.advanced?_of_method hother).symm.trans hcursor
  obtain ⟨rest, hthread⟩ := h.caller e he
  obtain ⟨q, hasked, -⟩ := hasAsked_of_traced h hthread (System.mem_log he) hmethod
  obtain ⟨pageSize, tip, seen, report, before, reply, hcall, hlt, hscanned, hlog, heq, -⟩ :=
    hasked.of_mem (System.mem_log he) hmethod
  obtain rfl : cursor = ⟨tip, seen.version + 1⟩ := Exchange.eq_of_advanced? (heq ▸ hcursor)
  exact ⟨pageSize, seen, report, before, hcall, ⟨rfl, hlt⟩, hscanned, hlog⟩

/-- An exchange that is told of a `current` cursor belongs to a tick that has scanned, made no
advance and is done with its report, as `MovesForward.overtaken` has it. -/
theorem overtaken_of_traced (h : registry.workload.Traced sys) {e : Entry Call}
    (he : e ∈ sys.history) {expected : UInt64} {height : Height} {current : Cursor}
    (hstale : e.exchange = ⟨.advanceCursor scannerCursor expected height, .ok (.stale current)⟩) :
    (∀ e' ∈ sys.log e.caller, e'.advanced? = none) ∧
    ∃ pageSize seen report, e.call = .tick pageSize (.ok height) ∧ seen.version = expected ∧
      (∃ log, registry.HasScanned pageSize height seen (.ok report) log ∧
        sys.log e.caller = log ++ [e.exchange]) ∧
      ∀ t p, sys.threads[e.caller]? = some t → t.rest = some p →
        p = .done (.scanned (.ok report)) := by
  have hmethod : e.exchange.request.method = .advanceCursor := by
    rw [hstale]
    rfl
  obtain ⟨rest, hthread⟩ := h.caller e he
  obtain ⟨q, hasked, hrest⟩ := hasAsked_of_traced h hthread (System.mem_log he) hmethod
  -- the exchange is the last one of the tick, behind the scan
  obtain ⟨pageSize, tip, seen, report, log, reply, hcall, -, hscanned, hlog, heq, rfl⟩ :=
    hasked.of_mem (System.mem_log he) hmethod
  cases hstale.symm.trans heq
  refine ⟨fun e' he' => ?_, pageSize, seen, report, hcall, rfl, ⟨log, hscanned, hlog⟩,
    fun t p ht hp => ?_⟩
  · rw [hlog] at he'
    rcases List.mem_append.1 he' with he' | he'
    · exact Exchange.advanced?_of_method (hscanned.method_ne e' he')
    · rw [List.mem_singleton.1 he', hstale]
      rfl
  · cases hthread.symm.trans ht
    exact hrest p hp

/-- A call that is told of another cursor than it expected is told the cursor that was written
last. -/
theorem current_of_run (registry : Registry) (start : MemoryStore) (schedule : List (Action Call))
    {before after : List (Entry Call)} {e : Entry Call}
    (h : (registry.workload.run start schedule).history = before ++ e :: after) {expected : UInt64}
    {height : Height} {current : Cursor}
    (hstale : e.exchange = ⟨.advanceCursor scannerCursor expected height, .ok (.stale current)⟩) :
    (start.cursor scannerCursor :: advances before).getLast? = some current ∧
        current.version ≠ expected := by
  -- at the moment of the exchange the store holds the cursor that was written last
  obtain ⟨earlier, rfl, hreply⟩ := Workload.exists_moment h
  rw [(registry.run_hasAdvanced start earlier).stored]
  generalize (registry.workload.run start earlier).store = s at hreply
  rw [hstale] at hreply
  rcases hreply with hreply | ⟨error, hreply⟩
  · replace hreply : (.stale current : CursorOutcome) =
        (s.advanceCursor scannerCursor expected height).1 :=
      Except.ok.inj hreply
    rcases s.advanceCursor_cases scannerCursor expected height with ⟨-, heq⟩ | ⟨hversion, heq⟩
    · rw [heq] at hreply
      cases hreply
    · rw [heq] at hreply
      cases hreply
      exact ⟨rfl, hversion⟩
  · cases hreply

end Registry

/-- Whatever calls are made to a store, however they take turns, and wherever they fail or are
abandoned, the cursor of the scanner only moves forward, from what `start` has on. -/
theorem scanner_cursor_moves_forward (registry : Registry) (start : MemoryStore)
    (schedule : List (Action Call)) :
    registry.MovesForward (start.cursor scannerCursor) (registry.workload.run start schedule) := by
  have hadvanced := registry.run_hasAdvanced start schedule
  have htraced := registry.workload.run_traced start schedule
  constructor
  case toHasAdvanced => exact hadvanced
  case bounded => exact Cursor.toNat_height_add_length hadvanced.path
  case counted => exact Cursor.isChain_toNat_version hadvanced.path
  case versions => exact Cursor.nodup_versions hadvanced.path
  case scanned => exact fun e he cursor hcursor => Registry.scanned_of_traced htraced he hcursor
  case failed =>
    intro caller pageSize tip rest hthread hfailed e he hmethod
    obtain ⟨q, hasked, -⟩ := Registry.hasAsked_of_traced htraced hthread he hmethod
    exact hasked.not_hasFailed hfailed
  case overtaken =>
    intro before e after expected height current hhistory hstale
    have he : e ∈ (registry.workload.run start schedule).history := by
      rw [hhistory]
      exact List.mem_append_right _ List.mem_cons_self
    obtain ⟨hcurrent, hversion⟩ := registry.current_of_run start schedule hhistory hstale
    exact ⟨hcurrent, hversion, Registry.overtaken_of_traced htraced he hstale⟩

/-- Two ticks read the cursor one after the other, and then scan. The one that is overtaken has the
smaller height. -/
def crossingTicks : List (Action Call) :=
  [.start (.tick 5 (.ok 20)), .start (.tick 5 (.ok 10)), .serve 0, .serve 1, .serve 1, .serve 0,
    .serve 0, .serve 1]

example : advances ((default : Registry).workload.run .empty crossingTicks).history =
    [⟨20, 1⟩] := by decide +kernel

end StakeLedger
