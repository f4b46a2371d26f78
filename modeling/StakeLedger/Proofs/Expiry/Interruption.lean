import StakeLedger.Proofs.Expiry.Rounds
import StakeLedger.Proofs.Expiry.Sweeping

/-!
# Scans that Are Cut Off

Scans at a height that are repeated until one of them removes nothing sweep a store to the end
(`Registry.Sweeps`). Whatever was cut off, failed or overlapped before has left the store partly
swept, so that they end in the one store that is swept to the end (`interrupted_scans_settle`).
-/

namespace StakeLedger

namespace Registry

variable {registry : Registry} {start s : MemoryStore} {tip : Height} {pageSize : Nat}
  {log : List Exchange}

/-! ## Repeated Scans -/

/-- Scans that run by themselves one after the other, until one of them removes nothing: the store
before them, their exchanges, and the store after them. -/
inductive Sweeps (registry : Registry) (pageSize : Nat) (tip : Height) :
    MemoryStore → List Exchange → MemoryStore → Prop where
  /-- A scan whose report has `deleted = 0` is the last one. -/
  | last {s : MemoryStore} {report : ScanReport}
    (hreport : ((registry.scan pageSize tip).run MemoryStore.backend s).1 = .ok report)
    (hnone : report.deleted = 0) :
    Sweeps registry pageSize tip s ((registry.scan pageSize tip).exchanges MemoryStore.backend s)
      ((registry.scan pageSize tip).run MemoryStore.backend s).2
  /-- Any other scan is followed by the next one. -/
  | again {s final : MemoryStore} {report : ScanReport} {log : List Exchange}
    (hreport : ((registry.scan pageSize tip).run MemoryStore.backend s).1 = .ok report)
    (hsome : report.deleted ≠ 0)
    (hrest : Sweeps registry pageSize tip ((registry.scan pageSize tip).run MemoryStore.backend s).2
      log final) :
    Sweeps registry pageSize tip s
      ((registry.scan pageSize tip).exchanges MemoryStore.backend s ++ log) final

/-- Repeated scans come to an end, because every scan but the last takes markers from the queue. The
induction is on the size of the queue. -/
theorem exists_sweeps (registry : Registry) (pageSize : Nat) (tip : Height) (hkeyed : s.IsKeyed) :
    ∃ log final, registry.Sweeps pageSize tip s log final := by
  induction hn : s.queue.size using Nat.strongRecOn generalizing s with
  | _ n ih =>
    obtain ⟨report, s', hrun, hworks⟩ := registry.run_scanAfter pageSize tip none (.start tip) s
    have hreport : ((registry.scan pageSize tip).run MemoryStore.backend s).1 = .ok report :=
      congrArg Prod.fst hrun
    by_cases hdeleted : report.deleted = 0
    · exact ⟨_, _, .last hreport hdeleted⟩
    -- a scan that has removed something has left a shorter queue
    · have hsize := (hworks.removes hkeyed).size
      simp only [ScanReport.start, Nat.zero_add] at hsize
      have hs' : ((registry.scan pageSize tip).run MemoryStore.backend s).2 = s' :=
        congrArg Prod.snd hrun
      obtain ⟨log, final, hrest⟩ := ih s'.queue.size (by omega) (hkeyed.of_run hrun) rfl
      exact ⟨_, final, .again hreport hdeleted (hs' ▸ hrest)⟩

/-- Repeated scans sweep a partly swept store to the end, and move no delegation a second time that
`history` or they have moved. -/
theorem Sweeps.settles {final : MemoryStore} {history : List Exchange}
    (h : registry.Sweeps pageSize tip s log final) (hsize : 0 < pageSize) (hkeyed : start.IsKeyed)
    (hs : (sweeping start tip).Invariant s) (hhistory : MovesOnce history s) :
    final.IsSettledFrom start tip ∧ MovesOnce (history ++ log) final := by
  have hkeeps : ∀ s, (registry.scan pageSize tip).Keeps (sweeping start tip) (.scan pageSize tip)
      (fun _ _ _ => True) [] s := fun _ => keeps_sweeping
  have hserve : ∀ history s r, (sweeping start tip).Invariant s →
      (sweeping start tip).Permits (.scan pageSize tip) r s → MovesOnce history s →
      MovesOnce (history ++ [⟨r, (MemoryStore.backend.answer r s).1⟩])
          (MemoryStore.backend.answer r s).2 :=
    fun _ _ _ hs hp h => (sweepEffect_answer hs.1 hp).movesOnce h
  induction h generalizing history with
  | @last s report hreport hnone =>
    obtain ⟨report', s', hrun, hworks⟩ := registry.run_scanAfter pageSize tip none (.start tip) s
    obtain rfl : report' = report := Except.ok.inj ((congrArg Prod.fst hrun).symm.trans hreport)
    -- the last scan has found no due marker that belongs to a delegation
    obtain ⟨rfl, hunknown⟩ := hworks.unknown_of_deleted_eq hs.1 hsize hnone
    have hfinal : ((registry.scan pageSize tip).run MemoryStore.backend s').2 = s' :=
      congrArg Prod.snd hrun
    refine ⟨?_, ((hkeeps s').run hserve hs hhistory).2⟩
    rw [hfinal]
    exact hs.2.isSettledFrom hkeyed fun m hm hdue => hunknown m hm hdue nofun
  | @again s final report log hreport hsome hrest ih =>
    obtain ⟨hinv, hmoved⟩ := (hkeeps s).run hserve hs hhistory
    rw [← List.append_assoc]
    exact ih hinv hmoved

end Registry

/-- The store that has answered the `requests` since it was empty. -/
def MemoryStore.ofRequests (requests : List Request) : MemoryStore :=
  Disturbed.replay backend requests empty

/-- From any store that `requests` have led to, scans at `tip` are started side by side, in whatever
order their requests are served, and wherever they fail or are abandoned. If scans that run by
themselves are then repeated until one of them removes nothing, they come to an end, in the same
store as if they had been repeated from the beginning; and no delegation has been moved twice in all
this. -/
theorem interrupted_scans_settle (registry : Registry) (requests : List Request) {pageSize : Nat}
    (hsize : 0 < pageSize) (tip : Height) {schedule : List (Action Call)}
    (hscans : ∀ call, .start call ∈ schedule → ∃ n, call = .scan n tip) :
    (∃ log final, registry.Sweeps pageSize tip
      (registry.workload.run (.ofRequests requests) schedule).store log final) ∧
    (∃ log final, registry.Sweeps pageSize tip (.ofRequests requests) log final) ∧
    ∀ log final log' final',
      registry.Sweeps pageSize tip
        (registry.workload.run (.ofRequests requests) schedule).store log final →
      registry.Sweeps pageSize tip (.ofRequests requests) log' final' →
      final = final' ∧ final.IsSettledFrom (.ofRequests requests) tip ∧ ∀ txid, stateWrites
        ((registry.workload.run (.ofRequests requests) schedule).history.map (·.exchange) ++ log)
            txid ≤ 1 := by
  have hkeyed : (MemoryStore.ofRequests requests).IsKeyed := MemoryStore.isKeyed_replay requests
  generalize MemoryStore.ofRequests requests = start at *
  have hstart : (sweeping start tip).Invariant start := ⟨hkeyed, .refl start tip⟩
  -- whatever becomes of the scans that are started, they keep the store partly swept
  have hcalls : ∀ call, .start call ∈ schedule → ∀ s, (sweeping start tip).Invariant s →
      (registry.workload.program call).Keeps (sweeping start tip) call (fun _ _ _ => True)
      [] s := by
    intro call hcall s _
    obtain ⟨n, rfl⟩ := hscans call hcall
    refine Program.Keeps.bind (registry.keeps_sweeping.imp fun _ _ _ _ => ?_)
    exact Program.Keeps.done fun _ _ _ => trivial
  have hinv : (sweeping start tip).Invariant (registry.workload.run start schedule).store :=
    (Workload.run_sound (w := registry.workload) (D := sweeping start tip) hcalls hstart).invariant
  have hnil : MovesOnce [] start := fun txid => .inl rfl
  have hmoved : MovesOnce ((registry.workload.run start schedule).history.map (·.exchange))
      (registry.workload.run start schedule).store := by
    refine Workload.run_invariant (w := registry.workload) (D := sweeping start tip)
      (Q := fun history s => MovesOnce (history.map (·.exchange)) s) hcalls hstart hnil ?_ ?_
    · intro history s caller call r hs hp h
      rw [List.map_append]
      exact (sweepEffect_answer hs.1 hp).movesOnce h
    · intro history s caller call r e _ h
      have heffect : SweepEffect start tip s ⟨r, .error e⟩ s :=
        .unchanged (Exchange.written?_error r e)
      rw [List.map_append]
      exact heffect.movesOnce h
  refine ⟨registry.exists_sweeps pageSize tip hinv.1, registry.exists_sweeps pageSize
    tip hkeyed, ?_⟩
  intro log final log' final' hfinal hfinal'
  -- either way the store ends up swept to the end, as only one store is
  obtain ⟨hsettled, hmoves⟩ := hfinal.settles hsize hkeyed hinv hmoved
  obtain ⟨hsettled', -⟩ := hfinal'.settles hsize hkeyed hstart hnil
  refine ⟨hsettled.unique hsettled', hsettled, fun txid => ?_⟩
  rcases hmoves txid with hnone | ⟨hone, -⟩
  · exact hnone ▸ Nat.zero_le 1
  · exact Nat.le_of_eq hone

/-! ## A Scan that Is Cut Off Before It Removes a Marker -/

/-- A delegation becomes active, and is marked for both paths. Another marker belongs to no
delegation. -/
def markedRequests : List Request :=
  [.saveDelegation (.ofStake loneStake),
    .updateState ⟨0⟩ ⟨[.pending], .active, none, some 7, some ⟨17, ⟨0⟩, .timelock⟩, none⟩,
    .saveMarker ⟨5, ⟨0⟩, .earlyUnbonding⟩, .saveMarker ⟨3, ⟨9⟩, .timelock⟩]

/-- A scan is abandoned after a few of its requests, and another one fails. -/
def cutOff : List (Action Call) :=
  [.start (.scan 3 17), .serve 0, .serve 0, .serve 0, .serve 0, .serve 0, .serve 0, .abandon 0,
    .start (.scan 3 17), .serve 1, .fault 1 .notFound]

/-- However often scans of `markedRequests` are cut off, in the end the delegation has expired once,
and only the marker without a delegation is left. -/
theorem cutOff_settles :
    (∀ call, .start call ∈ cutOff → ∃ n, call = .scan n 17) ∧
    ∃ log final, loneRegistry.Sweeps 2 17
        (loneRegistry.workload.run (.ofRequests markedRequests) cutOff).store log final ∧
      (final.delegation? ⟨0⟩).map (fun d => (d.state, d.subState)) =
        some (.unbonded, some .timelock) ∧
      ∀ m, m ∈ final.queue ↔ m = ⟨3, ⟨9⟩, .timelock⟩ := by
  have hscans : ∀ call, .start call ∈ cutOff → ∃ n, call = .scan n 17 := by
    simp [cutOff]
  obtain ⟨⟨log, final, hfinal⟩, ⟨log', final', hfinal'⟩, hsame⟩ :=
    interrupted_scans_settle loneRegistry markedRequests (Nat.zero_lt_two) 17 hscans
  obtain ⟨-, hsettled, -⟩ := hsame log final log' final' hfinal hfinal'
  refine ⟨hscans, log, final, hfinal, ?_, fun m => ?_⟩
  · rw [hsettled.record]
    rfl
  · -- of the three markers only the one without a delegation has a reason to stay
    have hqueue : (MemoryStore.ofRequests markedRequests).queue.elements =
        [⟨3, ⟨9⟩, .timelock⟩, ⟨5, ⟨0⟩, .earlyUnbonding⟩, ⟨17, ⟨0⟩, .timelock⟩] := by rfl
    have hmem : m ∈ (MemoryStore.ofRequests markedRequests).queue ↔
        m ∈ (MemoryStore.ofRequests markedRequests).queue.elements := Iff.rfl
    have hknown : ((MemoryStore.ofRequests markedRequests).delegation? ⟨0⟩).isSome := by rfl
    rw [hsettled.queue, hmem, hqueue]
    constructor
    · rintro ⟨hm, hstays⟩
      simp only [List.mem_cons, List.not_mem_nil, or_false] at hm
      rcases hm with rfl | rfl | rfl
      · rfl
      · rw [hstays (by decide)] at hknown
        cases hknown
      · rw [hstays (by decide)] at hknown
        cases hknown
    · rintro rfl
      exact ⟨List.mem_cons_self, fun _ => rfl⟩

end StakeLedger
