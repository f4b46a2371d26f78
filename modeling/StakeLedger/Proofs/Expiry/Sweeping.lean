import StakeLedger.Proofs.Expiry.Settlement

/-!
# Partly Swept Stores

Scans at one height that are cut off, fail or overlap leave a store that is partly swept
(`MemoryStore.IsSweptFrom`): some of the delegations that wait for a due marker have expired, and
some of the due markers that nothing waits for are removed. Everything that a scan asks keeps to
this (`Registry.keeps_sweeping`), and there is one store only that is swept to the end
(`MemoryStore.IsSettledFrom.unique`).

What an exchange of a scan does to the store is one of three things (`SweepEffect`), of which only
the expiry of a delegation writes a state. A delegation that has expired waits for nothing, and so
it is not moved a second time (`SweepEffect.movesOnce`).
-/

namespace StakeLedger

/-! ## Partly Swept Stores -/

/-- The record `d` stays as it is, or becomes `d.expired`. -/
inductive Delegation.Expires (d : Delegation) : Delegation → Prop where
  /-- The record is the same. -/
  | kept : d.Expires d
  /-- The record has waited for the timelock of `path`. -/
  | expired {path : SubState} (hstate : d.state = path.awaited) : d.Expires d.expired

/-- A record expires once at most, so that `Expires` is transitive: `d.expired` is unbonded and
waits for nothing. -/
theorem Delegation.Expires.trans {d d' d'' : Delegation} (h : d.Expires d') (h' : d'.Expires d'') :
    d.Expires d'' := by
  cases h with
  | kept => exact h'
  | expired hstate =>
    cases h' with
    | kept => exact .expired hstate
    | @expired path hstate' => exact absurd ⟨rfl, hstate'⟩ (d.not_awaits_expired ⟨0, d.txid, path⟩)

/-- A record that does not wait for `m` never does, whether it expires or not. -/
theorem Delegation.Expires.not_awaits {d d' : Delegation} {m : Marker} (h : d.Expires d')
    (hm : ¬d.Awaits m) :
    ¬d'.Awaits m := by
  cases h with
  | kept => exact hm
  | expired _ => exact d.not_awaits_expired m

namespace MemoryStore

/-- The delegation of the marker `m` is there, and does not wait for it. -/
def IsSpent (s : MemoryStore) (m : Marker) : Prop :=
  ∃ d, s.delegation? m.txid = some d ∧ ¬d.Awaits m

/-- From `s` to `s'`, nothing is done to records but that some of them expire. -/
def OnlyExpires (s s' : MemoryStore) : Prop :=
  ∀ txid d, s.delegation? txid = some d → ∃ d', s'.delegation? txid = some d' ∧ d.Expires d'

/-- The store `s` is what was `start`, partly swept of the markers that are due at `tip`. -/
structure IsSweptFrom (s start : MemoryStore) (tip : Height) : Prop where
  cursors : s.cursors = start.cursors
  /-- No record is added: what `start` does not know is still unknown. -/
  unknown : ∀ txid, start.delegation? txid = none → s.delegation? txid = none
  /-- A record is as it was in `start`, or has expired because it waits for a due marker. -/
  record : ∀ txid d, start.delegation? txid = some d → s.delegation? txid = some d ∨
    (s.delegation? txid = some d.expired ∧ ∃ m, (m ∈ start.queue ∧ m.IsDue tip) ∧ d.Awaits m)
  /-- No marker is added to the queue of `start`. -/
  queued : ∀ m ∈ s.queue, m ∈ start.queue
  /-- A marker that was removed is due, and it `IsSpent`. -/
  removed : ∀ m ∈ start.queue, m ∉ s.queue → m.IsDue tip ∧ s.IsSpent m

/-- The store `s` is what was `start`, swept of the markers that are due at `tip`, apart from those
that belong to no delegation: the delegations that wait for one of them have expired, and all others
are as they were. -/
structure IsSettledFrom (s start : MemoryStore) (tip : Height) : Prop where
  cursors : s.cursors = start.cursors
  /-- A record is `handled` as the due markers of `start` have it: it has expired if it waits for
  one of them. -/
  record : ∀ txid, s.delegation? txid =
    (start.delegation? txid).map (·.handled (start.queue.elements.filter fun m => m.IsDue tip))
  /-- A marker that is due at `tip` is left only if it belongs to no delegation. -/
  queue : ∀ m, m ∈ s.queue ↔ m ∈ start.queue ∧ (m.IsDue tip → start.delegation? m.txid = none)

variable {s s' start : MemoryStore} {tip : Height} {m : Marker}

theorem OnlyExpires.refl (s : MemoryStore) : s.OnlyExpires s := fun _ d hd => ⟨d, hd, .kept⟩

/-- Expiries of records one after another are expiries, by `Delegation.Expires.trans`. -/
theorem OnlyExpires.trans {s'' : MemoryStore} (h : s.OnlyExpires s') (h' : s'.OnlyExpires s'') :
    s.OnlyExpires s'' := by
  intro txid d hd
  obtain ⟨d', hd', hexpires⟩ := h txid d hd
  obtain ⟨d'', hd'', hexpires'⟩ := h' txid d' hd'
  exact ⟨d'', hd'', hexpires.trans hexpires'⟩

/-- A marker that is spent stays so, whatever else expires. -/
theorem IsSpent.later (h : s.IsSpent m) (hs : s.OnlyExpires s') : s'.IsSpent m := by
  obtain ⟨d, hd, hm⟩ := h
  obtain ⟨d', hd', hexpires⟩ := hs _ d hd
  exact ⟨d', hd', hexpires.not_awaits hm⟩

theorem IsSweptFrom.refl (s : MemoryStore) (tip : Height) : s.IsSweptFrom s tip where
  cursors := rfl
  unknown _ h := h
  record _ _ h := .inl h
  queued _ h := h
  removed _ h hnot := absurd h hnot

/-- A store of which only markers without a delegation are left to sweep is swept to the end. -/
theorem IsSweptFrom.isSettledFrom (h : s.IsSweptFrom start tip) (hkeyed : start.IsKeyed)
    (hunknown : ∀ m ∈ s.queue, m.IsDue tip → s.delegation? m.txid = none) :
    s.IsSettledFrom start tip := by
  have hknown : ∀ txid d, start.delegation? txid = some d → ∃ d', s.delegation? txid = some d' := by
    intro txid d hd
    rcases h.record txid d hd with hd' | ⟨hd', -⟩ <;> exact ⟨_, hd'⟩
  -- a due marker that belongs to a delegation is removed
  have hgone : ∀ m ∈ start.queue, m.IsDue tip → ∀ d, start.delegation? m.txid = some d →
      m ∉ s.queue := by
    intro m _ hdue d hd hm
    obtain ⟨d', hd'⟩ := hknown _ d hd
    exact absurd (hd'.symm.trans (hunknown m hm hdue)) nofun
  refine ⟨h.cursors, fun txid => ?_, fun m =>
    ⟨fun hm => ⟨h.queued m hm, fun hdue => ?_⟩, fun ⟨hm, hstays⟩ => ?_⟩⟩
  · cases hd : start.delegation? txid with
    | none => exact h.unknown txid hd
    | some d =>
      rw [Option.map_some, Delegation.handled]
      split
      next hawaits =>
        obtain ⟨m, hm, hawaits⟩ := hawaits
        obtain ⟨hm, hdue⟩ := List.mem_filter.1 hm
        rcases h.record txid d hd with hd' | ⟨hd', -⟩
        · -- its marker was removed, and so it cannot wait for it any more
          obtain rfl : m.txid = txid := hawaits.1.trans (hkeyed txid d hd)
          obtain ⟨-, d', hd'', hspent⟩ := h.removed m hm (hgone m hm (of_decide_eq_true hdue) d hd)
          obtain rfl := Option.some.inj (hd'.symm.trans hd'')
          exact absurd hawaits hspent
        · exact hd'
      next hnone =>
        rcases h.record txid d hd with hd' | ⟨-, m, ⟨hm, hdue⟩, hawaits⟩
        · exact hd'
        · exact absurd ⟨m, List.mem_filter.2 ⟨hm, decide_eq_true hdue⟩, hawaits⟩ hnone
  · cases hd : start.delegation? m.txid with
    | none => rfl
    | some d => exact absurd hm (hgone m (h.queued m hm) hdue d hd)
  · by_contra hnot
    obtain ⟨hdue, d, hd, -⟩ := h.removed m hm hnot
    exact absurd (hd.symm.trans (h.unknown _ (hstays hdue))) nofun

/-- There is one store only that is swept from `start` to the end, for cursors, records and queue
are all determined. -/
theorem IsSettledFrom.unique (h : s.IsSettledFrom start tip) (h' : s'.IsSettledFrom start tip) :
    s = s' := by
  obtain ⟨delegations, queue, cursors⟩ := s
  obtain ⟨delegations', queue', cursors'⟩ := s'
  have hdelegations : delegations = delegations' :=
    SortedMap.eq_of_find? fun txid => (h.record txid).trans (h'.record txid).symm
  have hqueue : queue = queue' := SortedSet.eq_of_mem_iff fun m =>
    (h.queue m).trans (h'.queue m).symm
  have hcursors : cursors = cursors' := h.cursors.trans h'.cursors.symm
  rw [hdelegations, hqueue, hcursors]

end MemoryStore

/-! ## Exchanges of Scans -/

/-- The write that the expiry of the marker `m` asks for: from the state that waits for its path to
`unbonded`. -/
def Marker.expiry (m : Marker) : StateUpdate :=
  Transition.update ⟨m.subState.awaited, .unbonded, some m.subState⟩

/-- An expiry is planned only for a delegation that waits for its `path`. -/
theorem StateUpdate.IsPlanned.state_eq_awaited {u : StateUpdate} {checkpoint : CheckpointParams}
    {d : Delegation} {path : SubState} (h : u.IsPlanned checkpoint d (.timelockExpired path)) :
    d.state = path.awaited := by
  have hq : d.state ∈ (TransitionKind.timelockExpired path).qualified := h.move.2.2
  rwa [TransitionKind.qualified_timelockExpired, List.mem_singleton] at hq

/-- What is planned for the expiry of the marker `m` is `m.expiry`, whatever the checkpoint is. -/
theorem StateUpdate.IsPlanned.eq_expiry {u : StateUpdate} {checkpoint : CheckpointParams}
    {d : Delegation} {m : Marker} (h : u.IsPlanned checkpoint d (.timelockExpired m.subState)) :
    u = m.expiry := by
  have hstate := h.state_eq_awaited
  obtain ⟨t, ht, hu⟩ := h
  obtain ⟨-, rfl⟩ := TransitionKind.fromState_eq_ok ht
  obtain rfl := Except.ok.inj hu
  rw [Marker.expiry, ← hstate]
  rfl

/-- Applied to a delegation that waits for the path of `m`, the write `m.expiry` makes it
`d.expired`. -/
theorem Marker.expiry_applyTo {m : Marker} {d : Delegation} (h : d.state = m.subState.awaited) :
    m.expiry.applyTo d = d.expired := by
  rw [Delegation.expired_eq h]
  rfl

/-- How often the exchanges of `log` have written the state of the delegation `txid`. -/
def stateWrites (log : List Exchange) (txid : Txid) : Nat :=
  log.countP fun e => e.written?.any fun w => w.1 = txid

/-- One more exchange `e` adds `1` to the writes of a delegation if it has written its state, and
else nothing. -/
theorem stateWrites_concat (log : List Exchange) (e : Exchange) (txid : Txid) :
    stateWrites (log ++ [e]) txid =
      stateWrites log txid + if e.written?.any fun w => w.1 = txid then 1 else 0 := by
  rw [stateWrites, List.countP_append, List.countP_singleton, stateWrites]

/-- No state was written twice in `log`, and every state that was written is the unbonded one. -/
def MovesOnce (log : List Exchange) (s : MemoryStore) : Prop :=
  ∀ txid, stateWrites log txid = 0 ∨
    (stateWrites log txid = 1 ∧ ∃ d, s.delegation? txid = some d ∧ d.state = .unbonded)

/-- What an exchange of a scan does to a store `s` that is partly swept from `start`: one of three
things. -/
inductive SweepEffect (start : MemoryStore) (tip : Height) (s : MemoryStore) :
    Exchange → MemoryStore → Prop where
  /-- The store stays as it is. -/
  | unchanged {e : Exchange} (hwritten : e.written? = none) : SweepEffect start tip s e s
  /-- A delegation expires that waits for a due marker. -/
  | expired {m : Marker} {d : Delegation} (hm : m ∈ start.queue ∧ m.IsDue tip)
    (hd : s.delegation? m.txid = some d) (hawaits : d.Awaits m) :
    SweepEffect start tip s ⟨.updateState m.txid m.expiry, .ok .applied⟩
      (s.written m.txid d.expired none)
  /-- A due marker is removed that nothing waits for. -/
  | removed {m : Marker} (hdue : m.IsDue tip) (hspent : s.IsSpent m) :
    SweepEffect start tip s ⟨.deleteMarker m, .ok .deleted⟩ { s with queue := s.queue.erase m }

/-- What a scan at `tip` may ask of a store that is partly swept from `start`: the expiry of a due
marker, and the removal of one that `IsSpent`, besides reading. -/
def SweepPermits (start : MemoryStore) (tip : Height) : Request → MemoryStore → Prop
  | .getDelegation _, _ | .dueMarkers _ _ _, _ => True
  | .updateState txid u, _ => ∃ m, (m ∈ start.queue ∧ m.IsDue tip) ∧ m.txid = txid ∧ u = m.expiry
  | .deleteMarker m, s => m.IsDue tip ∧ s.IsSpent m
  | _, _ => False

section Effect

variable {start s s' : MemoryStore} {tip : Height} {e : Exchange} {log : List Exchange}

/-- A request that `SweepPermits` allows has one of the three effects. -/
theorem sweepEffect_answer (hs : s.IsKeyed) {r : Request} (h : SweepPermits start tip r s) :
    SweepEffect start tip s ⟨r, (MemoryStore.backend.answer r s).1⟩
        (MemoryStore.backend.answer r s).2 := by
  cases r with
  | getDelegation _ => exact .unchanged rfl
  | dueMarkers _ _ _ => exact .unchanged rfl
  | updateState txid u =>
    obtain ⟨m, hm, rfl, rfl⟩ := h
    change SweepEffect start tip s
      ⟨.updateState m.txid m.expiry, .ok (s.updateState m.txid m.expiry).1⟩
      (s.updateState m.txid m.expiry).2
    -- the update goes through only from the state that the marker waits for
    rcases s.updateState_cases m.txid m.expiry with ⟨-, heq⟩ | ⟨d, hd, horigin, heq⟩ <;> rw [heq]
    · exact .unchanged rfl
    · have hstate : d.state = m.subState.awaited := List.mem_singleton.1 horigin
      rw [Marker.expiry_applyTo hstate]
      exact .expired hm hd ⟨(hs _ d hd).symm, hstate⟩
  | deleteMarker m =>
    change SweepEffect start tip s ⟨.deleteMarker m, .ok (s.deleteMarker m).1⟩ (s.deleteMarker m).2
    rcases s.deleteMarker_cases m with ⟨-, heq⟩ | ⟨-, heq⟩ <;> rw [heq]
    · exact .unchanged rfl
    · exact .removed h.1 h.2
  | _ => exact h.elim

/-- Of records, a `SweepEffect` only has some expire. -/
theorem SweepEffect.onlyExpires (h : SweepEffect start tip s e s') : s.OnlyExpires s' := by
  cases h with
  | unchanged _ => exact .refl s
  | @expired m d hm hd hawaits =>
    intro txid d' hd'
    by_cases htxid : txid = m.txid
    · subst htxid
      obtain rfl := Option.some.inj (hd.symm.trans hd')
      exact ⟨d.expired, MemoryStore.delegation?_written_self .., .expired hawaits.2⟩
    · exact ⟨d', by rw [MemoryStore.delegation?_written_of_ne _ _ _ htxid, hd'], .kept⟩
  | removed _ _ => exact fun _ d hd => ⟨d, hd, .kept⟩

/-- A store that is partly swept stays so under each `SweepEffect`. -/
theorem SweepEffect.isSweptFrom (h : SweepEffect start tip s e s') (hs : s.IsSweptFrom start tip) :
    s'.IsSweptFrom start tip := by
  have hlater := h.onlyExpires
  cases h with
  | unchanged _ => exact hs
  | @expired m d hm hd hawaits =>
    refine ⟨hs.cursors, fun txid hnone => ?_, fun txid d₀ hd₀ => ?_,
      fun m' hm' => ?_, fun m' hm' hnot => ?_⟩
    · have hunknown := hs.unknown txid hnone
      by_cases htxid : txid = m.txid
      · subst htxid
        exact absurd (hd.symm.trans hunknown) nofun
      · rw [MemoryStore.delegation?_written_of_ne _ _ _ htxid, hunknown]
    · by_cases htxid : txid = m.txid
      · subst htxid
        rw [MemoryStore.delegation?_written_self]
        rcases hs.record _ d₀ hd₀ with hd' | ⟨hd', -⟩
        · obtain rfl := Option.some.inj (hd.symm.trans hd')
          exact .inr ⟨rfl, m, hm, hawaits⟩
        -- what has expired does not wait for the marker
        · obtain rfl := Option.some.inj (hd.symm.trans hd')
          exact absurd hawaits (d₀.not_awaits_expired m)
      · rw [MemoryStore.delegation?_written_of_ne _ _ _ htxid]
        exact hs.record txid d₀ hd₀
    · exact hs.queued m' ((MemoryStore.mem_queue_written.1 hm').resolve_left nofun)
    · have hnot' : m' ∉ s.queue := fun hqueued =>
        hnot (MemoryStore.mem_queue_written.2 (.inr hqueued))
      obtain ⟨hdue, hspent⟩ := hs.removed m' hm' hnot'
      exact ⟨hdue, hspent.later hlater⟩
  | @removed m hdue hspent =>
    refine ⟨hs.cursors, hs.unknown, hs.record, fun m' hm' =>
      hs.queued m' (SortedSet.mem_erase_iff.1 hm').1, fun m' hm' hnot => ?_⟩
    by_cases heq : m' = m
    · subst heq
      exact ⟨hdue, hspent⟩
    · exact hs.removed m' hm' fun hqueued => hnot (SortedSet.mem_erase_iff.2 ⟨hqueued, heq⟩)

/-- A delegation that expires has not been moved before, for it would wait for nothing, so that
`MovesOnce` holds with `e` at the end of `log`. -/
theorem SweepEffect.movesOnce (h : SweepEffect start tip s e s') (hlog : MovesOnce log s) :
    MovesOnce (log ++ [e]) s' := by
  intro txid
  rw [stateWrites_concat]
  cases h with
  | unchanged hwritten => simpa [hwritten] using hlog txid
  | @expired m d hm hd hawaits =>
    by_cases htxid : m.txid = txid
    · subst htxid
      have hnone : stateWrites log m.txid = 0 := by
        refine (hlog m.txid).resolve_right ?_
        rintro ⟨-, d', hd', hstate⟩
        obtain rfl := Option.some.inj (hd.symm.trans hd')
        exact absurd hawaits (Delegation.not_awaits_of_unbonded hstate m)
      exact .inr ⟨by simp [hnone, Exchange.written?], d.expired,
        MemoryStore.delegation?_written_self .., rfl⟩
    · rw [MemoryStore.delegation?_written_of_ne _ _ _ (Ne.symm htxid)]
      simpa [Exchange.written?, htxid] using hlog txid
  | removed _ _ => exact hlog txid

end Effect

/-- The discipline of scans at `tip` on a store that is partly swept from `start`: what they ask is
`SweepPermits`, and what they rely on is that others only have records expire. -/
def sweeping (start : MemoryStore) (tip : Height) : Discipline Call MemoryStore.backend where
  Invariant s := s.IsKeyed ∧ s.IsSweptFrom start tip
  Later := MemoryStore.OnlyExpires
  Permits _ := SweepPermits start tip
  later_refl := MemoryStore.OnlyExpires.refl
  later_trans := MemoryStore.OnlyExpires.trans
  invariant_answer hs h := ⟨hs.1.answer _, (sweepEffect_answer hs.1 h).isSweptFrom hs.2⟩
  later_answer hs h := (sweepEffect_answer hs.1 h).onlyExpires

namespace Registry

variable {registry : Registry} {call : Call} {start s : MemoryStore} {tip : Height} {pageSize : Nat}
  {log : List Exchange}

/-- Once the expiry of a due marker `m` was answered by an outcome, nothing waits for `m`, so that
it may be removed. -/
theorem keeps_expiry {m : Marker} (hm : m ∈ start.queue ∧ m.IsDue tip) :
    (registry.apply (.observed m.txid (.timelockExpired m.subState))).Keeps
      (sweeping start tip) call (fun _ result s' => ∀ outcome, result = .ok outcome →
        (sweeping start tip).Permits call (.deleteMarker m) s') log s := by
  have hspent : ∀ {s s' : MemoryStore}, s.IsSpent m → s.OnlyExpires s' →
      SweepPermits start tip (.deleteMarker m) s' := fun h hlater => ⟨hm.2, h.later hlater⟩
  -- a failure is no answer
  have hfailed : ∀ (e : TrackingError) (s' : MemoryStore) (outcome : Outcome),
      (Except.error e : Except TrackingError Outcome) = .ok outcome →
      SweepPermits start tip (.deleteMarker m) s' := fun _ _ _ h => by cases h
  refine Program.Keeps.request (fun _ s' => hfailed _ s') fun s' _ hinv => ⟨trivial, fun a ha => ?_⟩
  obtain rfl := Except.ok.inj ha
  change Program.Keeps _ _ _ _ _ s'
  cases hd : s'.delegation? m.txid with
  | none => exact Program.Keeps.done fun s'' _ _ => hfailed _ s''
  | some d =>
    have htxid := hinv.1 _ d hd
    refine keeps_attempt (fun e _ s'' _ => hfailed e s'') ?_ ?_ (fun _ => trivial) ?_ ?_
    -- it does not wait for the marker as it was read
    · intro hrefused s'' hlater _ _
      change d.state ∉ (TransitionKind.timelockExpired m.subState).qualified at hrefused
      rw [TransitionKind.qualified_timelockExpired, List.mem_singleton] at hrefused
      exact hspent ⟨d, hd, fun h => hrefused h.2⟩ hlater
    · intro u s'' hplan _
      exact ⟨m, hm, htxid.symm, hplan.eq_expiry⟩
    -- it has expired
    · intro u d' s'' s₃ hplan _ _ _ hlater _ _
      rw [htxid] at hlater
      have hstate : (u.applyTo d').state = .unbonded := hplan.move.2.1
      have hnot := Delegation.not_awaits_of_unbonded hstate m
      exact hspent ⟨u.applyTo d', MemoryStore.delegation?_written_self .., hnot⟩ hlater
    -- it does not wait for the marker any more
    · intro u s'' s₃ s₄ hplan hlater hne hlater' hlater₄ _ _
      obtain ⟨d', hd', -⟩ := hlater _ d hd
      have hnot : ¬d'.Awaits m := fun h => hne d' (htxid.symm ▸ hd')
        (h.2.trans hplan.state_eq_awaited.symm)
      exact hspent ⟨d', hd', hnot⟩ (hlater'.trans hlater₄)

/-- A scan keeps to `sweeping`, and so keeps a partly swept store partly swept. -/
theorem keeps_sweeping :
    (registry.scan pageSize tip).Keeps (sweeping start tip) call (fun _ _ _ => True) log s :=
  keeps_scanning (P := fun m _ => m ∈ start.queue ∧ m.IsDue tip) (fun _ _ _ h _ => h)
    (fun _ _ _ _ hm => keeps_handling (keeps_expiry hm)) (fun _ _ _ => trivial)
    (fun m _ hinv hm hdue => ⟨hinv.2.queued m hm, hdue⟩) none

end Registry

end StakeLedger
