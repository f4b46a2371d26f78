import StakeLedger.Proofs.Lifecycle.Alone
import StakeLedger.Proofs.Lifecycle.Path
import StakeLedger.Proofs.Lifecycle.Rejection
import StakeLedger.Proofs.Quorum.Members

/-!
# The Quorum Transition

A signature and the transition it triggers are two writes, and a call can be lost between them. The
transition is never made without a quorum, it has been made once every call that stored a signature
has returned without a failure, and where it was lost, the next signature of a member makes up for
it, be it new or a repetition.

The main statement is `quorum_transition`.
-/

namespace StakeLedger

namespace Registry

variable {registry : Registry} {call : Call} {txid : Txid} {key : XOnlyKey} {signature : Signature}
  {params : StakingParams} {d : Delegation} {s s' : MemoryStore} {log log' : List Exchange}

/-! ## Every Call -/

/-- Of the signatures that `log` has stored, each one that brought its delegation to the quorum, by
`i.total = params.quorum.toNat`, was followed by the transition. -/
def IsFulfilled (registry : Registry) (log : List Exchange) (s : MemoryStore) : Prop :=
  ∀ txid params, registry.IsBound s txid params → ∀ i ∈ log.filterMap (Exchange.insertion? txid),
    i.total = params.quorum.toNat → HasMovedOn s txid

/-- Where `log` has stored no signature, there is nothing to be followed up. -/
theorem isFulfilled_of_none (h : ∀ txid, log.filterMap (Exchange.insertion? txid) = [])
    (s : MemoryStore) :
    registry.IsFulfilled log s := by
  intro txid params _ i hi
  rw [h] at hi
  cases hi

/-- A call that has stored one signature, the `total`-th, has followed it up if the delegation has
moved on in case `total` is the quorum. -/
theorem isFulfilled_of_inserted {read : Reply (.getDelegation txid)} {total : Nat}
    (hlog : AddsNoSignature [⟨.getDelegation txid, read⟩,
      ⟨.saveSignature txid key signature, .ok (.inserted total)⟩] log')
    (hbound : registry.IsBound s txid params)
    (h : total = params.quorum.toNat → HasMovedOn s txid) :
    registry.IsFulfilled log' s := by
  intro txid' params' hbound' i hi htotal
  rw [hlog.filterMap_eq] at hi
  by_cases htxid : txid = txid'
  · subst htxid
    obtain rfl := hbound.unique hbound'
    simp only [List.filterMap_cons, Exchange.insertion?, if_pos, List.filterMap_nil,
      List.mem_singleton] at hi
    rw [hi] at htotal
    exact h htotal
  · simp [List.filterMap_cons, Exchange.insertion?, htxid] at hi

/-- As many signatures as `params.quorum` says are a quorum, since only members sign. -/
theorem hasQuorum_of_size (hs : registry.committeeDiscipline.Invariant s)
    (hbound : registry.IsBound s txid params)
    (hsize : params.quorum.toNat ≤ (s.signatures txid).size) : registry.HasQuorum s txid := by
  obtain ⟨d, hd, hparams⟩ := hbound
  rw [MemoryStore.signatures_of_delegation? hd] at hsize
  exact ⟨d, params, hd, hparams, (hs.2 txid d hd).countP_keys hparams ▸ hsize⟩

/-- What follows a repeated signature keeps to `committeeDiscipline`: the count of `tally` comes
before the transition, and no signature is stored. -/
theorem keeps_repeated (hnone : ∀ txid, log.filterMap (Exchange.insertion? txid) = [])
    (s : MemoryStore) (signed : Txid) (signer : XOnlyKey) :
    ((registry.tally txid).bind fun
      | .error e => .fail e
      | .ok receipt =>
        if receipt.IsReached then
          (registry.applyQuorum txid).bind fun
            | .error e => .fail e
            | .ok outcome =>
              if outcome.isApplied then .done (.ok ⟨receipt, some outcome⟩)
              else .fail (.duplicateSignature signed signer)
        else .fail (.duplicateSignature signed signer)).Keeps
      registry.committeeDiscipline (.sign txid key signature)
      (fun log result s' => ∀ outcome : SigningOutcome, result = .ok outcome →
        registry.IsFulfilled log s')
      log s := by
  -- whatever comes of it, the log has stored no signature that would have to be followed up
  have hdone : ∀ log' log'', AddsNoSignature log log' → AddsNoSignature log' log'' → ∀ s,
      registry.IsFulfilled log'' s := by
    intro log' log'' h h' s
    exact isFulfilled_of_none (fun txid => by rw [h'.filterMap_eq, h.filterMap_eq, hnone]) s
  refine Program.Keeps.bind ((keeps_tally_committee log s).imp ?_)
  rintro log' result s₁ ⟨hadds, hquorum⟩
  cases result with
  | error e => exact Program.Keeps.done fun _ _ _ _ h => by cases h
  | ok receipt =>
    dsimp only
    split
    next hreached =>
      refine Program.Keeps.bind ((keeps_applyQuorum (hquorum receipt rfl hreached) log').imp ?_)
      -- the count reached the quorum, which is what the transition needs
      rintro log'' result s₂ ⟨hadds', -⟩
      cases result with
      | error e => exact Program.Keeps.done fun _ _ _ _ h => by cases h
      | ok outcome =>
        dsimp only
        split
        · exact Program.Keeps.done fun s' _ _ _ _ => hdone log' log'' hadds hadds' s'
        · exact Program.Keeps.done fun _ _ _ _ h => by cases h
    next => exact Program.Keeps.done fun _ _ _ _ h => by cases h

/-- The call `sign` keeps to `committeeDiscipline`, and when it returns without a failure, the
signature it stored is `IsFulfilled`. -/
theorem keeps_sign_committee (txid : Txid) (key : XOnlyKey) (signature : Signature)
    (s : MemoryStore) :
    (registry.sign txid key signature).Keeps registry.committeeDiscipline (.sign txid key signature)
      (fun log result s' => ∀ outcome, result = .ok outcome → registry.IsFulfilled log s')
      [] s := by
  refine Program.Keeps.bind ((registry.keeps_recorded (D := registry.committeeDiscipline)
    (fun _ _ h => h.2) (fun _ _ => ⟨trivial, trivial⟩)
    (fun s params _ hbound hmember => ⟨trivial, params, hbound, hmember⟩) [] s).since.imp ?_)
  rintro log result s₁ ⟨-, -, hinv, rest, rfl, hrecorded⟩
  cases hrecorded with
  | @inserted params total read hbound hmember htotal =>
    have hquorum : params.quorum.toNat ≤ total → registry.HasQuorum s₁ txid :=
      fun h => hasQuorum_of_size hinv hbound (Nat.le_trans h htotal)
    dsimp only
    split
    next hcrossed =>
      -- this signature brings the delegation to the quorum
      have heq : total = params.quorum.toNat := by simpa using hcrossed
      refine Program.Keeps.bind
        ((keeps_applyQuorum (hquorum (Nat.le_of_eq heq.symm)) _).since.imp ?_)
      rintro log' result s₂ ⟨-, hs₂, -, hadds, hmoved⟩
      cases result with
      | error e => exact Program.Keeps.done fun _ _ _ _ h => by cases h
      | ok outcome =>
        refine Program.Keeps.done fun s₃ hs₃ _ _ _ => ?_
        exact isFulfilled_of_inserted hadds (hbound.later (hs₂.2.trans hs₃.2))
          fun _ => (hmoved outcome rfl).later hs₃.1
    next hcrossed =>
      have hne : total ≠ params.quorum.toNat := by simpa using hcrossed
      split
      next hreached =>
        refine Program.Keeps.bind ((keeps_applyQuorum (hquorum hreached) _).since.imp ?_)
        rintro log' result s₂ ⟨-, hs₂, -, hadds, -⟩
        cases result with
        | error e => exact Program.Keeps.done fun _ _ _ _ h => by cases h
        | ok outcome =>
          refine Program.Keeps.done fun s₃ hs₃ _ _ _ => ?_
          exact isFulfilled_of_inserted hadds (hbound.later (hs₂.2.trans hs₃.2)) fun heq =>
            absurd heq hne
      next =>
        refine Program.Keeps.done fun s₂ hs₂ _ _ _ => ?_
        exact isFulfilled_of_inserted ⟨[], (List.append_nil _).symm, by simp⟩ (hbound.later hs₂.2)
          fun heq => absurd heq hne
  | @repeated params read hbound hmember => exact keeps_repeated (fun _ => rfl) s₁ _ _
  | unauthorized _ _ => exact Program.Keeps.done fun _ _ _ _ h => by cases h
  | notFound _ _ => exact Program.Keeps.done fun _ _ _ _ h => by cases h
  | unregistered _ _ => exact Program.Keeps.done fun _ _ _ _ h => by cases h
  | failed _ _ => exact Program.Keeps.done fun _ _ _ _ h => by cases h

/-- Every call keeps to `committeeDiscipline`, unless it is the report `covenantQuorumReached` of a
quorum from outside. -/
theorem keeps_program_committee
    (hcall : ∀ txid, call ≠ .apply (.observed txid .covenantQuorumReached)) (s : MemoryStore) :
    (registry.workload.program call).Keeps registry.committeeDiscipline call
      (fun log response s' => ∀ outcome, response = .signed (.ok outcome) →
        registry.IsFulfilled log s')
      [] s := by
  -- an expiry leads to `unbonded`, which is of no concern to a committee
  have hupdate : ∀ txid (u : StateUpdate), u.target = .unbonded →
      registry.LeavesCommittees (.updateState txid u) :=
    fun txid u h => by simp [LeavesCommittees, h]
  cases call with
  | apply event =>
    cases event with
    | newStake stake =>
      have hasks : (registry.create stake).OnlyAsks registry.LeavesCommittees :=
        onlyAsks_create (fun _ => trivial) fun params hparams => ⟨params, hparams⟩
      refine Program.Keeps.bind ((keeps_leaving hasks (keeps_create rfl)).imp fun _ _ _ _ => ?_)
      exact Program.Keeps.done fun _ _ _ _ h => by cases h
    | observed txid o =>
      -- no other observation leads to `verified`
      have hasks : (registry.apply (.observed txid o)).OnlyAsks registry.LeavesCommittees := by
        refine onlyAsks_observed (fun _ => trivial) fun txid' u htarget => ?_
        show u.target ≠ .verified
        rw [htarget]
        cases o with
        | covenantQuorumReached => exact absurd rfl (hcall txid)
        | _ => simp [Observation.kind, TransitionKind.target]
      have hcall : Call.Asks txid o (.apply (.observed txid o)) := rfl
      refine Program.Keeps.bind ((keeps_leaving hasks (keeps_observed hcall)).imp fun _ _ _ _ => ?_)
      exact Program.Keeps.done fun _ _ _ _ h => by cases h
  | sign txid key signature =>
    refine Program.Keeps.bind ((keeps_sign_committee txid key signature s).lasting.imp
      fun log result s₁ h => ?_)
    refine Program.Keeps.done fun s₂ hs₂ hinv₂ outcome houtcome => ?_
    exact h s₂ hs₂ hinv₂ outcome (Response.signed.inj houtcome)
  | scan pageSize tip =>
    have hasks : (registry.scan pageSize tip).OnlyAsks registry.LeavesCommittees :=
      onlyAsks_scan (fun _ => trivial) hupdate (fun _ => trivial)
        (fun _ _ _ => trivial) pageSize tip
    have hcall : ∀ txid path, Call.Asks txid (.timelockExpired path) (.scan pageSize tip) :=
      fun _ path => ⟨path, rfl⟩
    refine Program.Keeps.bind ((keeps_leaving hasks
      (keeps_scanAfter hcall pageSize tip none _ _ _)).imp fun _ _ _ _ => ?_)
    exact Program.Keeps.done fun _ _ _ _ h => by cases h
  | tick pageSize tip =>
    have hasks : (registry.tick pageSize tip).OnlyAsks registry.LeavesCommittees :=
      onlyAsks_tick (fun _ => trivial) hupdate (fun _ => trivial) (fun _ _ _ => trivial)
        (fun _ => trivial) (fun _ _ _ => trivial) pageSize tip
    have hcall : ∀ txid path, Call.Asks txid (.timelockExpired path) (.tick pageSize tip) :=
      fun _ path => ⟨path, rfl⟩
    refine Program.Keeps.bind ((keeps_leaving hasks
      (keeps_tick hcall pageSize tip _ _)).imp fun _ _ _ _ => ?_)
    exact Program.Keeps.done fun _ _ _ _ h => by cases h

/-! ## A Signature by Itself -/

/-- Run by itself, `recordSignature` refuses a member who has signed before, and else stores the
signature and gives a receipt with the new size. -/
theorem run_recordSignature (hd : s.delegation? txid = some d)
    (hparams : registry.staking? d.stake.paramsVersion = some params)
    (hmember : key ∈ params.committee) :
    (registry.recordSignature txid key signature).run MemoryStore.backend s =
      if d.signatures.contains key then (.error (.duplicateSignature txid key), s)
      else (.ok ⟨(d.signatures.insert key signature).size, params.quorum.toNat,
          (d.signatures.insert key signature).size == params.quorum.toNat⟩,
        s.written txid { d with signatures := d.signatures.insert key signature } none) := by
  have hread : MemoryStore.backend.answer (.getDelegation txid) s = (.ok (some d), s) := by
    show (Except.ok (s.delegation? txid), s) = _
    rw [hd]
  have hmember : params.isMember key = true := decide_eq_true hmember
  rw [recordSignature, Program.run_request hread]
  simp only [hparams, hmember, if_true]
  -- the record that was read is the one that is signed, since no other call runs
  rcases s.saveSignature_cases txid key signature with ⟨hnone, -⟩ | ⟨d', hd',
    ⟨hkey, heq⟩ | ⟨hkey, heq⟩⟩
  · rw [hd] at hnone
    cases hnone
  · obtain rfl := Option.some.inj (hd.symm.trans hd')
    have hsave : MemoryStore.backend.answer (.saveSignature txid key signature) s = _ := heq
    rw [Program.run_request hsave, if_pos hkey]
    rfl
  · obtain rfl := Option.some.inj (hd.symm.trans hd')
    have hsave : MemoryStore.backend.answer (.saveSignature txid key signature) s = _ := heq
    rw [Program.run_request hsave, if_neg hkey]
    rfl

/-- Run by itself, `tally` counts the signatures of `d` and changes nothing. -/
theorem run_tally (hd : s.delegation? txid = some d)
    (hparams : registry.staking? d.stake.paramsVersion = some params) :
    (registry.tally txid).run MemoryStore.backend s =
      (.ok ⟨d.signatureCount, params.quorum.toNat, false⟩, s) := by
  have hread : MemoryStore.backend.answer (.getDelegation txid) s = (.ok (some d), s) := by
    show (Except.ok (s.delegation? txid), s) = _
    rw [hd]
  rw [tally, Program.run_request hread]
  simp only [hparams, Program.run]

/-- Run by itself, `applyQuorum` moves a pending delegation to `verified`, and rejects one in any
other state. -/
theorem run_applyQuorum (hd : s.delegation? txid = some d) (htxid : d.txid = txid) :
    (registry.applyQuorum txid).run MemoryStore.backend s =
      if d.state = .pending then
        (.ok (.applied txid (some .pending) .verified d.subState none),
          s.written txid { d with state := .verified } none)
      else (.ok (.rejected txid (some .covenantQuorumReached) (some d.state)), s) := by
  rw [applyQuorum, run_observed_plain hd htxid fun _ => rfl]
  simp only [Observation.kind, TransitionKind.qualified, List.mem_singleton]
  split
  next h => rw [h]; rfl
  next => rfl

/-- Run by itself, a repeated signature makes the transition if there is a quorum and `d` is
pending, and else is refused as a duplicate. -/
theorem run_sign_repeated (hd : s.delegation? txid = some d) (htxid : d.txid = txid)
    (hparams : registry.staking? d.stake.paramsVersion = some params)
    (hmember : key ∈ params.committee) (hkey : d.signatures.contains key = true) :
    (registry.sign txid key signature).run MemoryStore.backend s =
      if params.quorum.toNat ≤ d.signatureCount ∧ d.state = .pending then
        (.ok ⟨⟨d.signatureCount, params.quorum.toNat, false⟩,
            some (.applied txid (some .pending) .verified d.subState none)⟩,
          s.written txid { d with state := .verified } none)
      else (.error (.duplicateSignature txid key), s) := by
  rw [sign, Program.run_bind, run_recordSignature hd hparams hmember, if_pos hkey]
  dsimp only
  rw [Program.run_bind, run_tally hd hparams]
  dsimp only
  -- the transition is tried where the count reaches the quorum, and made if `d` is pending
  by_cases hreached : (⟨d.signatureCount, params.quorum.toNat, false⟩ : Receipt).IsReached
  · have hcount : params.quorum.toNat ≤ d.signatureCount := hreached
    rw [if_pos hreached, Program.run_bind, run_applyQuorum hd htxid]
    by_cases hpending : d.state = .pending
    · simp [hcount, hpending, Program.run, Outcome.isApplied]
    · simp [hpending, Program.run, Program.fail, Outcome.isApplied]
  · have hcount : ¬params.quorum.toNat ≤ d.signatureCount := hreached
    simp [hreached, hcount, Program.run, Program.fail]

/-- Run by itself, a new signature makes the transition if there is a quorum with it and `d` is
pending. If it brings the delegation to the quorum after the transition was made, that is reported
as rejected. -/
theorem run_sign_new (hd : s.delegation? txid = some d) (htxid : d.txid = txid)
    (hparams : registry.staking? d.stake.paramsVersion = some params)
    (hmember : key ∈ params.committee) (hkey : ¬d.signatures.contains key = true)
    {signed : Delegation}
    (hsigned : signed = { d with signatures := d.signatures.insert key signature }) :
    (registry.sign txid key signature).run MemoryStore.backend s =
      if params.quorum.toNat ≤ signed.signatureCount ∧ d.state = .pending then
        (.ok ⟨⟨signed.signatureCount, params.quorum.toNat, signed.signatureCount ==
            params.quorum.toNat⟩, some (.applied txid (some .pending) .verified d.subState none)⟩,
          (s.written txid signed none).written txid { signed with state := .verified } none)
      else
        (.ok ⟨⟨signed.signatureCount, params.quorum.toNat, signed.signatureCount ==
            params.quorum.toNat⟩, if signed.signatureCount = params.quorum.toNat then
              some (.rejected txid (some .covenantQuorumReached) (some d.state)) else none⟩,
          s.written txid signed none) := by
  have hstored := s.delegation?_written_self txid signed none
  have hquorum := registry.run_applyQuorum hstored (by rw [hsigned]; exact htxid)
  have hstate : signed.state = d.state := by rw [hsigned]
  have hsub : signed.subState = d.subState := by rw [hsigned]
  have htotal : (d.signatures.insert key signature).size = signed.signatureCount := by
    rw [hsigned]; rfl
  rw [sign, Program.run_bind, run_recordSignature hd hparams hmember, if_neg hkey,
    ← hsigned, htotal]
  dsimp only
  -- the transition follows the signature that meets the quorum, and reports a rejection
  by_cases hcrossed : signed.signatureCount = params.quorum.toNat
  · rw [if_pos (by simp [hcrossed]), Program.run_bind, hquorum, hstate, hsub]
    by_cases hpending : d.state = .pending
    · simp [hcrossed, hpending, Program.run]
    · simp [hcrossed, hpending, Program.run]
  · -- it follows a later one as well, and a rejection is then not reported
    rw [if_neg (by simp [hcrossed])]
    by_cases hreached : (⟨signed.signatureCount, params.quorum.toNat,
        signed.signatureCount == params.quorum.toNat⟩ : Receipt).IsReached
    · have hcount : params.quorum.toNat ≤ signed.signatureCount := hreached
      rw [if_pos hreached, Program.run_bind, hquorum, hstate, hsub]
      by_cases hpending : d.state = .pending
      · simp [hcount, hpending, Program.run, Outcome.isApplied]
      · simp [hcrossed, hpending, Program.run, Outcome.isApplied]
    · have hcount : ¬params.quorum.toNat ≤ signed.signatureCount := hreached
      simp [hreached, hcount, hcrossed, Program.run]

/-- What a further signature of `key` does: it takes the delegation `d` to `d'` and gives
`result`. -/
structure Completes (params : StakingParams) (txid : Txid) (key : XOnlyKey) (signature : Signature)
    (d : Delegation) (result : Except TrackingError SigningOutcome) (d' : Delegation) : Prop where
  /-- The signature is stored, unless there is one of `key`. -/
  signatures : d'.signatures =
    if d.signatures.contains key then d.signatures else d.signatures.insert key signature
  /-- With a quorum of signatures, `d'` is not pending. -/
  moved : params.quorum.toNat ≤ d'.signatureCount → d'.state ≠ .pending
  /-- The call reports the transition as applied if and only if it took the delegation out of
  `pending`. -/
  applied : (∃ receipt outcome, result = .ok ⟨receipt, some outcome⟩ ∧ outcome.isApplied) ↔
    d.state = .pending ∧ d'.state ≠ .pending
  /-- A repetition that moves nothing is refused by `duplicateSignature`. -/
  repeated : d.signatures.contains key → ¬(d.state = .pending ∧ d'.state ≠ .pending) →
    result = .error (.duplicateSignature txid key)

/-- A signature of a member that is stored and followed up while no other call runs `Completes` the
delegation. -/
theorem run_sign (hd : s.delegation? txid = some d) (htxid : d.txid = txid)
    (hparams : registry.staking? d.stake.paramsVersion = some params)
    (hmember : key ∈ params.committee) :
    ∃ d', ((registry.sign txid key signature).run MemoryStore.backend s).2.delegation? txid =
        some d' ∧
      Completes params txid key signature d
        ((registry.sign txid key signature).run MemoryStore.backend s).1 d' := by
  by_cases hkey : d.signatures.contains key
  · -- repeated: the transition is all that may change
    rw [run_sign_repeated hd htxid hparams hmember hkey]
    split
    next h =>
      refine ⟨_, s.delegation?_written_self .., ?_⟩
      constructor <;> simp [hkey, h.2, Outcome.isApplied]
    next h =>
      refine ⟨d, hd, ?_⟩
      constructor <;> simp_all
  · -- new: the signature is stored in any case
    rw [run_sign_new hd htxid hparams hmember hkey rfl]
    split
    next h =>
      refine ⟨_, MemoryStore.delegation?_written_self .., ?_⟩
      constructor <;> simp [hkey, h.2, Outcome.isApplied]
    next h =>
      refine ⟨_, s.delegation?_written_self .., ?_⟩
      constructor
      · simp [hkey]
      · exact fun hcount hpending => h ⟨hcount, hpending⟩
      · constructor
        · rintro ⟨receipt, outcome, hresult, happlied⟩
          have houtcome := congrArg SigningOutcome.transition (Except.ok.inj hresult)
          dsimp only at houtcome
          split at houtcome
          · obtain rfl := Option.some.inj houtcome
            cases happlied
          · cases houtcome
        · exact fun hmoved => absurd hmoved.1 hmoved.2
      · exact fun h => absurd h hkey

/-! ## Runs -/

/-- Every call of `sys` that stored a signature has returned, and without a failure. -/
def HasSettled (sys : System Call Response MemoryStore) : Prop :=
  ∀ i t, sys.threads[i]? = some t →
    (∃ txid, (sys.log i).filterMap (Exchange.insertion? txid) ≠ []) →
    ∃ outcome, t.rest = some (.done (.signed (.ok outcome)))

/-- What the run `sys` has made of quorums: it keeps transitions behind their quorums, and can still
make those that it owes. -/
structure KeepsQuorum (registry : Registry) (sys : System Call Response MemoryStore) : Prop where
  /-- What is or was `verified` has a quorum of signatures. -/
  verified : ∀ txid, (∃ d, sys.store.delegation? txid = some d ∧ d.state = .verified) ∨
    State.verified ∈ (writes sys.history txid).map (·.2) → registry.HasQuorum sys.store txid
  /-- Once all signatures have been followed up, `HasSettled`, no delegation with a quorum of
  signatures is `pending`. -/
  settled : HasSettled sys → ∀ txid d params, sys.store.delegation? txid = some d →
    registry.staking? d.stake.paramsVersion = some params → params.quorum.toNat ≤ d.signatureCount →
    d.state ≠ .pending
  /-- One more signature of a member `Completes` any delegation, which makes up for a transition
  that was lost. -/
  completed : ∀ txid d params key signature, sys.store.delegation? txid = some d →
    registry.staking? d.stake.paramsVersion = some params → key ∈ params.committee →
    ∃ d', ((registry.sign txid key signature).run MemoryStore.backend sys.store).2.delegation?
        txid = some d' ∧ Completes params txid key signature d
        ((registry.sign txid key signature).run MemoryStore.backend sys.store).1 d'

/-- The state `verified` is written by a permitted request only where there is a quorum. -/
theorem hasQuorum_of_written {r : Request}
    (hpermits : registry.committeeDiscipline.Permits call r s) {reply : Reply r}
    (hwritten : (⟨r, reply⟩ : Exchange).written? = some (txid, .verified)) :
    registry.HasQuorum s txid := by
  cases r with
  | saveDelegation d =>
    obtain ⟨⟨stake, -, rfl⟩, -⟩ := hpermits
    rcases reply with _ | _ | _ <;> simp [Exchange.written?, Delegation.ofStake] at hwritten
  | updateState txid' u =>
    rcases reply with _ | _ | _ <;> simp [Exchange.written?] at hwritten
    obtain ⟨rfl, htarget⟩ := hwritten
    exact hpermits.2 htarget
  | _ => simp [Exchange.written?] at hwritten

/-- In every run without a quorum from outside, calls are `Sound` in what they have stored and
followed up, the state `verified` was written with a quorum, and the history accounts for all
signatures. -/
theorem run_committee {schedule : List (Action Call)}
    (hinside : ∀ txid, .start (.apply (.observed txid .covenantQuorumReached)) ∉ schedule) :
    Workload.Sound registry.workload registry.committeeDiscipline
      (fun _ log response s' => ∀ outcome, response = .signed (.ok outcome) →
        registry.IsFulfilled log s')
      (registry.workload.run .empty schedule) ∧
    (∀ txid, State.verified ∈ (writes (registry.workload.run .empty schedule).history txid).map
      (·.2) → registry.HasQuorum (registry.workload.run .empty schedule).store txid) ∧
    ∀ txid, (registry.workload.run .empty schedule).store.Tallies txid
      ((registry.workload.run .empty schedule).history.map (·.exchange)) := by
  have hcalls : ∀ call, .start call ∈ schedule → ∀ s, registry.committeeDiscipline.Invariant s →
      (registry.workload.program call).Keeps registry.committeeDiscipline call _ [] s :=
    fun call hcall s _ =>
      registry.keeps_program_committee (fun txid h => hinside txid (h ▸ hcall)) s
  have hempty : registry.committeeDiscipline.Invariant MemoryStore.empty :=
    ⟨MemoryStore.coherent_empty, fun _ _ h => by cases h⟩
  refine ⟨Workload.run_sound hcalls hempty, ?_⟩
  refine Workload.run_invariant (w := registry.workload) (D := registry.committeeDiscipline)
    hcalls hempty (Q := fun history s => (∀ txid, State.verified ∈ (writes history txid).map (·.2) →
      registry.HasQuorum s txid) ∧ ∀ txid, s.Tallies txid (history.map (·.exchange))) ?_ ?_ ?_
  · exact ⟨by simp [writes], fun txid => MemoryStore.tallies_nil rfl⟩
  · rintro history s caller call r hinv hpermits ⟨hverified, htallies⟩
    refine ⟨fun txid hmem => ?_, fun txid => ?_⟩
    · -- the quorum was there before the write, and stays
      refine HasQuorum.later ?_ (MemoryStore.keepsSignatures_answer s r)
      rcases mem_writes_concat hmem with hmem | hwritten
      · exact hverified txid hmem
      · exact hasQuorum_of_written hpermits hwritten
    · rw [List.map_append]
      refine (htallies txid).answer ?_
      rintro d rfl
      obtain ⟨⟨stake, -, rfl⟩, -⟩ := hpermits
      rfl
  · rintro history s caller call r e - ⟨hverified, htallies⟩
    have hnone : (⟨r, .error e⟩ : Exchange).written? = none := by cases r <;> rfl
    refine ⟨fun txid hmem => hverified txid ?_, fun txid => ?_⟩
    · rwa [writes_concat_none hnone] at hmem
    · rw [List.map_append]
      exact (htallies txid).failed r e

end Registry

/-- However calls are interleaved, and wherever they fail or are abandoned, as long as no call of
the `schedule` reports a quorum from outside: the quorum transition is made with a quorum only, it
is made by the time that all calls which stored a signature have returned without a failure, and
where it was lost, the next signature of a member makes it, whether the signature is new or a
repetition. -/
theorem quorum_transition (registry : Registry) {schedule : List (Action Call)}
    (hinside : ∀ txid, .start (.apply (.observed txid .covenantQuorumReached)) ∉ schedule) :
    registry.KeepsQuorum (registry.workload.run .empty schedule) := by
  obtain ⟨hsound, hverified, htallies⟩ := registry.run_committee hinside
  have hstored := (Accounts.run registry schedule).stored
  generalize registry.workload.run .empty schedule = sys at *
  refine ⟨fun txid h => ?_, fun hsettled txid d params hd hparams hcount => ?_,
    fun txid d params key signature hd hparams hmember => ?_⟩
  · rcases h with ⟨d, hd, hstate⟩ | h
    · -- what is stored was written
      have hlast := hstored txid
      rw [hd, Option.map_some, hstate, Option.map_eq_some_iff] at hlast
      obtain ⟨w, hw, hverified'⟩ := hlast
      exact hverified txid (List.mem_map.2 ⟨w, List.mem_of_getLast? hw, hverified'⟩)
    · exact hverified txid h
  · have htally := (htallies txid).tally
    have hpos := StakingParams.quorum_pos (Registry.validate_of_staking? hparams)
    rw [MemoryStore.signatures_of_delegation? hd] at htally
    -- one of the signatures has brought the delegation to the quorum
    have htotal : params.quorum.toNat ∈
        ((sys.history.map (·.exchange)).filterMap (Exchange.insertion? txid)).map (·.total) := by
      rw [htally.totals, ← htally.size, List.mem_range'_1]
      have hsize : params.quorum.toNat ≤ d.signatures.size := hcount
      omega
    obtain ⟨i, hi, htotal⟩ := List.mem_map.1 htotal
    obtain ⟨e, he, hinsertion⟩ := List.mem_filterMap.1 hi
    obtain ⟨entry, hentry, rfl⟩ := List.mem_map.1 he
    -- the call that stored it has returned, and so it has seen to the transition
    obtain ⟨t, ht⟩ : ∃ t, sys.threads[entry.caller]? = some t :=
      ⟨_, List.getElem?_eq_getElem (hsound.caller_lt entry hentry)⟩
    have hlog : i ∈ (sys.log entry.caller).filterMap (Exchange.insertion? txid) := by
      refine List.mem_filterMap.2 ⟨entry.exchange, ?_, hinsertion⟩
      exact List.mem_map.2 ⟨entry, List.mem_filter.2 ⟨hentry, by simp⟩, rfl⟩
    obtain ⟨outcome, hrest⟩ := hsettled entry.caller t ht ⟨txid, List.ne_nil_of_mem hlog⟩
    have hfulfilled := hsound.keeps entry.caller t _ ht hrest sys.store
      (registry.committeeDiscipline.later_refl _) hsound.invariant outcome rfl
    obtain ⟨d', hd', hstate⟩ := hfulfilled txid params ⟨d, hd, hparams⟩ i hlog htotal
    obtain rfl := Option.some.inj (hd.symm.trans hd')
    exact hstate
  · exact registry.run_sign hd (hsound.invariant.1.keyed txid d hd) hparams hmember

/-- The only member signs `loneStake`, and the call is given up before the quorum transition. -/
def interrupted : List (Action Call) :=
  [.start (.apply (.newStake loneStake)), .serve 0,
    .start (.sign ⟨0⟩ loneKey ⟨1⟩), .serve 1, .serve 1, .abandon 1]

/-- The only member signs `loneStake`, and the call returns. -/
def followedUp : List (Action Call) :=
  [.start (.apply (.newStake loneStake)), .serve 0,
    .start (.sign ⟨0⟩ loneKey ⟨1⟩), .serve 1, .serve 1, .serve 1, .serve 1]

/-- After `interrupted` the delegation is left pending with a quorum of signatures, and a repetition
of the signature makes the transition. After `followedUp` all signatures have been followed up, and
the delegation is verified with a quorum. -/
theorem interrupted_completes :
    (((loneRegistry.workload.run .empty interrupted).store.delegation? ⟨0⟩).map
      (fun d => (d.state, d.signatureCount)) = some (.pending, 1) ∧
    ∃ receipt outcome, ((loneRegistry.sign ⟨0⟩ loneKey ⟨1⟩).run MemoryStore.backend
      (loneRegistry.workload.run .empty interrupted).store).1 = .ok ⟨receipt, some outcome⟩ ∧
      outcome.isApplied) ∧
    Registry.HasSettled (loneRegistry.workload.run .empty followedUp) ∧
    ∃ d, (loneRegistry.workload.run .empty followedUp).store.delegation? ⟨0⟩ = some d ∧
      d.state ≠ .pending ∧
      loneRegistry.HasQuorum (loneRegistry.workload.run .empty followedUp).store ⟨0⟩ := by
  have hparams : loneRegistry.staking? loneStake.paramsVersion = some loneParams := by rfl
  refine ⟨?_, ?_⟩
  · have hinside : ∀ txid, .start (.apply (.observed txid .covenantQuorumReached)) ∉
        interrupted := by
      simp [interrupted]
    have hd : (loneRegistry.workload.run .empty interrupted).store.delegation? ⟨0⟩ = some
        { Delegation.ofStake loneStake with signatures := SortedMap.empty.insert loneKey ⟨1⟩ } := by
      rfl
    obtain ⟨d', -, hcompletes⟩ := (quorum_transition loneRegistry hinside).completed ⟨0⟩
      _ loneParams loneKey ⟨1⟩ hd hparams (List.mem_singleton_self _)
    have hsignatures : d'.signatures = SortedMap.empty.insert loneKey ⟨1⟩ :=
      hcompletes.signatures.trans (by rfl)
    have hquorum : loneParams.quorum.toNat ≤ d'.signatureCount := by
      rw [Delegation.signatureCount, hsignatures]
      decide +kernel
    exact ⟨by rw [hd]; rfl, hcompletes.applied.2 ⟨rfl, hcompletes.moved hquorum⟩⟩
  · have hinside : ∀ txid, .start (.apply (.observed txid .covenantQuorumReached)) ∉
        followedUp := by
      simp [followedUp]
    have hkeeps := quorum_transition loneRegistry hinside
    obtain ⟨d, hd, hstake, hstate, hcount⟩ : ∃ d,
        (loneRegistry.workload.run .empty followedUp).store.delegation? ⟨0⟩ = some d ∧
          d.stake = loneStake ∧ d.state = .verified ∧ d.signatureCount = 1 :=
      ⟨_, by rfl, rfl, rfl, by decide +kernel⟩
    have hsettled : Registry.HasSettled (loneRegistry.workload.run .empty followedUp) := by
      intro i t ht hstored
      match i with
      -- the creation has stored no signature
      | 0 =>
        obtain ⟨txid, hne⟩ := hstored
        exact absurd (by rfl) hne
      | 1 =>
        obtain rfl := Option.some.inj ht
        exact ⟨_, rfl⟩
      | _ + 2 => cases ht
    have hcrossed : loneParams.quorum.toNat ≤ d.signatureCount := Nat.le_of_eq hcount.symm
    exact ⟨hsettled, d, hd, hkeeps.settled hsettled ⟨0⟩ d loneParams hd (hstake ▸ hparams) hcrossed,
      hkeeps.verified ⟨0⟩ (.inl ⟨d, hd, hstate⟩)⟩

end StakeLedger
