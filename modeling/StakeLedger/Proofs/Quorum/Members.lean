import StakeLedger.Proofs.Lifecycle.Asked
import StakeLedger.Proofs.Lifecycle.Conduct
import StakeLedger.Proofs.Quorum.Receipts

/-!
# Signatures of Members

Where the quorum transition is left to the calls that store signatures, all calls keep to a stricter
discipline (`Registry.committeeDiscipline`): only members of its committee sign a delegation, and it
is moved into the verified state only once enough of them have. What a call has found out about the
signatures stays true, because no signature is ever lost.
-/

namespace StakeLedger

namespace Registry

variable {registry : Registry} {call : Call} {txid : Txid} {key : XOnlyKey} {signature : Signature}
  {params : StakingParams} {d : Delegation} {s s' : MemoryStore}

/-! ## Committees -/

/-- The delegation `d` is bound to registered parameters, and every key in `d.signatures` is in
their committee. -/
def IsSignedByMembers (registry : Registry) (d : Delegation) : Prop :=
  ∃ params, registry.staking? d.stake.paramsVersion = some params ∧
    ∀ key, d.signatures.contains key → key ∈ params.committee

/-- As many members of its committee have signed the delegation `txid` as `params.quorum` says. -/
def HasQuorum (registry : Registry) (s : MemoryStore) (txid : Txid) : Prop :=
  ∃ d params, s.delegation? txid = some d ∧ registry.staking? d.stake.paramsVersion = some params ∧
    params.quorum.toNat ≤ d.signatures.keys.countP (· ∈ params.committee)

/-- A quorum is never lost, as `KeepsSignatures` says of stakes and signatures. -/
theorem HasQuorum.later (h : registry.HasQuorum s txid) (hs : s.KeepsSignatures s') :
    registry.HasQuorum s' txid := by
  obtain ⟨d, params, hd, hparams, hcount⟩ := h
  obtain ⟨d', hd', hstake, hkept⟩ := hs txid d hd
  exact ⟨d', params, hd', hstake ▸ hparams,
    Nat.le_trans hcount ((SortedMap.keys_subperm hkept).countP_le _)⟩

/-- Where only members sign, all signatures count towards the quorum. -/
theorem IsSignedByMembers.countP_keys (h : registry.IsSignedByMembers d)
    (hparams : registry.staking? d.stake.paramsVersion = some params) :
    d.signatures.keys.countP (· ∈ params.committee) = d.signatureCount := by
  obtain ⟨params', hparams', hmembers⟩ := h
  obtain rfl := Option.some.inj (hparams.symm.trans hparams')
  rw [List.countP_eq_length.2, SortedMap.keys, List.length_map]
  · rfl
  · intro key hkey
    exact decide_eq_true (hmembers key (SortedMap.mem_keys_iff.1 hkey))

/-! ## The Discipline -/

/-- What a request heeds about the committee of a delegation: new records have registered
parameters, signatures are of members, and `verified` is written only with a quorum. -/
def Heeds (registry : Registry) : Request → MemoryStore → Prop
  | .saveDelegation d, _ => ∃ params, registry.staking? d.stake.paramsVersion = some params
  | .saveSignature txid key _, s =>
    ∃ params, registry.IsBound s txid params ∧ key ∈ params.committee
  | .updateState txid u, s => u.target = .verified → registry.HasQuorum s txid
  | _, _ => True

/-- A request that `Heeds` the committee leaves every delegation signed by members only, if it was
so before. -/
theorem Effect.isSignedByMembers {e : Exchange} (h : registry.Effect call s e s')
    (hheeds : registry.Heeds e.request s)
    (hs : ∀ txid d, s.delegation? txid = some d → registry.IsSignedByMembers d) :
    ∀ txid d, s'.delegation? txid = some d → registry.IsSignedByMembers d := by
  -- the record that is written is the only one to look at
  have hwritten : ∀ (txid : Txid) (d : Delegation) (opened : Option Marker),
      registry.IsSignedByMembers d →
      ∀ txid' d', (s.written txid d opened).delegation? txid' = some d' →
          registry.IsSignedByMembers d' := by
    intro txid d opened hd txid' d' hd'
    by_cases htxid : txid' = txid
    · subst htxid
      rw [s.delegation?_written_self] at hd'
      exact Option.some.inj hd' ▸ hd
    · rw [s.delegation?_written_of_ne _ _ htxid] at hd'
      exact hs txid' d' hd'
  cases h with
  | unchanged cursors _ => exact hs
  | @created stake _ _ =>
    obtain ⟨params, hparams⟩ := hheeds
    refine hwritten _ _ _ ⟨params, hparams, fun key hkey => ?_⟩
    simp [Delegation.ofStake, SortedMap.contains, SortedMap.find?, SortedMap.empty,
      SortedMap.findEntry] at hkey
  | @moved txid d o u hd _ _ => exact hwritten _ _ _ (hs txid d hd)
  | @signed txid d key signature total hd =>
    obtain ⟨params, ⟨d', hd', hparams⟩, hmember⟩ := hheeds
    obtain rfl := Option.some.inj (hd.symm.trans hd')
    obtain ⟨params', hparams', hmembers⟩ := hs txid d hd
    obtain rfl := Option.some.inj (hparams.symm.trans hparams')
    refine hwritten _ _ _ ⟨params, hparams, fun key' hkey' => ?_⟩
    rcases SortedMap.contains_insert_iff.1 hkey' with rfl | hkey'
    · exact hmember
    · exact hmembers key' hkey'
  | removed _ => exact hs

/-- The discipline `Registry.lifecycle` with regard for committees: requests also `Heeds` them,
delegations stay `IsSignedByMembers`, and stores keep signatures. -/
def committeeDiscipline (registry : Registry) : Discipline Call MemoryStore.backend where
  Invariant s := s.Coherent ∧ ∀ txid d, s.delegation? txid = some d → registry.IsSignedByMembers d
  Later s s' := s.Later s' ∧ s.KeepsSignatures s'
  Permits call r s := registry.Permits call r s ∧ registry.Heeds r s
  later_refl s := ⟨.refl s, .refl s⟩
  later_trans h h' := ⟨h.1.trans h'.1, h.2.trans h'.2⟩
  invariant_answer hs h :=
    ⟨(effect_answer h.1).coherent hs.1, (effect_answer h.1).isSignedByMembers h.2 hs.2⟩
  later_answer _ h := ⟨(effect_answer h.1).later, MemoryStore.keepsSignatures_answer _ _⟩

/-- The invariant of `committeeDiscipline` includes that of the lifecycle. -/
theorem committee_coherent (s : MemoryStore) (h : registry.committeeDiscipline.Invariant s) :
    registry.lifecycle.Invariant s := h.1

/-- What is later under `committeeDiscipline` is later in the lifecycle. -/
theorem committee_later (s s' : MemoryStore) (h : registry.committeeDiscipline.Later s s') :
    registry.lifecycle.Later s s' := h.1

/-! ## Calls That Leave Committees Alone -/

/-- Requests that can be made without regard for committees: they store no signature and write no
`verified` state. -/
def LeavesCommittees (registry : Registry) : Request → Prop
  | .saveDelegation d => ∃ params, registry.staking? d.stake.paramsVersion = some params
  | .saveSignature _ _ _ => False
  | .updateState _ u => u.target ≠ .verified
  | _ => True

/-- A request that leaves committees alone heeds them, whatever the store is. -/
theorem LeavesCommittees.heeds {r : Request} (h : registry.LeavesCommittees r) (s : MemoryStore) :
    registry.Heeds r s := by
  cases r with
  | saveDelegation d => exact h
  | saveSignature txid key signature => exact h.elim
  | updateState txid u => exact fun htarget => absurd htarget h
  | _ => trivial

/-- A program that only asks what `LeavesCommittees` keeps to `committeeDiscipline` if it keeps to
the lifecycle. -/
theorem keeps_leaving {α : Type} {post : List Exchange → α → MemoryStore → Prop} {p : Program α}
    {log : List Exchange} (hp : p.OnlyAsks registry.LeavesCommittees)
    (h : p.Keeps registry.lifecycle call post log s) :
    p.Keeps registry.committeeDiscipline call post log s :=
  Program.Keeps.strengthen committee_coherent committee_later
    (fun _ s' _ _ hr hpermits => ⟨hpermits, hr.heeds s'⟩) hp h

/-! ## Calls That Sign -/

/-- The delegation `txid` is there and has left the pending state. -/
def HasMovedOn (s : MemoryStore) (txid : Txid) : Prop :=
  ∃ d, s.delegation? txid = some d ∧ d.state ≠ .pending

/-- Only the pending state has rank `0`. -/
theorem rank_pos_iff {state : State} : 0 < state.rank ↔ state ≠ .pending := by
  cases state <;> decide

/-- A delegation that has moved on never comes back, since the rank of its state does not fall. -/
theorem HasMovedOn.later (h : HasMovedOn s txid) (hs : s.Later s') : HasMovedOn s' txid := by
  obtain ⟨d, hd, hstate⟩ := h
  obtain ⟨d', hd', hadv⟩ := hs txid d hd
  exact ⟨d', hd', rank_pos_iff.1 (Nat.lt_of_lt_of_le (rank_pos_iff.2 hstate) hadv.rank_le)⟩

/-- Whatever the verdict on `covenantQuorumReached` is, the delegation is not pending any more: the
transition was made, or the record read again has another state. -/
theorem Verdict.hasMovedOn {outcome : Outcome}
    (h : Verdict txid .covenantQuorumReached d outcome s) :
    HasMovedOn s txid := by
  cases outcome with
  | applied =>
    obtain ⟨d', hd', -, hrank⟩ := h
    exact ⟨d', hd', rank_pos_iff.1 (Nat.lt_of_le_of_lt (Nat.zero_le _) hrank)⟩
  | rejected =>
    obtain ⟨-, -, state, d', -, hd', hle, ⟨hstate, rfl⟩ | ⟨-, hlt⟩⟩ := h
    · have hpending : d.state ≠ .pending := by
        rintro hpending
        exact hstate (by rw [hpending]; exact List.mem_singleton_self _)
      exact ⟨d', hd', rank_pos_iff.1 (Nat.lt_of_lt_of_le (rank_pos_iff.2 hpending) hle)⟩
    · exact ⟨d', hd', rank_pos_iff.1
        (Nat.lt_of_le_of_lt (Nat.zero_le _) (Nat.lt_of_lt_of_le hlt hle))⟩

/-- The exchanges that `log'` has beyond `log` store no signature. -/
def AddsNoSignature (log log' : List Exchange) : Prop :=
  ∃ rest, log' = log ++ rest ∧ ∀ e ∈ rest, e.request.method ≠ .saveSignature

/-- If no signature is added, `log'` has stored what `log` has. -/
theorem AddsNoSignature.filterMap_eq {log log' : List Exchange} (h : AddsNoSignature log log')
    (txid : Txid) :
    log'.filterMap (Exchange.insertion? txid) = log.filterMap (Exchange.insertion? txid) := by
  obtain ⟨rest, rfl, hrest⟩ := h
  rw [List.filterMap_append, List.filterMap_eq_nil_iff.2 fun e he =>
    Exchange.insertion?_of_method (hrest e he), List.append_nil]

/-- Where there is a quorum, `applyQuorum` keeps to `committeeDiscipline`, stores no signature, and
has the delegation moved on if it comes to an outcome. -/
theorem keeps_applyQuorum (hquorum : registry.HasQuorum s txid) (log : List Exchange) :
    (registry.applyQuorum txid).Keeps registry.committeeDiscipline (.sign txid key signature)
      (fun log' result s' => AddsNoSignature log log' ∧
        ∀ outcome, result = .ok outcome → HasMovedOn s' txid) log s := by
  have hasks : Call.Asks txid .covenantQuorumReached (.sign txid key signature) := ⟨rfl, rfl⟩
  have honly : (registry.applyQuorum txid).OnlyAsks fun r =>
      r.method ≠ .saveSignature ∧ r.method ≠ .saveDelegation :=
    onlyAsks_observed (fun _ => by simp [Request.method]) (fun _ _ _ => by simp [Request.method])
  refine ((Program.Keeps.strengthen committee_coherent committee_later ?_ honly
    (keeps_observed hasks)).onlyAsks honly).imp ?_
  · intro r s' hs hinv hr hpermits
    refine ⟨hpermits, ?_⟩
    cases r with
    | saveDelegation d => exact absurd rfl hr.2
    | saveSignature txid' key' signature' => exact absurd rfl hr.1
    | updateState txid' u =>
      -- the call only asks about its own delegation
      obtain ⟨seen, d, o, -, ⟨rfl, -⟩, -⟩ := hpermits
      exact fun _ => hquorum.later hs.2
    | _ => trivial
  · rintro log' result s' ⟨⟨rest, hlog, hrest⟩, hverdict⟩
    refine ⟨⟨rest, hlog, fun e he => (hrest e he).1⟩, fun outcome houtcome => ?_⟩
    obtain ⟨seen, -, -, -, hverdict⟩ := hverdict outcome houtcome
    exact hverdict.hasMovedOn

/-- The count of `tally` stores no signature, and if it reaches the quorum there is one: it has
counted the signatures of members. -/
theorem keeps_tally_committee (log : List Exchange) (s : MemoryStore) :
    (registry.tally txid).Keeps registry.committeeDiscipline call
      (fun log' result s' => AddsNoSignature log log' ∧
        ∀ receipt, result = .ok receipt → receipt.IsReached → registry.HasQuorum s' txid)
      log s := by
  have hadds : ∀ read : Reply (.getDelegation txid), AddsNoSignature log
      (log ++ [⟨.getDelegation txid, read⟩]) :=
    fun read => ⟨_, rfl, by simp [Request.method]⟩
  refine Program.Keeps.request (fun e s' => ⟨hadds _, nofun⟩) fun s₁ _ hinv₁ =>
    ⟨⟨trivial, trivial⟩, ?_⟩
  intro found hfound
  obtain rfl := Except.ok.inj hfound
  cases hd : s₁.delegation? txid with
  | none => exact Program.Keeps.done fun _ _ _ => ⟨hadds _, nofun⟩
  | some d =>
    dsimp only
    cases hparams : registry.staking? d.stake.paramsVersion with
    | none => exact Program.Keeps.done fun _ _ _ => ⟨hadds _, nofun⟩
    | some params =>
      refine Program.Keeps.done fun s₂ hs₂ _ => ⟨hadds _, fun receipt hreceipt hreached => ?_⟩
      obtain rfl := Except.ok.inj hreceipt
      -- there was a quorum at the moment of the reading, and it stays
      have hquorum : registry.HasQuorum s₁ txid :=
        ⟨d, params, hd, hparams, (hinv₁.2 txid d hd).countP_keys hparams ▸ hreached⟩
      exact hquorum.later hs₂.2

end Registry

end StakeLedger
