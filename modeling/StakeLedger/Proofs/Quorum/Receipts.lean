import StakeLedger.Lifecycle.Quorum
import StakeLedger.Proofs.Interleaving.Requests
import StakeLedger.Proofs.Lifecycle.Rejection
import StakeLedger.Proofs.Params.Registration
import StakeLedger.Proofs.Quorum.Signatures

/-!
# Receipts for Signatures

Membership in the committee is looked up in one request, and the signature is stored and counted in
another. `Registry.keeps_recorded` says what a call can conclude from its two replies, whatever
happens in between.

The main statement is `quorum_crossed_once`.
-/

namespace StakeLedger

/-- The request of the exchange `e` was not served. -/
def Exchange.IsFailed (e : Exchange) : Prop := ∃ error, e.reply = .error error

namespace Registry

variable {registry : Registry} {txid : Txid} {key : XOnlyKey} {signature : Signature}
  {params params' : StakingParams} {s s' : MemoryStore}

/-! ## Recording a Signature -/

/-- The delegation `txid` has a record in `s` whose version of the parameters is registered as
`params`. -/
def IsBound (registry : Registry) (s : MemoryStore) (txid : Txid) (params : StakingParams) : Prop :=
  ∃ d, s.delegation? txid = some d ∧ registry.staking? d.stake.paramsVersion = some params

/-- A delegation stays bound to `params`, since its stake stays. -/
theorem IsBound.later (h : registry.IsBound s txid params) (hs : s.KeepsSignatures s') :
    registry.IsBound s' txid params := by
  obtain ⟨d, hd, hparams⟩ := h
  obtain ⟨d', hd', hstake, -⟩ := hs txid d hd
  exact ⟨d', hd', hstake ▸ hparams⟩

theorem IsBound.unique (h : registry.IsBound s txid params) (h' : registry.IsBound s txid params') :
    params = params' := by
  obtain ⟨d, hd, hparams⟩ := h
  obtain ⟨d', hd', hparams'⟩ := h'
  obtain rfl := Option.some.inj (hd.symm.trans hd')
  exact Option.some.inj (hparams.symm.trans hparams')

/-- What a call that offers `signature` for `txid` has learned when it ends with a result, from the
replies in its log, while `s` is the store at the end. Where it found no committee, there was a
store that met the `invariant` and had none. -/
inductive Recorded (registry : Registry) (invariant : MemoryStore → Prop) (txid : Txid)
    (key : XOnlyKey)
    (signature : Signature) (s : MemoryStore) :
    List Exchange → Except TrackingError Receipt → Prop where
  /-- A member has signed, and was the `total`-th to do so. -/
  | inserted {params : StakingParams} {total : Nat} {read : Reply (.getDelegation txid)}
    (hbound : registry.IsBound s txid params) (hmember : key ∈ params.committee)
    (htotal : total ≤ (s.signatures txid).size) :
    Recorded registry invariant txid key signature s
      [⟨.getDelegation txid, read⟩, ⟨.saveSignature txid key signature, .ok (.inserted total)⟩]
      (.ok ⟨total, params.quorum.toNat, total == params.quorum.toNat⟩)
  /-- A member had signed before with this `key`, by whatever signature. -/
  | repeated {params : StakingParams} {read : Reply (.getDelegation txid)}
    (hbound : registry.IsBound s txid params) (hmember : key ∈ params.committee) :
    Recorded registry invariant txid key signature s
      [⟨.getDelegation txid, read⟩, ⟨.saveSignature txid key signature, .ok .alreadyExists⟩]
      (.error (.duplicateSignature txid key))
  /-- The signer is no member of `params.committee`. -/
  | unauthorized {params : StakingParams} {read : Reply (.getDelegation txid)}
    (hbound : registry.IsBound s txid params) (hmember : key ∉ params.committee) :
    Recorded registry invariant txid key signature s [⟨.getDelegation txid, read⟩]
      (.error (.unauthorizedSigner txid key))
  /-- There was no delegation `txid` in the store `seen`. -/
  | notFound {read : Reply (.getDelegation txid)} {seen : MemoryStore} (hseen : invariant seen)
    (hunbound : ∀ params, ¬registry.IsBound seen txid params) :
    Recorded registry invariant txid key signature s [⟨.getDelegation txid, read⟩]
      (.error (.delegationNotFound txid))
  /-- The delegation was bound to a version that is not registered. Nothing is written. -/
  | unregistered {read : Reply (.getDelegation txid)} {d : Delegation} {seen : MemoryStore}
    (hseen : invariant seen) (hunbound : ∀ params, ¬registry.IsBound seen txid params) :
    Recorded registry invariant txid key signature s [⟨.getDelegation txid, read⟩]
      (.error (.unknownParamsVersion d.txid d.stake.paramsVersion))
  /-- The request of `e` was not served. -/
  | failed {log : List Exchange} {e : Exchange} {error : StoreError} (he : e ∈ log)
    (hfailed : e.IsFailed) :
    Recorded registry invariant txid key signature s log (.error (.store error))

variable {κ : Type} {D : Discipline κ MemoryStore.backend} {call : κ}

/-- Under any discipline `D` that keeps signatures and permits both requests, `recordSignature` ends
with a result and a log of which `Recorded` holds, whatever happens between its two requests. -/
theorem keeps_recorded (hlater : ∀ s s', D.Later s s' → s.KeepsSignatures s')
    (hread : ∀ s, D.Invariant s → D.Permits call (.getDelegation txid) s)
    (hsave : ∀ s params, D.Invariant s → registry.IsBound s txid params → key ∈ params.committee →
      D.Permits call (.saveSignature txid key signature) s)
    (log : List Exchange) (s : MemoryStore) :
    (registry.recordSignature txid key signature).Keeps D call
      (fun log' result s' => ∃ rest, log' = log ++ rest ∧
        registry.Recorded D.Invariant txid key signature s' rest result) log s := by
  have hfail : ∀ (rest : List Exchange) (r : Request) (e : StoreError) (s' : MemoryStore),
      ∃ rest', (log ++ rest) ++ [⟨r, .error e⟩] = log ++ rest' ∧
        registry.Recorded D.Invariant txid key signature s' rest' (.error (.store e)) := by
    intro rest r e s'
    exact ⟨_, List.append_assoc .., .failed (List.mem_append_right _ (List.mem_singleton_self _))
      ⟨e, rfl⟩⟩
  refine Program.Keeps.request (fun e s' => by simpa using hfail [] _ e s') fun s₁ _ hinv₁ =>
    ⟨hread s₁ hinv₁, fun found hfound => ?_⟩
  obtain rfl := Except.ok.inj hfound
  cases hd : s₁.delegation? txid with
  | none =>
    refine Program.Keeps.done fun s₂ _ _ => ⟨_, rfl, .notFound hinv₁ ?_⟩
    rintro params ⟨d, hd', -⟩
    rw [hd] at hd'
    cases hd'
  | some d =>
    dsimp only
    cases hparams : registry.staking? d.stake.paramsVersion with
    | none =>
      refine Program.Keeps.done fun s₂ _ _ => ⟨_, rfl, .unregistered hinv₁ ?_⟩
      rintro params ⟨d', hd', hparams'⟩
      obtain rfl := Option.some.inj (hd.symm.trans hd')
      rw [hparams] at hparams'
      cases hparams'
    | some params =>
      -- the committee stays the one that was found
      have hbound : registry.IsBound s₁ txid params := ⟨d, hd, hparams⟩
      dsimp only
      split
      next hmember =>
        have hmember : key ∈ params.committee := of_decide_eq_true hmember
        refine Program.Keeps.request (fun e s' => hfail _ _ e s') fun s₂ hs₂ hinv₂ => ?_
        have hbound₂ := hbound.later (hlater _ _ hs₂)
        refine ⟨hsave s₂ params hinv₂ hbound₂ hmember, fun outcome houtcome => ?_⟩
        cases outcome with
        | inserted total =>
          have hsize := MemoryStore.size_of_inserted houtcome
          refine Program.Keeps.done fun s₃ hs₃ _ => ⟨_, List.append_assoc .., ?_⟩
          have hkept := hlater _ _ hs₃
          exact .inserted (hbound₂.later ((s₂.keepsSignatures_answer _).trans hkept)) hmember
            (hsize ▸ hkept.size_le txid)
        | alreadyExists =>
          refine Program.Keeps.done fun s₃ hs₃ _ => ⟨_, List.append_assoc .., ?_⟩
          exact .repeated (hbound₂.later ((s₂.keepsSignatures_answer _).trans (hlater _ _ hs₃)))
            hmember
      next hmember =>
        have hmember : key ∉ params.committee := fun h => hmember (decide_eq_true h)
        exact Program.Keeps.done fun s₂ hs₂ _ =>
          ⟨_, rfl, .unauthorized (hbound.later (hlater _ _ hs₂)) hmember⟩

end Registry

/-! ## Calls That Only Record -/

/-- A signature that is offered for a delegation, with the `key` that made it. -/
structure Offer where
  key : XOnlyKey
  signature : Signature

/-- The calls that record signatures of the delegation `txid`, each one an `Offer`. -/
def Registry.signing (registry : Registry) (txid : Txid) :
    Workload Offer (Except TrackingError Receipt) MemoryStore where
  backend := MemoryStore.backend
  program offer := registry.recordSignature txid offer.key offer.signature

/-- The receipt that a call was given, with the offer it is for, if the call has ended with one. -/
def Thread.receipt? (t : Thread Offer (Except TrackingError Receipt)) : Option (Offer × Receipt) :=
  match t.rest with
  | some (.done (.ok receipt)) => some (t.call, receipt)
  | _ => none

/-- The receipts that were given, with the signatures they are for. -/
def System.receipts (sys : System Offer (Except TrackingError Receipt) MemoryStore) :
    List (Offer × Receipt) :=
  sys.threads.filterMap Thread.receipt?

/-- What comes of signatures that are offered for a delegation without signatures, when all the
calls of `sys` have ended: `quorum` and `committee` are those of `params`. -/
structure CrossesOnce (params : StakingParams) (txid : Txid)
    (sys : System Offer (Except TrackingError Receipt) MemoryStore) : Prop where
  /-- No key is given two receipts. -/
  keys_nodup : (sys.receipts.map (·.1.key)).Nodup
  /-- The keys that are given a receipt are the keys of `params.committee` that were submitted. -/
  keys : ∀ key, key ∈ sys.receipts.map (·.1.key) ↔
    key ∈ params.committee ∧ ∃ t ∈ sys.threads, t.call.key = key
  /-- Each total from `1` up to the number of receipts is on one of them. -/
  totals : (sys.receipts.map (·.2.total)).Perm (List.range' 1 sys.receipts.length)
  /-- Every receipt names the quorum of `params`. -/
  quorum : ∀ r ∈ sys.receipts, r.2.quorum = params.quorum.toNat
  /-- One receipt says that it `crossed` the quorum, or none if there are fewer than
  `params.quorum`. -/
  crossed : sys.receipts.countP (·.2.crossed) =
    if params.quorum.toNat ≤ sys.receipts.length then 1 else 0
  /-- Members are refused by `duplicateSignature`, others by `unauthorizedSigner`. -/
  refused : ∀ t ∈ sys.threads, ∀ e, t.rest = some (.done (.error e)) →
    e = if t.call.key ∈ params.committee then .duplicateSignature txid t.call.key
      else .unauthorizedSigner txid t.call.key
  /-- What is stored under a `key` is the signature that there is a receipt for. -/
  stored : ∀ key signature, (sys.store.signatures txid).find? key = some signature ↔
    ∃ receipt, (⟨key, signature⟩, receipt) ∈ sys.receipts
  /-- The signature of a `key` is the first one that reached the store. -/
  first : ∀ key, (sys.store.signatures txid).find? key =
    ((sys.history.map (·.exchange)).filterMap (Exchange.offer? txid key)).head?

namespace Registry

variable {registry : Registry} {txid : Txid} {params : StakingParams}

/-- The discipline of the calls that sign `txid`: it stays bound to `params`, its signatures stay,
and only its record is read and its signatures are stored. -/
def signingDiscipline (registry : Registry) (txid : Txid) (params : StakingParams) :
    Discipline Offer MemoryStore.backend where
  Invariant s := registry.IsBound s txid params
  Later := MemoryStore.KeepsSignatures
  Permits offer r _ := r = .getDelegation txid ∨ r = .saveSignature txid offer.key offer.signature
  later_refl := MemoryStore.KeepsSignatures.refl
  later_trans := MemoryStore.KeepsSignatures.trans
  invariant_answer h _ := h.later (MemoryStore.keepsSignatures_answer _ _)
  later_answer _ _ := MemoryStore.keepsSignatures_answer _ _

/-- Every call of `signing` keeps to `signingDiscipline`, and ends as `Recorded` says. -/
theorem keeps_signing (txid : Txid) (params : StakingParams) (offer : Offer) (s : MemoryStore) :
    ((registry.signing txid).program offer).Keeps (registry.signingDiscipline txid params) offer
      (fun log result s' => registry.Recorded (registry.IsBound · txid params) txid offer.key
        offer.signature s' log result) [] s := by
  refine (registry.keeps_recorded (D := registry.signingDiscipline txid params) (fun _ _ h => h)
    (fun _ _ => .inl rfl) (fun _ _ _ _ _ => .inr rfl) [] s).imp ?_
  rintro log result s' ⟨rest, rfl, hrecorded⟩
  exact hrecorded

/-- A store that has the delegation bound to `params` serves whatever `signingDiscipline`
permits. -/
theorem not_isFailed_answer {s : MemoryStore} (h : registry.IsBound s txid params) {offer : Offer}
    {r : Request} (hr : (registry.signingDiscipline txid params).Permits offer r s) :
    ¬(⟨r, (s.answer r).1⟩ : Exchange).IsFailed := by
  obtain ⟨d, hd, -⟩ := h
  rintro ⟨error, herror⟩
  rcases hr with rfl | rfl
  · cases herror
  · have hsave : (s.saveSignature txid offer.key offer.signature).1 = .error error := herror
    rcases s.saveSignature_cases txid offer.key offer.signature with
      ⟨hnone, -⟩ | ⟨_, -, ⟨-, heq⟩ | ⟨-, heq⟩⟩
    · rw [hd] at hnone
      cases hnone
    · rw [heq] at hsave
      cases hsave
    · rw [heq] at hsave
      cases hsave

/-- While no call is disturbed, the signatures are what the history has stored, no exchange has
failed, and every call ends as `Recorded` says. The three go together, since an undisturbed store
serves what the calls ask. -/
theorem run_signing {store : MemoryStore} (hbound : registry.IsBound store txid params)
    (hnone : store.signatures txid = .empty) {schedule : List (Action Offer)}
    (hcalm : ∀ a ∈ schedule, a.IsUndisturbed) :
    (((registry.signing txid).run store schedule).store.Tallies txid
      (((registry.signing txid).run store schedule).history.map (·.exchange))) ∧
    (∀ e ∈ ((registry.signing txid).run store schedule).history, ¬e.exchange.IsFailed) ∧
    Workload.Sound (registry.signing txid) (registry.signingDiscipline txid params)
      (fun offer log result s' => registry.Recorded (registry.IsBound · txid params) txid offer.key
        offer.signature s' log result) ((registry.signing txid).run store schedule) := by
  have hcalls : ∀ offer, .start offer ∈ schedule → ∀ s, registry.IsBound s txid params → _ :=
    fun offer _ s _ => registry.keeps_signing txid params offer s
  have hhistory := Workload.run_invariant (w := registry.signing txid)
    (D := registry.signingDiscipline txid params) hcalls hbound
    (Q := fun history s => s.Tallies txid (history.map (·.exchange)) ∧
      ∀ e ∈ history, ¬e.exchange.IsFailed) ⟨MemoryStore.tallies_nil hnone, by simp⟩ ?_ ?_
  · exact ⟨hhistory.1, hhistory.2, Workload.run_sound hcalls hbound⟩
  · rintro history s caller offer r hs hr ⟨htallies, hserved⟩
    constructor
    · rw [List.map_append]
      refine htallies.answer ?_
      rintro d rfl
      rcases hr with hr | hr <;> cases hr
    · intro e he
      rcases List.mem_append.1 he with he | he
      · exact hserved e he
      · obtain rfl := List.mem_singleton.1 he
        exact not_isFailed_answer hs hr
  · intro history s caller offer r e hfault
    exact (hcalm _ hfault).elim

/-- How the exchanges in the `log` of a call that has ended decide its `result`: a receipt, a
duplicate or an unauthorized signer. -/
def Ended (params : StakingParams) (txid : Txid) (offer : Offer) (log : List Exchange)
    (result : Except TrackingError Receipt) : Prop :=
  (∃ read total, offer.key ∈ params.committee ∧
    log = [⟨.getDelegation txid, read⟩, ⟨.saveSignature txid offer.key offer.signature,
      .ok (.inserted total)⟩] ∧
    result = .ok ⟨total, params.quorum.toNat, total == params.quorum.toNat⟩) ∨
  (∃ read, offer.key ∈ params.committee ∧
    log = [⟨.getDelegation txid, read⟩, ⟨.saveSignature txid offer.key offer.signature,
      .ok .alreadyExists⟩] ∧
    result = .error (.duplicateSignature txid offer.key)) ∨
  (∃ read, offer.key ∉ params.committee ∧ log = [⟨.getDelegation txid, read⟩] ∧
    result = .error (.unauthorizedSigner txid offer.key))

/-- Where the delegation stays bound to `params` and every request is served, `Recorded` leaves no
other ends than those of `Ended`. -/
theorem Recorded.ended {s : MemoryStore} {offer : Offer} {log : List Exchange}
    {result : Except TrackingError Receipt} (hbound : registry.IsBound s txid params)
    (hserved : ∀ e ∈ log, ¬e.IsFailed)
    (h : registry.Recorded (registry.IsBound · txid params) txid offer.key offer.signature s
      log result) :
    Ended params txid offer log result := by
  cases h with
  | inserted hbound' hmember _ =>
    obtain rfl := hbound.unique hbound'
    exact .inl ⟨_, _, hmember, rfl, rfl⟩
  | repeated hbound' hmember =>
    obtain rfl := hbound.unique hbound'
    exact .inr (.inl ⟨_, hmember, rfl, rfl⟩)
  | unauthorized hbound' hmember =>
    obtain rfl := hbound.unique hbound'
    exact .inr (.inr ⟨_, hmember, rfl, rfl⟩)
  -- the other ends need a store that is not bound, or one that fails
  | notFound hseen hunbound => exact absurd hseen (hunbound params)
  | unregistered hseen hunbound => exact absurd hseen (hunbound params)
  | failed he hfailed => exact absurd hfailed (hserved _ he)

end Registry

/-- The signature that a receipt is for, as `Exchange.insertion?` finds it in the history. -/
def Receipt.insertion (r : Offer × Receipt) : Insertion := ⟨r.1.key, r.1.signature, r.2.total⟩

namespace CrossesOnce

variable {params : StakingParams} {txid : Txid}
  {sys : System Offer (Except TrackingError Receipt) MemoryStore}

variable (hended : ∀ i t, sys.threads[i]? = some t →
  ∃ result, t.rest = some (.done result) ∧ Registry.Ended params txid t.call (sys.log i) result)

include hended

/-- There is a receipt for each signature in the history, and for nothing else. -/
theorem perm_receipts (hcaller : ∀ e ∈ sys.history, e.caller < sys.threads.length) :
    ((sys.history.map (·.exchange)).filterMap (Exchange.insertion? txid)).Perm
      (sys.receipts.map Receipt.insertion) := by
  rw [System.receipts, List.map_filterMap]
  refine perm_filterMap_logs hcaller fun i t ht => ?_
  obtain ⟨result, hrest, hended⟩ := hended i t ht
  show (sys.log i).filterMap _ = _
  rcases hended with ⟨read, total, -, hlog, rfl⟩ | ⟨read, -, hlog, rfl⟩ | ⟨read, -, hlog, rfl⟩ <;>
    simp [hlog, hrest, List.filterMap_cons, Thread.receipt?, Exchange.insertion?, Receipt.insertion]

/-- A receipt in `sys.receipts` was given to a call of a member, and says what its total makes of
the quorum. -/
theorem of_mem_receipts {r : Offer × Receipt} (hr : r ∈ sys.receipts) :
    (∃ t ∈ sys.threads, t.call = r.1) ∧ r.1.key ∈ params.committee ∧
      r.2 = ⟨r.2.total, params.quorum.toNat, r.2.total == params.quorum.toNat⟩ := by
  obtain ⟨t, ht, hreceipt⟩ := List.mem_filterMap.1 hr
  obtain ⟨i, hi⟩ := List.getElem?_of_mem ht
  obtain ⟨result, hrest, hended⟩ := hended i t hi
  rw [Thread.receipt?, hrest] at hreceipt
  rcases hended with ⟨read, total, hmember, -, rfl⟩ | ⟨read, -, -, rfl⟩ | ⟨read, -, -, rfl⟩
  · obtain rfl := Option.some.inj hreceipt
    exact ⟨⟨t, ht, rfl⟩, hmember, rfl⟩
  · cases hreceipt
  · cases hreceipt

/-- The run `CrossesOnce` if its calls have `Ended` as their exchanges say: totals and signatures
are counted by the account that `Tallies` gives. -/
theorem of_ended (hcaller : ∀ e ∈ sys.history, e.caller < sys.threads.length)
    (htallies : sys.store.Tallies txid (sys.history.map (·.exchange)))
    (hquorum : 0 < params.quorum.toNat) :
    CrossesOnce params txid sys := by
  have hperm := perm_receipts hended hcaller
  have htally := htallies.tally
  generalize (sys.history.map (·.exchange)).filterMap (Exchange.insertion? txid) = insertions at *
  have hkeys : (insertions.map (·.key)).Perm (sys.receipts.map (·.1.key)) := by
    have h := hperm.map (·.key)
    rwa [List.map_map] at h
  have htotals : (sys.receipts.map (·.2.total)).Perm (List.range' 1 sys.receipts.length) := by
    have h := hperm.map (·.total)
    rw [htally.totals, List.map_map, hperm.length_eq, List.length_map] at h
    exact h.symm
  have hstored : ∀ key signature, (sys.store.signatures txid).find? key = some signature ↔
      ∃ receipt, (⟨key, signature⟩, receipt) ∈ sys.receipts := by
    intro key signature
    rw [htally.find?_iff]
    constructor
    · rintro ⟨insertion, hmem, rfl, rfl⟩
      obtain ⟨r, hr, rfl⟩ := List.mem_map.1 (hperm.mem_iff.1 hmem)
      exact ⟨r.2, hr⟩
    · rintro ⟨receipt, hr⟩
      exact ⟨_, hperm.mem_iff.2 (List.mem_map.2 ⟨_, hr, rfl⟩), rfl, rfl⟩
  have hmem_keys : ∀ key, key ∈ sys.receipts.map (·.1.key) ↔
      ∃ signature, (sys.store.signatures txid).find? key = some signature := by
    intro key
    simp only [List.mem_map, hstored]
    exact ⟨fun ⟨r, hr, hkey⟩ => ⟨r.1.signature, r.2, hkey ▸ hr⟩,
      fun ⟨signature, receipt, hr⟩ => ⟨_, hr, rfl⟩⟩
  have hquorums : ∀ r ∈ sys.receipts, r.2.crossed = (r.2.total == params.quorum.toNat) := by
    intro r hr
    rw [(of_mem_receipts hended hr).2.2]
  exact {
    keys_nodup := hkeys.nodup_iff.1 htally.nodup
    keys := by
      intro key
      constructor
      · intro hkey
        obtain ⟨r, hr, rfl⟩ := List.mem_map.1 hkey
        obtain ⟨⟨t, ht, hcall⟩, hmember, -⟩ := of_mem_receipts hended hr
        exact ⟨hmember, t, ht, by rw [hcall]⟩
      · rintro ⟨hmember, t, ht, rfl⟩
        obtain ⟨i, hi⟩ := List.getElem?_of_mem ht
        obtain ⟨result, -, hended⟩ := hended i t hi
        -- whether it was stored or refused, the signature of a member has reached the store
        obtain ⟨outcome, he⟩ : ∃ outcome, (⟨.saveSignature txid t.call.key t.call.signature,
            .ok outcome⟩ : Exchange) ∈ sys.log i := by
          rcases hended with ⟨_, _, -, hlog, -⟩ | ⟨_, -, hlog, -⟩ | ⟨_, hnot, -⟩
          · exact ⟨_, hlog ▸ List.mem_cons_of_mem _ (List.mem_singleton_self _)⟩
          · exact ⟨_, hlog ▸ List.mem_cons_of_mem _ (List.mem_singleton_self _)⟩
          · exact absurd hmember hnot
        have hoffer : t.call.signature ∈ (sys.history.map (·.exchange)).filterMap
            (Exchange.offer? txid t.call.key) :=
          List.mem_filterMap.2 ⟨_, System.mem_of_mem_log he, by simp [Exchange.offer?]⟩
        rw [hmem_keys, htallies.first]
        exact ⟨_, List.head?_eq_some_head (List.ne_nil_of_mem hoffer)⟩
    totals := htotals
    quorum := fun r hr => by rw [(of_mem_receipts hended hr).2.2]
    crossed := by
      have hcount : sys.receipts.countP (·.2.crossed) =
          (sys.receipts.map (·.2.total)).count params.quorum.toNat := by
        rw [List.count, List.countP_map]
        exact List.countP_congr fun r hr => by rw [hquorums r hr]; rfl
      rw [hcount, htotals.count_eq, List.count_range_1']
      exact if_congr (by omega) rfl rfl
    refused := by
      intro t ht e hrest
      obtain ⟨i, hi⟩ := List.getElem?_of_mem ht
      obtain ⟨result, hrest', hended⟩ := hended i t hi
      rw [hrest] at hrest'
      obtain rfl : Except.error e = result := by simpa using hrest'
      rcases hended with ⟨read, total, -, -, h⟩ | ⟨read, hmember, -, h⟩ | ⟨read, hmember, -, h⟩
      · cases h
      · rw [if_pos hmember]
        exact Except.error.inj h
      · rw [if_neg hmember]
        exact Except.error.inj h
    stored := hstored
    first := htallies.first }

end CrossesOnce

/-- Whatever signatures are offered for a delegation that has none, by members and others, once or
repeatedly, and however the requests of the calls are interleaved: when all calls have ended, the
run `CrossesOnce`, and what was stored under a key at any `earlier` moment is what is stored under
it in the end. -/
theorem quorum_crossed_once {registry : Registry} {store : MemoryStore} {txid : Txid}
    {d : Delegation} {params : StakingParams} (hd : store.delegation? txid = some d)
    (hparams : registry.staking? d.stake.paramsVersion = some params)
    (hnone : d.signatures = .empty) {schedule : List (Action Offer)}
    (hcalm : ∀ a ∈ schedule, a.IsUndisturbed)
    (hended : ∀ t ∈ ((registry.signing txid).run store schedule).threads,
      ∃ result, t.rest = some (.done result)) :
    CrossesOnce params txid ((registry.signing txid).run store schedule) ∧
    ∀ earlier later, schedule = earlier ++ later → ∀ key signature,
      (((registry.signing txid).run store earlier).store.signatures txid).find? key =
        some signature →
      (((registry.signing txid).run store schedule).store.signatures txid).find? key =
        some signature := by
  have hbound : registry.IsBound store txid params := ⟨d, hd, hparams⟩
  have hempty : store.signatures txid = .empty := by
    rw [MemoryStore.signatures_of_delegation? hd, hnone]
  refine ⟨?_, ?_⟩
  · obtain ⟨htallies, hserved, hsound⟩ := registry.run_signing hbound hempty hcalm
    generalize (registry.signing txid).run store schedule = sys at *
    refine CrossesOnce.of_ended (fun i t ht => ?_) hsound.caller_lt htallies
      (StakingParams.quorum_pos (Registry.validate_of_staking? hparams))
    obtain ⟨result, hrest⟩ := hended t (List.mem_of_getElem? ht)
    -- the call is done, so that its condition holds of the store as it is
    have hrecorded := hsound.keeps i t _ ht hrest sys.store (MemoryStore.KeepsSignatures.refl _)
      hsound.invariant
    refine ⟨result, hrest, hrecorded.ended hsound.invariant fun e he => ?_⟩
    obtain ⟨entry, hentry, rfl⟩ := List.mem_map.1 (System.mem_of_mem_log he)
    exact hserved entry hentry
  · rintro earlier later rfl key signature hfound
    have hlater := Workload.run_later (w := registry.signing txid)
      (D := registry.signingDiscipline txid params)
      (fun offer s _ => registry.keeps_signing txid params offer s)
      hbound earlier later
    exact MemoryStore.KeepsSignatures.find? hlater hfound

/-! ## Two Members and an Outsider -/

/-- The key of another member, with first coordinate `2`. -/
def otherKey : XOnlyKey := ⟨2, by decide +kernel⟩

/-- The key of an outsider, with first coordinate `3`. -/
def outsiderKey : XOnlyKey := ⟨3, by decide +kernel⟩

/-- Parameters with a committee of `loneKey` and `otherKey`, both of whom have to sign. -/
def pairParams : StakingParams := { loneParams with committee := [loneKey, otherKey], quorum := 2 }

/-- The registry that holds `pairParams`. -/
def pairRegistry : Registry := (Registry.empty ⟨1, 1⟩).add pairParams (by decide +kernel)

/-- A store in which `loneStake` is pending. -/
def pairStore : MemoryStore := MemoryStore.empty.written ⟨0⟩ (.ofStake loneStake) none

/-- One member signs twice at once, while `otherKey` and `outsiderKey` sign as well. -/
def jostling : List (Action Offer) :=
  [.start ⟨loneKey, ⟨1⟩⟩, .start ⟨loneKey, ⟨2⟩⟩, .start ⟨otherKey, ⟨3⟩⟩, .start ⟨outsiderKey, ⟨4⟩⟩,
    .serve 0, .serve 2, .serve 1, .serve 1, .serve 3, .serve 2, .serve 0]

/-- In `jostling` the second signature of `loneKey` is stored first, its first one is refused, and
`otherKey` crosses the quorum. -/
theorem jostling_crosses :
    ((pairRegistry.signing ⟨0⟩).run pairStore jostling).threads =
      [⟨⟨loneKey, ⟨1⟩⟩, some (.done (.error (.duplicateSignature ⟨0⟩ loneKey)))⟩,
        ⟨⟨loneKey, ⟨2⟩⟩, some (.done (.ok ⟨1, 2, false⟩))⟩,
        ⟨⟨otherKey, ⟨3⟩⟩, some (.done (.ok ⟨2, 2, true⟩))⟩,
        ⟨⟨outsiderKey, ⟨4⟩⟩, some (.done (.error (.unauthorizedSigner ⟨0⟩ outsiderKey)))⟩] ∧
    CrossesOnce pairParams ⟨0⟩ ((pairRegistry.signing ⟨0⟩).run pairStore jostling) := by
  have hthreads : ((pairRegistry.signing ⟨0⟩).run pairStore jostling).threads =
      [⟨⟨loneKey, ⟨1⟩⟩, some (.done (.error (.duplicateSignature ⟨0⟩ loneKey)))⟩,
        ⟨⟨loneKey, ⟨2⟩⟩, some (.done (.ok ⟨1, 2, false⟩))⟩,
        ⟨⟨otherKey, ⟨3⟩⟩, some (.done (.ok ⟨2, 2, true⟩))⟩,
        ⟨⟨outsiderKey, ⟨4⟩⟩, some (.done (.error (.unauthorizedSigner ⟨0⟩ outsiderKey)))⟩] := by
    rfl
  have hcalm : ∀ a ∈ jostling, a.IsUndisturbed := by
    simp [jostling, Action.IsUndisturbed]
  -- the calls have come to an end, as their results show
  have hended : ∀ t ∈ ((pairRegistry.signing ⟨0⟩).run pairStore jostling).threads,
      ∃ result, t.rest = some (.done result) := by
    rw [hthreads]
    simp
  have hd : pairStore.delegation? ⟨0⟩ = some (.ofStake loneStake) := by rfl
  have hparams : pairRegistry.staking? loneStake.paramsVersion = some pairParams := by rfl
  exact ⟨hthreads, (quorum_crossed_once hd hparams rfl hcalm hended).1⟩

end StakeLedger
