import StakeLedger.Proofs.Interleaving.Run
import StakeLedger.Proofs.Store.Memory

/-!
# Stored Signatures

A stored signature is never replaced or lost, whatever is asked of the memory store
(`MemoryStore.keepsSignatures_answer`). The signatures of a delegation are therefore known from the
log of the requests: the `n`-th one that was stored brought the delegation to `n` signatures, no key
has stored two, and the signature of a key is the first one that was offered for it
(`MemoryStore.Tallies`).
-/

namespace StakeLedger

/-! ## Signatures in a Log -/

/-- A signature that was stored, as the exchange which stored it tells. -/
structure Insertion where
  key : XOnlyKey
  signature : Signature
  /-- The number of signatures of the delegation from then on, this one included. -/
  total : Nat

namespace Exchange

/-- The signature that an exchange stores for the delegation `txid`: one that was answered by
`.inserted total`. -/
def insertion? (txid : Txid) : Exchange → Option Insertion
  | ⟨.saveSignature txid' key signature, .ok (.inserted total)⟩ =>
    if txid' = txid then some ⟨key, signature, total⟩ else none
  | _ => none

/-- The signature of `key` that an exchange offers the delegation `txid`, whether it is stored or
the key already has one. -/
def offer? (txid : Txid) (key : XOnlyKey) : Exchange → Option Signature
  | ⟨.saveSignature txid' key' signature, .ok _⟩ =>
    if txid' = txid ∧ key' = key then some signature else none
  | _ => none

/-- Only the request `saveSignature` stores a signature. -/
theorem insertion?_of_method {txid : Txid} {e : Exchange} (h : e.request.method ≠ .saveSignature) :
    e.insertion? txid = none := by
  obtain ⟨r, reply⟩ := e
  cases r <;> first | rfl | exact absurd rfl h

/-- Only the request `saveSignature` offers a signature. -/
theorem offer?_of_method {txid : Txid} {key : XOnlyKey} {e : Exchange}
    (h : e.request.method ≠ .saveSignature) : e.offer? txid key = none := by
  obtain ⟨r, reply⟩ := e
  cases r <;> first | rfl | exact absurd rfl h

/-- A request that failed with `e` stores no signature. -/
theorem insertion?_error (txid : Txid) (r : Request) (e : StoreError) :
    insertion? txid ⟨r, .error e⟩ = none := by
  cases r <;> rfl

/-- A request that failed with `e` offers no signature. -/
theorem offer?_error (txid : Txid) (key : XOnlyKey) (r : Request) (e : StoreError) :
    offer? txid key ⟨r, .error e⟩ = none := by
  cases r <;> rfl

end Exchange

/-- The `signatures` are those of the `insertions`, which were stored one after another, from none
on. -/
structure IsTally (insertions : List Insertion)
    (signatures : SortedMap XOnlyKey Signature) : Prop where
  /-- No key stores two signatures. -/
  nodup : (insertions.map (·.key)).Nodup
  /-- The totals count up from `1`, in the order in which the signatures were stored. -/
  totals : insertions.map (·.total) = List.range' 1 insertions.length
  /-- There are as many `signatures` as `insertions`. -/
  size : signatures.size = insertions.length
  /-- A signature is found under `key` exactly if it was stored for it. -/
  find?_iff : ∀ key signature, signatures.find? key = some signature ↔
    ∃ i ∈ insertions, i.key = key ∧ i.signature = signature

theorem isTally_nil : IsTally [] .empty :=
  ⟨List.nodup_nil, rfl, rfl, by simp [SortedMap.find?, SortedMap.empty, SortedMap.findEntry]⟩

/-- A signature of a `key` that has none is counted next, with the size it brings the map to as its
total. -/
theorem IsTally.concat {insertions : List Insertion} {signatures : SortedMap XOnlyKey Signature}
    (h : IsTally insertions signatures) {key : XOnlyKey} (hkey : signatures.find? key = none)
    (signature : Signature) :
    IsTally (insertions ++ [⟨key, signature, (signatures.insert key signature).size⟩])
      (signatures.insert key signature) where
  nodup := by
    -- a key that has signed would be found
    have hnew : ∀ i ∈ insertions, i.key ≠ key := by
      intro i hi heq
      have hfound := (h.find?_iff key i.signature).2 ⟨i, hi, heq, rfl⟩
      rw [hkey] at hfound
      cases hfound
    rw [List.map_append, List.nodup_append]
    refine ⟨h.nodup, by simp, ?_⟩
    simpa using hnew
  totals := by
    rw [List.map_append, h.totals, List.length_append, List.length_singleton, List.range'_1_concat,
      SortedMap.size_insert hkey, h.size]
    simp [Nat.add_comm]
  size := by
    rw [SortedMap.size_insert hkey, h.size]
    simp
  find?_iff := by
    intro key' signature'
    by_cases heq : key' = key
    · subst heq
      have hnone : ∀ i ∈ insertions, i.key = key' → i.signature ≠ signature' := by
        intro i hi hi' hsignature
        have hfound := (h.find?_iff key' signature').2 ⟨i, hi, hi', hsignature⟩
        rw [hkey] at hfound
        cases hfound
      rw [SortedMap.find?_insert_self]
      constructor
      · intro hsome
        exact ⟨_, List.mem_append_right _ (List.mem_singleton_self _), rfl, Option.some.inj hsome⟩
      · rintro ⟨i, hi, hi', hsignature⟩
        rcases List.mem_append.1 hi with hi | hi
        · exact absurd hsignature (hnone i hi hi')
        · obtain rfl := List.mem_singleton.1 hi
          exact congrArg some hsignature
    · -- under another key nothing has changed
      rw [SortedMap.find?_insert_of_ne _ _ heq, h.find?_iff]
      have hne : key ≠ key' := fun h => heq h.symm
      simp [or_and_right, exists_or, hne]

namespace MemoryStore

variable {s s' s'' : MemoryStore} {txid : Txid} {log : List Exchange}

/-! ## Requests -/

/-- The signatures of the delegation `txid`, which are none before there is a record of it. -/
def signatures (s : MemoryStore) (txid : Txid) : SortedMap XOnlyKey Signature :=
  ((s.delegation? txid).map (·.signatures)).getD .empty

/-- The signatures of a delegation are those of its record `d`. -/
theorem signatures_of_delegation? {d : Delegation} (hd : s.delegation? txid = some d) :
    s.signatures txid = d.signatures := by
  simp [signatures, hd]

/-- Writing the record `d` of `txid'` changes the signatures of `txid'` to those of `d`, and no
others. -/
theorem signatures_written (s : MemoryStore) (txid' : Txid) (d : Delegation)
    (opened : Option Marker) :
    (s.written txid' d opened).signatures txid =
      if txid = txid' then d.signatures else s.signatures txid := by
  split
  next h => rw [h, signatures_of_delegation? (delegation?_written_self ..)]
  next h => rw [signatures, delegation?_written_of_ne _ _ _ h, signatures]

/-- Only the request `saveSignature` changes the signatures of a delegation. A new record is assumed
to come without any. -/
theorem Alters.signatures_eq {r : Request} (h : s.Alters r s')
    (hr : ∀ d, r = .saveDelegation d → d.signatures = .empty)
    (hmethod : r.method ≠ .saveSignature) (txid : Txid) :
    s'.signatures txid = s.signatures txid := by
  cases h with
  | @created d hnone =>
    rw [signatures_written]
    split
    next htxid => rw [hr d rfl, htxid, signatures, hnone]; rfl
    next => rfl
  | moved hd _ =>
    rw [signatures_written]
    split
    next htxid => rw [htxid, signatures_of_delegation? hd]; rfl
    next => rfl
  | signed => exact absurd rfl hmethod
  | unchanged | queued | unqueued | advanced => rfl

/-- A request either stores no signature of `txid`, and what it offers is of a key that has one, or
it stores one signature of a new key, with the size of the map from then on as its total. A new
record is assumed to come without signatures. -/
theorem signatures_answer (s : MemoryStore) (r : Request)
    (hr : ∀ d, r = .saveDelegation d → d.signatures = .empty) (txid : Txid) :
    (Exchange.insertion? txid ⟨r, (s.answer r).1⟩ = none ∧
      (∀ key signature, Exchange.offer? txid key ⟨r, (s.answer r).1⟩ = some signature →
        (s.signatures txid).contains key) ∧
      (s.answer r).2.signatures txid = s.signatures txid) ∨
    ∃ key signature, (⟨r, (s.answer r).1⟩ : Exchange) = ⟨.saveSignature txid key signature,
        .ok (.inserted ((s.signatures txid).insert key signature).size)⟩ ∧
      (s.signatures txid).find? key = none ∧
      (s.answer r).2.signatures txid = (s.signatures txid).insert key signature := by
  by_cases hmethod : r.method = .saveSignature
  · cases r with
    | saveSignature txid' key signature =>
      rcases s.saveSignature_cases txid' key signature with ⟨hnone, heq⟩ | ⟨d, hd, hcase⟩
      · have hanswer : s.answer (.saveSignature txid' key signature) = (.error .notFound, s) := heq
        rw [hanswer]
        exact .inl ⟨rfl, by simp [Exchange.offer?], rfl⟩
      have hfound : txid' = txid → s.signatures txid = d.signatures := by
        rintro rfl
        exact signatures_of_delegation? hd
      rcases hcase with ⟨hkey, heq⟩ | ⟨hkey, heq⟩
      · -- what is offered for a key that has signed is not stored
        have hanswer : s.answer (.saveSignature txid' key signature) = (.ok .alreadyExists, s) :=
          heq
        rw [hanswer]
        refine .inl ⟨rfl, fun key' signature' hoffer => ?_, rfl⟩
        simp only [Exchange.offer?] at hoffer
        split at hoffer
        next h => rwa [hfound h.1, ← h.2]
        next => cases hoffer
      · have hanswer : s.answer (.saveSignature txid' key signature) =
            (.ok (.inserted (d.signatures.insert key signature).size),
              s.written txid' { d with signatures := d.signatures.insert key signature } none) :=
          heq
        rw [hanswer]
        by_cases htxid : txid' = txid
        · rw [hfound htxid]
          subst htxid
          refine .inr ⟨key, signature, ?_, by simpa [SortedMap.contains] using hkey, ?_⟩
          · rfl
          · rw [signatures_written, if_pos rfl]
        · -- the signature of another delegation
          refine .inl ⟨by simp [Exchange.insertion?, htxid], by simp [Exchange.offer?, htxid], ?_⟩
          rw [signatures_written, if_neg fun h => htxid h.symm]
    | _ => cases hmethod
  · refine .inl ⟨Exchange.insertion?_of_method hmethod, fun key signature hoffer => ?_,
      (s.alters_answer r).signatures_eq hr hmethod txid⟩
    rw [Exchange.offer?_of_method hmethod] at hoffer
    cases hoffer

/-- Whoever stores a signature is told how many there are from then on. -/
theorem size_of_inserted {key : XOnlyKey} {signature : Signature} {total : Nat}
    (h : (s.answer (.saveSignature txid key signature)).1 = .ok (.inserted total)) :
    ((s.answer (.saveSignature txid key signature)).2.signatures txid).size = total := by
  have hr : ∀ d, Request.saveSignature txid key signature = .saveDelegation d → d.signatures =
      .empty := by
    intro d h
    cases h
  rcases s.signatures_answer (.saveSignature txid key signature) hr txid with
    ⟨hnone, -, -⟩ | ⟨key', signature', he, -, hinsert⟩
  · rw [h] at hnone
    simp [Exchange.insertion?] at hnone
  · rw [h] at he
    rw [hinsert]
    cases he
    rfl

/-! ## Keeping Signatures -/

/-- From `s` to `s'`, each delegation keeps its stake, and each of its stored signatures stays under
its key. -/
def KeepsSignatures (s s' : MemoryStore) : Prop :=
  ∀ txid d, s.delegation? txid = some d → ∃ d', s'.delegation? txid = some d' ∧ d'.stake = d.stake ∧
    ∀ key signature, d.signatures.find? key = some signature →
      d'.signatures.find? key = some signature

theorem KeepsSignatures.refl (s : MemoryStore) : s.KeepsSignatures s :=
  fun _ d hd => ⟨d, hd, rfl, fun _ _ h => h⟩

/-- Keeping signatures is transitive, as a run is made of steps. -/
theorem KeepsSignatures.trans (h : s.KeepsSignatures s') (h' : s'.KeepsSignatures s'') :
    s.KeepsSignatures s'' := by
  intro txid d hd
  obtain ⟨d', hd', hstake, hkept⟩ := h txid d hd
  obtain ⟨d'', hd'', hstake', hkept'⟩ := h' txid d' hd'
  exact ⟨d'', hd'', hstake'.trans hstake, fun key signature hs =>
    hkept' key signature (hkept key signature hs)⟩

/-- The number of signatures of a delegation never falls. -/
theorem KeepsSignatures.size_le (h : s.KeepsSignatures s') (txid : Txid) :
    (s.signatures txid).size ≤ (s'.signatures txid).size := by
  cases hd : s.delegation? txid with
  | none => simp [signatures, hd, SortedMap.size, SortedMap.empty]
  | some d =>
    obtain ⟨d', hd', -, hkept⟩ := h txid d hd
    rw [signatures_of_delegation? hd, signatures_of_delegation? hd']
    exact SortedMap.size_le_of_find? hkept

/-- A signature that is found under `key` in `s` is found there in `s'`, too. -/
theorem KeepsSignatures.find? (h : s.KeepsSignatures s') {key : XOnlyKey} {signature : Signature}
    (hfound : (s.signatures txid).find? key = some signature) :
    (s'.signatures txid).find? key = some signature := by
  cases hd : s.delegation? txid with
  | none => simp [signatures, hd, SortedMap.find?, SortedMap.empty, SortedMap.findEntry] at hfound
  | some d =>
    obtain ⟨d', hd', -, hkept⟩ := h txid d hd
    rw [signatures_of_delegation? hd] at hfound
    rw [signatures_of_delegation? hd']
    exact hkept key signature hfound

/-- Writing the record `d` keeps signatures if `d` has the stake of the record it replaces, and all
its signatures. -/
theorem keepsSignatures_written {txid : Txid} {d : Delegation} {opened : Option Marker}
    (h : ∀ old, s.delegation? txid = some old → d.stake = old.stake ∧ ∀ key signature,
      old.signatures.find? key = some signature → d.signatures.find? key = some signature) :
    s.KeepsSignatures (s.written txid d opened) := by
  intro txid' d' hd'
  by_cases htxid : txid' = txid
  · subst htxid
    exact ⟨d, delegation?_written_self .., h d' hd'⟩
  · rw [delegation?_written_of_ne _ _ _ htxid]
    exact ⟨d', hd', rfl, fun _ _ h => h⟩

/-- No request `r` replaces or loses a signature that is stored in `s`. -/
theorem keepsSignatures_answer (s : MemoryStore) (r : Request) :
    s.KeepsSignatures (s.answer r).2 := by
  have halters := s.alters_answer r
  generalize (s.answer r).2 = s' at halters ⊢
  cases halters with
  | created hnone =>
    refine keepsSignatures_written fun old hold => ?_
    rw [hnone] at hold
    cases hold
  | moved hd _ =>
    refine keepsSignatures_written fun old hold => ?_
    obtain rfl := Option.some.inj (hd.symm.trans hold)
    exact ⟨rfl, fun _ _ h => h⟩
  | @signed txid key signature d hd hkey =>
    refine keepsSignatures_written fun old hold => ?_
    obtain rfl := Option.some.inj (hd.symm.trans hold)
    refine ⟨rfl, fun key' signature' hfound => ?_⟩
    -- the key that is written is another one
    have hne : key' ≠ key := by
      rintro rfl
      exact hkey (SortedMap.contains_eq_true_iff.2 ⟨_, hfound⟩)
    rw [SortedMap.find?_insert_of_ne _ _ hne]
    exact hfound
  | unchanged | queued | unqueued | advanced => exact .refl s

/-! ## Signatures as Logged -/

/-- The signatures of `txid` in `s` are the ones that the exchanges of `log` have stored. -/
structure Tallies (s : MemoryStore) (txid : Txid) (log : List Exchange) : Prop where
  /-- They are what `Exchange.insertion?` finds in `log`, one after another. -/
  tally : IsTally (log.filterMap (Exchange.insertion? txid)) (s.signatures txid)
  /-- The signature of a key is the first one that `log` offered for it. -/
  first : ∀ key, (s.signatures txid).find? key = (log.filterMap (Exchange.offer? txid key)).head?

/-- An empty log accounts for a delegation without signatures. -/
theorem tallies_nil (h : s.signatures txid = .empty) : s.Tallies txid [] where
  tally := by
    rw [h]
    exact isTally_nil
  first key := by
    rw [h]
    rfl

/-- A request that failed has neither stored nor offered anything, so that `log` still accounts for
the signatures with it at its end. -/
theorem Tallies.failed (h : s.Tallies txid log) (r : Request) (e : StoreError) :
    s.Tallies txid (log ++ [⟨r, .error e⟩]) := by
  constructor
  · simpa [Exchange.insertion?_error] using h.tally
  · simpa [Exchange.offer?_error] using h.first

/-- A request that is answered keeps the account: it adds to `log` what it adds to the signatures,
by `signatures_answer`. -/
theorem Tallies.answer (h : s.Tallies txid log) {r : Request}
    (hr : ∀ d, r = .saveDelegation d → d.signatures = .empty) :
    (s.answer r).2.Tallies txid (log ++ [⟨r, (s.answer r).1⟩]) := by
  rcases s.signatures_answer r hr txid with ⟨hnone, hoffer, hsame⟩ | ⟨key, signature, he,
    hkey, hinsert⟩
  · constructor
    · rw [hsame]
      simpa [hnone] using h.tally
    · intro key
      rw [hsame, h.first key, List.filterMap_append, List.head?_append]
      cases hsignature : Exchange.offer? txid key ⟨r, (s.answer r).1⟩ with
      | none => simp [hsignature]
      | some signature =>
        -- what is offered in vain comes after what is stored
        obtain ⟨stored, hstored⟩ :=
          SortedMap.contains_eq_true_iff.1 (hoffer key signature hsignature)
        rw [← h.first key, hstored]
        rfl
  · rw [he]
    constructor
    · rw [hinsert, List.filterMap_append]
      simpa [Exchange.insertion?] using h.tally.concat hkey signature
    · intro key'
      rw [hinsert, List.filterMap_append, List.head?_append, ← h.first key']
      by_cases heq : key' = key
      · subst heq
        rw [SortedMap.find?_insert_self, hkey]
        simp [Exchange.offer?]
      · rw [SortedMap.find?_insert_of_ne _ _ heq]
        have hne : key ≠ key' := fun h => heq h.symm
        simp [Exchange.offer?, hne]

end MemoryStore

end StakeLedger
