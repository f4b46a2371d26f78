import StakeLedger.Proofs.Database.Queue

/-!
# Writing Records to the Database

Inserting a record, changing its state and storing a signature are answered as by the memory store,
and afterwards the database mirrors it again. Each of them either leaves both sides alone or writes
one record (`Mirrors.written`).
-/

namespace StakeLedger

/-- A store stays storable when a storable record is written, with the marker `opened` if there is
one. -/
theorem MemoryStore.IsStorable.written {s : MemoryStore} (h : s.IsStorable) {d : Delegation}
    (hd : d.IsStorable) {opened : Option Marker}
    (hopened : ∀ m ∈ opened, IsStorableHeight m.expireHeight) :
    (s.written d.txid d opened).IsStorable where
  keyed := h.keyed.written rfl opened
  records d' hd' := by
    rcases List.mem_cons.1 ((s.records_written d.txid d opened).mem_iff.1 hd') with rfl | hother
    · exact hd
    · exact h.records d' (mem_others h.keyed hother).1
  queue m hm := by
    rcases mem_queue_written.1 hm with hnew | hold
    · exact hopened m hnew
    · exact h.queue m hold
  cursors := h.cursors

namespace Database

variable {db db' : Database} {s : MemoryStore} {txid : Txid} {d : Delegation}

namespace Mirrors

theorem delegations_of_delegation? (h : db.Mirrors s) (hd : s.delegation? txid = some d) :
    db.delegations.Perm (.ofDelegation d :: (s.others txid).map .ofDelegation) :=
  h.delegations.trans ((MemoryStore.records_of_delegation? hd).map _)

theorem signatures_of_delegation? (h : db.Mirrors s) (hd : s.delegation? txid = some d) :
    db.signatures.Perm (d.signatureRows ++ (s.others txid).flatMap (·.signatureRows)) :=
  h.signatures.trans ((MemoryStore.records_of_delegation? hd).flatMap_right _)

/-- A database that has the rows of the record `d` beside those of the others mirrors the store
after `d` is written. -/
theorem written (h : db.Mirrors s) (hd : d.IsStorable) {opened : Option Marker}
    (hopened : ∀ m ∈ opened, IsStorableHeight m.expireHeight)
    (hdelegations : db'.delegations.Perm (.ofDelegation d :: (s.others d.txid).map .ofDelegation))
    (hsignatures : db'.signatures.Perm
      (d.signatureRows ++ (s.others d.txid).flatMap (·.signatureRows)))
    (hmarkers : db'.markers.Perm ((s.written d.txid d opened).queue.elements.map .ofMarker))
    (hcursors : db'.cursors = db.cursors) : db'.Mirrors (s.written d.txid d opened) where
  storable := h.storable.written hd hopened
  delegations := hdelegations.trans ((s.records_written d.txid d opened).map _).symm
  signatures := hsignatures.trans ((s.records_written d.txid d opened).flatMap_right _).symm
  markers := hmarkers
  cursors := by
    rw [hcursors]
    exact h.cursors

/-! ## Signatures -/

/-- A key has a row for a transaction if and only if it has signed the record. -/
theorem hasSignature_iff (h : db.Mirrors s) {key : XOnlyKey} {signature : Signature} :
    db.hasSignature (.ofSignature txid key signature) = true ↔
      ∃ d, s.delegation? txid = some d ∧ d.signatures.contains key = true := by
  have hkeyed := h.storable.keyed
  rw [hasSignature, List.any_eq_true]
  constructor
  · -- texts of identifiers and of keys tell them apart
    rintro ⟨row, hrow, hkey⟩
    obtain ⟨d, hd, hrow⟩ := List.mem_flatMap.1 (h.signatures.mem_iff.1 hrow)
    obtain ⟨e, he, rfl⟩ := List.mem_map.1 hrow
    obtain ⟨htext, hkey⟩ := (Bool.and_eq_true _ _).mp hkey
    have htxid : d.txid = txid := Txid.text_inj (of_decide_eq_true htext)
    have hsigned : e.1 = key := XOnlyKey.text_inj (of_decide_eq_true hkey)
    refine ⟨d, htxid ▸ (MemoryStore.mem_records_iff hkeyed).1 hd, ?_⟩
    exact SortedMap.contains_eq_true_iff.2 ⟨e.2, SortedMap.mem_entries_iff.1 (hsigned ▸ he)⟩
  · rintro ⟨d, hd, hkey⟩
    obtain ⟨old, hold⟩ := SortedMap.contains_eq_true_iff.1 hkey
    obtain rfl := hkeyed txid d hd
    have hmem : SignatureRow.ofSignature d.txid key old ∈ d.signatureRows :=
      List.mem_map.2 ⟨(key, old), SortedMap.mem_entries_iff.2 hold, rfl⟩
    have hrecord := (MemoryStore.mem_records_iff hkeyed).2 hd
    refine ⟨_, h.signatures.mem_iff.2 (List.mem_flatMap.2 ⟨d, hrecord, hmem⟩), ?_⟩
    exact (Bool.and_eq_true _ _).mpr ⟨decide_eq_true rfl, decide_eq_true rfl⟩

end Mirrors

/-- Signatures of different keys that have no row are all inserted, in the order of `entries`. -/
theorem foldl_insertSignature {entries : List (XOnlyKey × Signature)}
    (hdistinct : (entries.map (·.1)).Nodup)
    (hnew : ∀ e ∈ entries, ¬db.hasSignature (.ofSignature txid e.1 e.2)) :
    entries.foldl (fun db e => db.insertSignature (.ofSignature txid e.1 e.2)) db =
      { db with signatures := db.signatures ++ entries.map fun e =>
          .ofSignature txid e.1 e.2 } := by
  -- by induction on the entries, with the rows inserted so far in `db`
  induction entries generalizing db with
  | nil => rw [List.map_nil, List.append_nil, List.foldl_nil]
  | cons e entries ih =>
    obtain ⟨he, hentries⟩ := List.forall_mem_cons.1 hnew
    obtain ⟨hother, hrest⟩ := List.nodup_cons.1 hdistinct
    rw [List.foldl_cons, insertSignature, if_neg he, ih hrest, List.map_cons, List.append_assoc]
    · rfl
    · -- the row that was just inserted has another key
      intro e' he' hhas
      rw [hasSignature, List.any_append, Bool.or_eq_true] at hhas
      rcases hhas with hold | hlast
      · exact hentries e' he' hold
      · rw [List.any_cons, List.any_nil, Bool.or_false, Bool.and_eq_true] at hlast
        have hkey : e.1 = e'.1 := XOnlyKey.text_inj (of_decide_eq_true hlast.2)
        exact hother (List.mem_map.2 ⟨e', he', hkey.symm⟩)

namespace Mirrors

/-- There are as many rows for a transaction as its record has signatures. -/
theorem countP_signatures (h : db.Mirrors s) (hd : s.delegation? txid = some d) :
    db.signatures.countP (·.txid = txid.text) = d.signatures.size := by
  obtain rfl := h.storable.keyed txid d hd
  have hrecord := (MemoryStore.mem_records_iff h.storable.keyed).2 hd
  have hown := h.hasSignatures (List.forall_mem_singleton.2 hrecord) d (List.mem_singleton_self d)
  rw [List.countP_eq_length_filter]
  exact hown.length_eq.trans (List.length_map _)

/-- The row of a new signature comes to those that its record has. -/
theorem insertSignature (h : db.Mirrors s) (hd : s.delegation? d.txid = some d) {key : XOnlyKey}
    (signature : Signature) (hnew : d.signatures.find? key = none) :
    { db with signatures :=
      db.signatures ++ [SignatureRow.ofSignature d.txid key signature] }.Mirrors
      (s.written d.txid { d with signatures := d.signatures.insert key signature } none) := by
  let signed : Delegation := { d with signatures := d.signatures.insert key signature }
  have hrows : signed.signatureRows.Perm
      (.ofSignature d.txid key signature :: d.signatureRows) := by
    have hentries := d.signatures.entries_insert key signature
    rw [SortedMap.erase_of_find? hnew] at hentries
    exact hentries.map _
  have hold := h.storable.records d ((MemoryStore.mem_records_iff h.storable.keyed).2 hd)
  have hstorable : signed.IsStorable := ⟨hold.startHeight, hold.expiryHeight, hold.slashing⟩
  have hdelegations := h.delegations_of_delegation? hd
  refine h.written hstorable nofun hdelegations ?_ h.markers rfl
  refine (List.perm_append_singleton _ _).trans ?_
  exact ((h.signatures_of_delegation? hd).cons _).trans (hrows.symm.append_right _)

/-- A signature is stored as in the memory store; where its record is missing, either side fails
with an error of its own. -/
theorem saveSignature (h : db.Mirrors s) (txid : Txid) (key : XOnlyKey) (signature : Signature) :
    (s.delegation? txid = none ∧
      db.saveSignature txid key signature =
        (.error (.data s!"no delegation with staking txid {txid.text}"), db) ∧
      s.saveSignature txid key signature = (.error .notFound, s)) ∨
    ∃ outcome, (db.saveSignature txid key signature).1 = .ok outcome ∧
      (s.saveSignature txid key signature).1 = .ok outcome ∧
      (db.saveSignature txid key signature).2.Mirrors (s.saveSignature txid key signature).2 := by
  rw [Database.saveSignature, h.delegationRow?_eq]
  rcases s.saveSignature_cases txid key signature with ⟨hnone, hsave⟩ | ⟨d, hd, hcases⟩
  · rw [hnone, hsave]
    exact .inl ⟨rfl, rfl, rfl⟩
  · refine .inr ?_
    rw [hd, Option.map_some, Option.isNone_some, if_neg Bool.false_ne_true]
    rcases hcases with ⟨hsigned, hsave⟩ | ⟨hunsigned, hsave⟩
    · rw [hsave, if_pos (h.hasSignature_iff.2 ⟨d, hd, hsigned⟩)]
      exact ⟨_, rfl, rfl, h⟩
    -- a new key gets a row, and the total counts the rows of the record
    · obtain rfl := h.storable.keyed txid d hd
      have hnew : ¬db.hasSignature (.ofSignature d.txid key signature) := by
        intro hhas
        obtain ⟨d', hd', hsigned⟩ := h.hasSignature_iff.1 hhas
        rw [hd] at hd'
        rw [← Option.some.inj hd'] at hsigned
        exact hunsigned hsigned
      have hnone : d.signatures.find? key = none := Option.not_isSome_iff_eq_none.1 hunsigned
      have hmirrors := h.insertSignature hd signature hnone
      have htotal := hmirrors.countP_signatures (s.delegation?_written_self d.txid _ none)
      rw [hsave, if_neg hnew, Database.insertSignature, if_neg hnew]
      exact ⟨_, congrArg (Except.ok ∘ SignatureOutcome.inserted) htotal, rfl, hmirrors⟩

/-! ## Records -/

/-- A record is inserted as into the memory store, or found there with the same answer. -/
theorem saveDelegation (h : db.Mirrors s) (hd : d.IsStorable) :
    (db.saveDelegation d).1 = (s.saveDelegation d).1 ∧
      (db.saveDelegation d).2.Mirrors (s.saveDelegation d).2 := by
  rw [Database.saveDelegation, h.delegationRow?_eq]
  rcases s.saveDelegation_cases d with ⟨d', hold, hsave⟩ | ⟨hnone, hsave⟩
  · rw [hold, hsave]
    exact ⟨rfl, h⟩
  · -- the row is new, and so are its signatures
    have hothers := MemoryStore.others_of_delegation? hnone
    rw [hnone, hsave, Option.map_none, Option.isSome_none, if_neg (by decide)]
    refine ⟨rfl, ?_⟩
    dsimp only
    rw [foldl_insertSignature d.signatures.nodup_keys]
    · refine h.written hd nofun ?_ ?_ h.markers rfl
      · rw [hothers]
        exact (List.perm_append_singleton _ _).trans (h.delegations.cons _)
      · rw [hothers]
        exact List.perm_append_comm.trans (h.signatures.append_left _)
    · intro e _ hhas
      obtain ⟨d', hd', -⟩ := h.hasSignature_iff.1 hhas
      rw [hnone] at hd'
      cases hd'

/-- A row may be changed if it is that of the record and the record is in one of the states to
leave. -/
theorem isQualified_ofDelegation {states : List State} :
    isQualified txid.text states (.ofDelegation d) = true ↔ d.txid = txid ∧ d.state ∈ states := by
  rw [isQualified, Bool.and_eq_true, decide_eq_true_iff, decide_eq_true_iff]
  exact and_congr ⟨Txid.text_inj, congrArg Txid.text⟩ State.name_mem_map

/-- The row of a changed record stands beside those of the others. -/
theorem delegations_map (h : db.Mirrors s) (hd : s.delegation? d.txid = some d) {u : StateUpdate}
    (horigin : d.state ∈ u.origins) :
    (db.delegations.map fun r => if isQualified d.txid.text u.origins r then r.update u else r).Perm
      (.ofDelegation (u.applyTo d) :: (s.others d.txid).map .ofDelegation) := by
  have hmap := (h.delegations_of_delegation? hd).map fun r =>
    if isQualified d.txid.text u.origins r then r.update u else r
  rw [List.map_cons, if_pos (isQualified_ofDelegation.2 ⟨rfl, horigin⟩),
    DelegationRow.update_ofDelegation, List.map_map] at hmap
  -- the others are records of other transactions
  have hothers : ∀ d' ∈ s.others d.txid, (if isQualified d.txid.text u.origins (.ofDelegation d')
      then (DelegationRow.ofDelegation d').update u else .ofDelegation d') = .ofDelegation d' := by
    intro d' hd'
    refine if_neg fun hqualified => ?_
    have hne := (MemoryStore.mem_others h.storable.keyed hd').2
    exact hne (isQualified_ofDelegation.1 hqualified).1
  exact hmap.trans (.cons _ (.of_eq (List.map_congr_left hothers)))

/-- The state of a record is changed by `u` as in the memory store, with the same answer. -/
theorem updateState (h : db.Mirrors s) {u : StateUpdate} (hu : u.IsStorable) (txid : Txid) :
    (db.updateState txid u).1 = (s.updateState txid u).1 ∧
      (db.updateState txid u).2.Mirrors (s.updateState txid u).2 := by
  rw [Database.updateState]
  rcases s.updateState_cases txid u with ⟨hfail, hupdate⟩ | ⟨d, hd, horigin, hupdate⟩
  · have hnone : ¬db.delegations.any (isQualified txid.text u.origins) = true := by
      intro hany
      obtain ⟨row, hrow, hqualified⟩ := List.any_eq_true.1 hany
      obtain ⟨d, hd, rfl⟩ := h.mem_delegations_iff.1 hrow
      obtain ⟨rfl, horigin⟩ := isQualified_ofDelegation.1 hqualified
      exact hfail d hd horigin
    rw [hupdate, if_neg hnone]
    exact ⟨rfl, h⟩
  · obtain rfl := h.storable.keyed txid d hd
    have hany : db.delegations.any (isQualified d.txid.text u.origins) = true :=
      List.any_eq_true.2 ⟨_, h.mem_delegations_iff.2 ⟨d, hd, rfl⟩,
        isQualified_ofDelegation.2 ⟨rfl, horigin⟩⟩
    let changed : Database := { db with
      delegations := db.delegations.map fun r =>
        if isQualified d.txid.text u.origins r then r.update u else r }
    have hold := h.storable.records d ((MemoryStore.mem_records_iff h.storable.keyed).2 hd)
    have hdelegations := h.delegations_map hd horigin
    have hsignatures := h.signatures_of_delegation? hd
    rw [hupdate, if_pos hany]
    -- the marker of an opened timelock is inserted with the change
    cases hlock : u.timelock with
    | none =>
      have htimelock : ∀ m ∈ (none : Option Marker), IsStorableHeight m.expireHeight := nofun
      have hwritten : changed.Mirrors (s.written d.txid (u.applyTo d) none) :=
        h.written (hu.applyTo hold) htimelock hdelegations hsignatures h.markers rfl
      exact ⟨rfl, hwritten⟩
    | some m =>
      have htimelock : ∀ m' ∈ some m, IsStorableHeight m'.expireHeight := hlock ▸ hu.timelock
      have hmarkers : changed.markers.Perm (s.queue.elements.map .ofMarker) := h.markers
      have hwritten : (changed.insertMarker (.ofMarker m)).Mirrors
          (s.written d.txid (u.applyTo d) (some m)) := by
        have hqueue := markers_insertMarker hmarkers m
        rw [insertMarker_eq]
        exact h.written (hu.applyTo hold) htimelock hdelegations hsignatures hqueue rfl
      exact ⟨rfl, hwritten⟩

end Mirrors

end Database

end StakeLedger
