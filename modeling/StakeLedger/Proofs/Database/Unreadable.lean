import StakeLedger.Proofs.Database.Answers

/-!
# Rows that Cannot Be Read

Every height and every transaction is written, but a height from two to the 63rd upwards stands as a
negative number in its column and is refused when it is read, and so is the text of a transaction
that is larger than a reader accepts. A record is read back from its row exactly if it is storable
(`DelegationRow.decode_ofDelegation_error` is the converse of `DelegationRow.decode_ofDelegation`).
The database makes such writes all the same, and fails when it is asked for the record or the cursor
afterwards.
-/

namespace StakeLedger

/-! ## Columns -/

namespace Column

/-- A number from `2 ^ 63` upwards is stored as a negative number. -/
theorem toInt64_neg {n : UInt64} (h : ¬n.toNat < 2 ^ 63) : n.toInt64 < 0 := by
  have hn := n.toNat_lt
  have hint : n.toInt64.toInt = (n.toNat : Int) - 2 ^ 64 := by
    show n.toBitVec.toInt = _
    rw [BitVec.toInt_eq_toNat_cond, if_neg]
    · rfl
    · show ¬2 * n.toNat < 2 ^ 64
      omega
  rw [Int64.lt_iff_toInt_lt, hint, Int64.toInt_zero]
  omega

/-- A height that is stored as a negative number is refused with `negativeHeight`. -/
theorem decodeHeight_encodeHeight_error {h : Height} (hh : ¬IsStorableHeight h)
    (expected : ExpectedNumber) :
    decodeHeight expected (encodeHeight h) = .error .negativeHeight :=
  if_pos (toInt64_neg hh)

/-- A height that is stored as a negative number comes before the others. -/
theorem compare_encodeHeight_negative {a b : Height} (ha : IsStorableHeight a)
    (hb : ¬IsStorableHeight b) : compare (encodeHeight a) (encodeHeight b) = .gt := by
  show compareOfLessAndEq a.toInt64 b.toInt64 = .gt
  have hneg : b.toInt64.toInt < 0 := Int64.lt_iff_toInt_lt.1 (toInt64_neg hb)
  have hpos : 0 ≤ a.toInt64.toInt := by simp [toInt_toInt64 ha]
  rw [compareOfLessAndEq, if_neg, if_neg]
  · rintro heq
    rw [heq] at hpos
    omega
  · rw [Int64.lt_iff_toInt_lt]
    omega

/-- The text of a transaction that is larger than `Transaction.sizeLimit` is refused. -/
theorem decodeTransaction_hex_error {t : Transaction}
    (h : ¬t.encode.length ≤ Transaction.sizeLimit) :
    decodeTransaction t.hex = .error (.undecodable .transaction) := by
  have hnone : Transaction.ofHex? t.hex = none := by
    rw [Transaction.ofHex?, Transaction.hex, String.toList_ofList, Hex.bytes?_ofBytes,
      Option.bind_some, Transaction.decode?, if_neg h]
  rw [decodeTransaction, decodeWith, hnone]

/-- Where an optional column fails, the failure has the `name` of the column. -/
theorem readOptional_cases {α β : Type} (name : String) (decode : β → Decoded α) (o : Option β) :
    (∃ cause, readOptional name decode o = .error (.column name cause)) ∨
      ∃ o', readOptional name decode o = .ok o' ∧ ∀ b ∈ o, ∃ a, decode b = .ok a := by
  cases o with
  | none => exact .inr ⟨none, rfl, by simp⟩
  | some b =>
    cases hb : decode b with
    | error cause => exact .inl ⟨cause, by rw [readOptional, read, hb]; rfl⟩
    | ok a => exact .inr ⟨some a, by rw [readOptional, read, hb]; rfl, by simpa using ⟨a, hb⟩⟩

end Column

open Column

/-! ## Rows -/

/-- A record that is not storable is not read back from its row: some column of it fails. -/
theorem DelegationRow.decode_ofDelegation_error {d : Delegation} (h : ¬d.IsStorable) :
    ∃ name cause, (ofDelegation d).decode = .error (.column name cause) := by
  have hsub : readOptional "sub_state" (decodeName SubState.ofName?) (d.subState.map (·.name)) =
      .ok (d.subState.map id) :=
    readOptional_map fun s _ => decodeName_subState s
  have houtput : readOptional "slashing_output" (decodeName SlashedOutput.ofName?)
      (d.slashing.map (·.output.name)) = .ok (d.slashing.map (·.output)) :=
    readOptional_map fun s _ => decodeName_slashedOutput s.output
  -- a height that is read was stored as it is
  have hheight : ∀ (h : Height), (∃ a, decodeHeight .optionalHeight (encodeHeight h) = .ok a) →
      IsStorableHeight h := by
    rintro h ⟨a, ha⟩
    by_contra hh
    rw [decodeHeight_encodeHeight_error hh] at ha
    cases ha
  have htransaction : ∀ (t : Transaction), (∃ a, decodeTransaction t.hex = .ok a) →
      t.encode.length ≤ Transaction.sizeLimit := by
    rintro t ⟨a, ha⟩
    by_contra ht
    rw [decodeTransaction_hex_error ht] at ha
    cases ha
  simp only [ofDelegation, decode, decodeTxid_text, decodeKey_text, decodeKeys_encodeKeys,
    decodeAmount_encodeAmount, decodeWord_encodeWord, decodeName_state, hsub, houtput]
  rcases readOptional_cases "start_height" (decodeHeight .optionalHeight)
    (d.startHeight.map encodeHeight) with ⟨cause, hstart⟩ | ⟨start, hstart, hstarts⟩
  · rw [hstart]
    exact ⟨_, _, rfl⟩
  rcases readOptional_cases "expiry_height" (decodeHeight .optionalHeight)
    (d.expiryHeight.map encodeHeight) with ⟨cause, hexpiry⟩ | ⟨expiry, hexpiry, hexpiries⟩
  · rw [hstart, hexpiry]
    exact ⟨_, _, rfl⟩
  rcases readOptional_cases "slashing_tx" decodeTransaction (d.slashing.map (·.transaction.hex))
    with ⟨cause, htx⟩ | ⟨tx, htx, htxs⟩
  · rw [hstart, hexpiry, htx]
    exact ⟨_, _, rfl⟩
  rcases readOptional_cases "slashing_height" (decodeHeight .optionalHeight)
    (d.slashing.map fun s => encodeHeight s.spendHeight) with
      ⟨cause, hspend⟩ | ⟨spend, hspend, hspends⟩
  · rw [hstart, hexpiry, htx, hspend]
    exact ⟨_, _, rfl⟩
  -- a record all of whose columns are read is storable
  refine absurd ⟨fun h hh => ?_, fun h hh => ?_, fun s hs => ⟨?_, ?_⟩⟩ h
  · exact hheight h (hstarts _ (Option.mem_map_of_mem _ hh))
  · exact hheight h (hexpiries _ (Option.mem_map_of_mem _ hh))
  · exact htransaction _ (htxs _ (Option.mem_map_of_mem _ hs))
  · exact hheight _ (hspends _ (Option.mem_map_of_mem _ hs))

/-- A cursor whose height is stored as a negative number is not read, whatever its version is. -/
theorem CursorRow.decode_negative (name : String) {height : Height} (h : ¬IsStorableHeight height)
    (version : Datum) :
    decode ⟨name, encodeHeight height, version⟩ =
      .error (.driver (.column "height" .negativeHeight)) := by
  simp only [decode, decodeHeight_encodeHeight_error h]
  rfl

/-- What a change of state records is stored as it is, so that a record which is storable after the
change `u` was changed by a storable one. -/
theorem StateUpdate.isStorable_of_applyTo {u : StateUpdate} {d : Delegation}
    (h : (u.applyTo d).IsStorable) : u.IsStorable where
  startHeight height hheight := h.startHeight height (by simp [applyTo, Option.mem_def.1 hheight])
  timelock m hm := h.expiryHeight m.expireHeight (by simp [applyTo, Option.mem_def.1 hm])
  slashing s hs := h.slashing s (by simp [applyTo, Option.mem_def.1 hs])

/-! ## Writes that Are Not Read Back -/

namespace Database.Mirrors

variable {db : Database} {s : MemoryStore}

/-- A change of state that is not storable is written, and the record is not read any more. -/
theorem updateState_unstorable (h : db.Mirrors s) {d : Delegation}
    (hd : s.delegation? d.txid = some d) {u : StateUpdate} (horigin : d.state ∈ u.origins)
    (hu : ¬u.IsStorable) :
    (db.updateState d.txid u).1 = .applied ∧
      ∃ name cause, (db.updateState d.txid u).2.getDelegation d.txid =
        .error (.driver (.column name cause)) := by
  have hany : db.delegations.any (isQualified d.txid.text u.origins) = true :=
    List.any_eq_true.2 ⟨_, h.mem_delegations_iff.2 ⟨d, hd, rfl⟩, isQualified_ofDelegation.2
      ⟨rfl, horigin⟩⟩
  obtain ⟨name, cause, herror⟩ := DelegationRow.decode_ofDelegation_error
    fun hstorable => hu (StateUpdate.isStorable_of_applyTo (d := d) hstorable)
  have hrows := h.delegations_map hd horigin
  rw [Database.updateState, if_pos hany]
  generalize hchanged : (db.delegations.map fun r =>
    if isQualified d.txid.text u.origins r then r.update u else r) = rows at hrows
  -- the row of the record is the only one for its transaction
  have hrow : rows.find? (·.txid = d.txid.text) = some (.ofDelegation (u.applyTo d)) := by
    refine find?_eq_of_unique (fun row hmem htext => ?_) fun row hrow => ?_
    · rcases List.mem_cons.1 (hrows.mem_iff.1 hmem) with rfl | hother
      · rfl
      · obtain ⟨d', hd', rfl⟩ := List.mem_map.1 hother
        exact absurd (Txid.text_inj (of_decide_eq_true htext))
          (MemoryStore.mem_others h.storable.keyed hd').2
    · obtain rfl := Option.some.inj hrow
      exact ⟨hrows.mem_iff.2 (List.mem_cons_self ..), decide_eq_true rfl⟩
  have hfails : ∀ db' : Database, db'.delegations = rows →
      db'.getDelegation d.txid = .error (.driver (.column name cause)) := by
    rintro db' rfl
    rw [Database.getDelegation, delegationRow?, hrow]
    simp only [herror]
    rfl
  cases u.timelock with
  | none => exact ⟨rfl, name, cause, hfails _ rfl⟩
  | some m =>
    refine ⟨rfl, name, cause, hfails _ ?_⟩
    dsimp only
    rw [insertMarker_eq]

/-- A cursor is advanced to a height that is not storable, and is not read any more. -/
theorem advanceCursor_unstorable (h : db.Mirrors s) (name : String) {height : Height}
    (hheight : ¬IsStorableHeight height) :
    (db.advanceCursor name (s.cursor name).version height).1 =
        .ok (.advanced ⟨height, (s.cursor name).version + 1⟩) ∧
      (db.advanceCursor name (s.cursor name).version height).2.getCursor name =
        .error (.driver (.column "height" .negativeHeight)) := by
  have hfails : ∀ (rows : List CursorRow) (version : Datum),
      rows.find? (·.name = name) = some ⟨name, encodeHeight height, version⟩ →
      ({ db with cursors := rows } : Database).getCursor name =
        .error (.driver (.column "height" .negativeHeight)) := by
    intro rows version hrow
    rw [Database.getCursor, hrow]
    exact CursorRow.decode_negative name hheight version
  rw [Database.advanceCursor]
  cases hc : s.cursors.find? name with
  -- the first row of the cursor is inserted
  | none =>
    have hzero : (s.cursor name).version = 0 := h.storable.version_eq_zero_iff.2 hc
    have hany : ¬db.cursors.any (·.name = name) = true := by
      rw [h.any_name_iff, hc]
      simp
    rw [if_pos hzero, if_neg hany, hzero]
    refine ⟨rfl, hfails _ (.integer 1) ?_⟩
    rw [List.find?_append, h.cursorRow_eq, hc]
    simp
  -- the row of the cursor is overwritten
  | some c =>
    have hcursor : s.cursor name = c := by rw [MemoryStore.cursor, hc, Option.getD_some]
    have hnonzero : c.version ≠ 0 := by
      intro hzero
      have hpos := (h.storable.cursors name c hc).version_pos
      rw [hzero] at hpos
      cases hpos
    rw [hcursor, if_neg hnonzero, if_pos (h.any_isAt_iff.2 ⟨c, hc, rfl⟩)]
    exact ⟨rfl, hfails _ _ (h.cursorRow_map hc height)⟩

/-- A query below a height that is stored as a negative number finds nothing. -/
theorem dueMarkers_negative (h : db.Mirrors s) {tip : Height} (htip : ¬IsStorableHeight tip)
    (limit : Nat) : db.dueMarkers tip none limit = .ok [] := by
  have hnone : (db.markers.filter fun r => (compare r.expireHeight (encodeHeight tip)).isLE) =
      [] := by
    refine List.filter_eq_nil_iff.2 fun row hrow => ?_
    obtain ⟨m, hm, rfl⟩ := List.mem_map.1 (h.markers.mem_iff.1 hrow)
    show ¬(compare (encodeHeight m.expireHeight) _).isLE = true
    rw [compare_encodeHeight_negative (h.storable.queue m hm) htip]
    exact Bool.false_ne_true
  simp only [Database.dueMarkers, hnone, List.mergeSort_nil, List.take_nil]
  rfl

end Database.Mirrors

end StakeLedger
