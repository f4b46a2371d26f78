import StakeLedger.Database.Row
import StakeLedger.Proofs.Database.Columns

/-!
# Reading Back Rows

Where heights are below two to the 63rd and slashing transactions are of the size a reader accepts,
every row that is written is read back. A change of state does the same to a row and to the record
it stands for (`DelegationRow.update_ofDelegation`), and the rows of markers are ordered as the
markers (`MarkerRow.compareKey_ofMarker`).
-/

namespace StakeLedger

/-- A slashing that is read back from its columns. -/
structure Slashing.IsStorable (s : Slashing) : Prop where
  /-- The transaction is of a size that a reader accepts, at most `Transaction.sizeLimit` bytes. -/
  transaction : s.transaction.encode.length ≤ Transaction.sizeLimit
  spendHeight : IsStorableHeight s.spendHeight

/-- A record that is read back from its row: every height in it is below `2 ^ 63`. -/
structure Delegation.IsStorable (d : Delegation) : Prop where
  startHeight : ∀ h ∈ d.startHeight, IsStorableHeight h
  expiryHeight : ∀ h ∈ d.expiryHeight, IsStorableHeight h
  slashing : ∀ s ∈ d.slashing, s.IsStorable

/-- The record of a stake that has just been seen is read back, whatever the stake. -/
theorem Delegation.isStorable_ofStake (stake : Stake) : (ofStake stake).IsStorable where
  startHeight _ h := by cases h
  expiryHeight _ h := by cases h
  slashing _ h := by cases h

/-- A change of state all parts of which are read back once they are written. -/
structure StateUpdate.IsStorable (u : StateUpdate) : Prop where
  startHeight : ∀ h ∈ u.startHeight, IsStorableHeight h
  timelock : ∀ m ∈ u.timelock, IsStorableHeight m.expireHeight
  slashing : ∀ s ∈ u.slashing, s.IsStorable

/-- The record `d` without its signatures, which are stored in rows of their own. -/
def Delegation.unsigned (d : Delegation) : Delegation := { d with signatures := .empty }

open Column

/-- An optional column is read back if what it holds is. -/
theorem Column.readOptional_map {α β γ : Type} {name : String} {decode : β → Decoded γ}
    {encode : α → β} {part : α → γ} {o : Option α} (h : ∀ a ∈ o, decode (encode a) = .ok (part a)) :
    readOptional name decode (o.map encode) = .ok (o.map part) := by
  cases o with
  | none => rfl
  | some a =>
    rw [Option.map_some, readOptional, read, h a rfl]
    rfl

namespace SignatureRow

theorem decode_ofSignature (txid : Txid) (key : XOnlyKey) (signature : Signature) :
    (ofSignature txid key signature).decode = .ok (txid, key, signature) := by
  simp only [ofSignature, decode, decodeTxid_text, decodeKey_text, decodeSignature_text]
  rfl

end SignatureRow

namespace DelegationRow

/-- A record is read back from its row as `d.unsigned`. -/
theorem decode_ofDelegation {d : Delegation} (h : d.IsStorable) :
    (ofDelegation d).decode = .ok d.unsigned := by
  -- the columns that may be null, one by one; the three of a slashing are null together
  have hsub : readOptional "sub_state" (decodeName SubState.ofName?) (d.subState.map (·.name)) =
      .ok (d.subState.map id) :=
    readOptional_map fun s _ => decodeName_subState s
  have hheight {name : String} {o : Option Height} (ho : ∀ a ∈ o, IsStorableHeight a) :
      readOptional name (decodeHeight .optionalHeight) (o.map encodeHeight) = .ok (o.map id) :=
    readOptional_map fun a ha => decodeHeight_encodeHeight (ho a ha) _
  have houtput : readOptional "slashing_output" (decodeName SlashedOutput.ofName?)
      (d.slashing.map (·.output.name)) = .ok (d.slashing.map (·.output)) :=
    readOptional_map fun s _ => decodeName_slashedOutput s.output
  have htransaction : readOptional "slashing_tx" decodeTransaction
      (d.slashing.map (·.transaction.hex)) = .ok (d.slashing.map (·.transaction)) :=
    readOptional_map fun s hs => decodeTransaction_hex (h.slashing s hs).transaction
  have hspend : readOptional "slashing_height" (decodeHeight .optionalHeight)
      (d.slashing.map fun s => encodeHeight s.spendHeight) = .ok (d.slashing.map (·.spendHeight)) :=
    readOptional_map fun s hs => decodeHeight_encodeHeight (h.slashing s hs).spendHeight _
  simp only [ofDelegation, decode, decodeTxid_text, decodeKey_text, decodeKeys_encodeKeys,
    decodeAmount_encodeAmount, decodeWord_encodeWord, decodeName_state, hsub, hheight h.startHeight,
    hheight h.expiryHeight, houtput, htransaction, hspend, Option.map_id, Delegation.unsigned]
  cases d.slashing <;> rfl

/-- A change of state is the same for a record and its row: `ofDelegation` commutes with it. -/
theorem update_ofDelegation (u : StateUpdate) (d : Delegation) :
    (ofDelegation d).update u = ofDelegation (u.applyTo d) := by
  simp only [ofDelegation, update, StateUpdate.applyTo, Delegation.txid, Option.map_or,
    Option.map_map]
  rfl

end DelegationRow

/-- A change of state that is storable keeps a record storable. -/
theorem StateUpdate.IsStorable.applyTo {u : StateUpdate} {d : Delegation} (hu : u.IsStorable)
    (hd : d.IsStorable) : (u.applyTo d).IsStorable where
  startHeight h hh := by
    rcases Option.or_eq_some_iff.1 hh with hnew | ⟨-, hold⟩
    · exact hu.startHeight h hnew
    · exact hd.startHeight h hold
  expiryHeight h hh := by
    rcases Option.or_eq_some_iff.1 hh with hnew | ⟨-, hold⟩
    · obtain ⟨m, hm, rfl⟩ := Option.map_eq_some_iff.1 hnew
      exact hu.timelock m hm
    · exact hd.expiryHeight h hold
  slashing s hs := by
    rcases Option.or_eq_some_iff.1 hs with hnew | ⟨-, hold⟩
    · exact hu.slashing s hnew
    · exact hd.slashing s hold

namespace MarkerRow

/-- A marker is read back from its row if its height is below `2 ^ 63`. -/
theorem decode_ofMarker {m : Marker} (h : IsStorableHeight m.expireHeight) :
    (ofMarker m).decode = .ok m := by
  simp only [ofMarker, decode, decodeHeight_encodeHeight h, decodeTxid_text, decodeName_subState]
  rfl

/-- Different markers have different rows, whatever their heights. -/
theorem ofMarker_inj {a b : Marker} (h : ofMarker a = ofMarker b) : a = b := by
  rw [ofMarker, ofMarker, MarkerRow.mk.injEq] at h
  obtain ⟨hheight, htxid, hname⟩ := h
  have hsub := congrArg SubState.ofName? hname
  rw [SubState.ofName?_name, SubState.ofName?_name] at hsub
  cases a
  cases b
  obtain rfl := toInt64_inj (Datum.integer.inj hheight)
  obtain rfl := Txid.text_inj htxid
  obtain rfl := Except.ok.inj hsub
  rfl

theorem rank_ofMarker (m : Marker) : (ofMarker m).rank = m.subState.index := by
  cases h : m.subState <;> rw [rank, ofMarker, h] <;> rfl

/-- Rows are ordered as the markers `a` and `b` they stand for, if the heights are below
`2 ^ 63`. -/
theorem compareKey_ofMarker {a b : Marker} (ha : IsStorableHeight a.expireHeight)
    (hb : IsStorableHeight b.expireHeight) :
    (ofMarker a).compareKey (ofMarker b) = compare a b := by
  rw [compareKey, rank_ofMarker, rank_ofMarker, Marker.compare_eq]
  change (compare (encodeHeight _) (encodeHeight _)).then
    ((compare a.txid.text b.txid.text).then _) = _
  rw [compare_encodeHeight ha hb, Txid.compare_text]
  rfl

end MarkerRow

/-- The name of `s` is among those of `states` if and only if `s` is one of them. -/
theorem State.name_mem_map {s : State} {states : List State} :
    s.name ∈ states.map (·.name) ↔ s ∈ states := by
  constructor
  · intro h
    obtain ⟨t, ht, hname⟩ := List.mem_map.1 h
    have hread := congrArg ofName? hname
    rw [ofName?_name, ofName?_name] at hread
    rwa [← Except.ok.inj hread]
  · exact List.mem_map_of_mem

end StakeLedger
