import StakeLedger.Proofs.Database.Loading
import StakeLedger.Proofs.Store.Records

/-!
# The Database as a Mirror of the Memory Store

The database mirrors the memory store (`Database.Mirrors`) if its tables hold the rows of what is in
the memory store, in any order, and all of it is read back from these rows. Then the queries for
delegations are answered as by the memory store; the lists that two of them give may differ in their
order.
-/

namespace StakeLedger

/-- A cursor that is read back from its row, which it has once it was advanced: its version is
positive then, and both numbers are below `2 ^ 63`. -/
structure Cursor.IsStorable (c : Cursor) : Prop where
  height : IsStorableHeight c.height
  /-- The cursor was advanced at least once. -/
  version_pos : 0 < c.version.toNat
  version_lt : c.version.toNat < 2 ^ 63

/-- The row of the cursor `c` under `name`. -/
def CursorRow.ofCursor (name : String) (c : Cursor) : CursorRow :=
  ⟨name, Column.encodeHeight c.height, .integer c.version.toInt64⟩

/-- A memory store all of whose contents are read back from their rows. -/
structure MemoryStore.IsStorable (s : MemoryStore) : Prop where
  /-- Records are kept under the identifier that is in their row. -/
  keyed : s.IsKeyed
  records : ∀ d ∈ s.records, d.IsStorable
  queue : ∀ m ∈ s.queue, IsStorableHeight m.expireHeight
  cursors : ∀ name c, s.cursors.find? name = some c → c.IsStorable

namespace Database

/-- The database `db` holds the rows of the contents of the memory store `s`, in any order and no
others. -/
structure Mirrors (db : Database) (s : MemoryStore) : Prop where
  /-- The contents of `s` are read back from their rows. -/
  storable : s.IsStorable
  /-- The table of delegations has the rows of the records, each without its signatures. -/
  delegations : db.delegations.Perm (s.records.map .ofDelegation)
  /-- The table of signatures has, for every record, the rows of its signatures. -/
  signatures : db.signatures.Perm (s.records.flatMap (·.signatureRows))
  /-- The table of markers has the rows of the queue. -/
  markers : db.markers.Perm (s.queue.elements.map .ofMarker)
  /-- The table of cursors has the rows of the cursors that were advanced. -/
  cursors : db.cursors.Perm (s.cursors.entries.map fun e => .ofCursor e.1 e.2)

/-- The empty database mirrors the empty store. -/
theorem mirrors_empty : empty.Mirrors .empty where
  storable := {
    keyed := fun _ _ h => by cases h
    records := fun _ h => by cases h
    queue := fun _ h => by cases h
    cursors := fun _ _ h => by cases h }
  delegations := .nil
  signatures := .nil
  markers := .nil
  cursors := .nil

variable {db : Database} {s : MemoryStore}

namespace Mirrors

/-! ## Rows of Records -/

theorem mem_delegations_iff (h : db.Mirrors s) {row : DelegationRow} :
    row ∈ db.delegations ↔ ∃ d, s.delegation? d.txid = some d ∧ .ofDelegation d = row := by
  simp only [h.delegations.mem_iff, List.mem_map, MemoryStore.mem_records_iff h.storable.keyed]

/-- The row that is found for a transaction is that of its record. -/
theorem delegationRow?_eq (h : db.Mirrors s) (txid : Txid) :
    db.delegationRow? txid.text = (s.delegation? txid).map .ofDelegation := by
  refine find?_eq_of_unique (fun row hrow htext => ?_) fun row hrow => ?_
  · obtain ⟨d, hd, rfl⟩ := h.mem_delegations_iff.1 hrow
    obtain rfl : d.txid = txid := Txid.text_inj (of_decide_eq_true htext)
    rw [hd]
    rfl
  · obtain ⟨d, hd, rfl⟩ := Option.map_eq_some_iff.1 hrow
    obtain rfl := h.storable.keyed txid d hd
    exact ⟨h.mem_delegations_iff.2 ⟨d, hd, rfl⟩, decide_eq_true rfl⟩

/-- The table of signatures has those of any records that are in the memory store. -/
theorem hasSignatures (h : db.Mirrors s) {records : List Delegation}
    (hrecords : ∀ d ∈ records, d ∈ s.records) : db.HasSignatures records := by
  intro d hd
  have hkeyed := h.storable.keyed
  have hfound := (MemoryStore.mem_records_iff hkeyed).1 (hrecords d hd)
  have hothers : ∀ d' ∈ s.others d.txid, d'.txid ≠ d.txid := fun d' hd' =>
    (MemoryStore.mem_others hkeyed hd').2
  have hrows := (h.signatures.trans
    ((MemoryStore.records_of_delegation? hfound).flatMap_right (·.signatureRows))).filter
      (·.txid = d.txid.text)
  rwa [Delegation.filter_signatureRows hothers] at hrows

/-! ## Queries for Records -/

/-- A record is read with its signatures as from the memory store: `s.delegation? txid`. -/
theorem getDelegation (h : db.Mirrors s) (txid : Txid) :
    db.getDelegation txid = .ok (s.delegation? txid) := by
  rw [Database.getDelegation, h.delegationRow?_eq]
  cases hd : s.delegation? txid with
  | none => rfl
  | some d =>
    obtain rfl := h.storable.keyed txid d hd
    have hmem := (MemoryStore.mem_records_iff h.storable.keyed).2 hd
    have hdecode := DelegationRow.decode_ofDelegation (h.storable.records d hmem)
    have hsignatures : db.HasSignatures [d] := h.hasSignatures fun d' hd' => by
      rwa [List.mem_singleton.1 hd']
    obtain ⟨signatures, hread, htxids, hown⟩ := decode_signatureRows hsignatures
    -- only rows for this one record were asked for
    have hall : signatures.filter (·.1 = d.txid) = signatures := by
      refine List.filter_eq_self.2 fun e he => decide_eq_true ?_
      obtain ⟨d', hd', heq⟩ := htxids e he
      rwa [List.mem_singleton.1 hd'] at heq
    have hentries := hown d (List.mem_singleton_self d)
    rw [hall] at hentries
    rw [List.map_singleton] at hread
    have hwhole : { d.unsigned with signatures := SortedMap.ofList (signatures.map (·.2)) } =
        d := by
      rw [SortedMap.ofList_of_perm hentries]
      rfl
    simp only [Option.map_some, hdecode, hread]
    exact congrArg (fun d => Except.ok (some d)) hwhole

/-- Records that are selected by a property of their rows are loaded from `rows`, the rows with this
property in any order. -/
theorem load_filter (h : db.Mirrors s) {rows : List DelegationRow} (p : DelegationRow → Bool)
    (hrows : rows.Perm (db.delegations.filter p)) :
    ∃ l, db.load rows = .ok l ∧ l.Perm (s.records.filter fun d => p (.ofDelegation d)) := by
  have hselected : rows.Perm ((s.records.filter fun d => p (.ofDelegation d)).map
      .ofDelegation) := by
    refine hrows.trans ((h.delegations.filter p).trans ?_)
    rw [List.filter_map]
    exact .refl _
  obtain ⟨l, hperm, rfl⟩ := exists_map_eq_of_perm hselected
  have hmem : ∀ d ∈ l, d ∈ s.records := fun d hd => List.mem_of_mem_filter (hperm.mem_iff.1 hd)
  exact ⟨l, load_map (fun d hd => h.storable.records d (hmem d hd))
    (MemoryStore.nodup_selected h.storable.keyed hperm) (h.hasSignatures hmem), hperm⟩

/-- The records whose state is in `states` are listed, in some order. -/
theorem delegationsByStates (h : db.Mirrors s) (states : List State) :
    ∃ l, db.delegationsByStates states = .ok l ∧
      l.Perm (s.records.filter fun d => d.state ∈ states) := by
  obtain ⟨l, hload, hperm⟩ := h.load_filter (fun r => r.state ∈ states.map (·.name))
    (List.mergeSort_perm _ fun a b => (compare a.state b.state).isLE)
  refine ⟨l, hload, ?_⟩
  have hsame : (s.records.filter fun d => d.state.name ∈ states.map (·.name)) =
      s.records.filter fun d => d.state ∈ states :=
    List.filter_congr fun d _ => decide_eq_decide.2 State.name_mem_map
  rwa [← hsame]

/-- A row is read, without signatures, if its list of finality providers names `provider`; its
record names the same providers. -/
theorem decodeIfProvided_ofDelegation {d : Delegation} (h : d.IsStorable) (provider : XOnlyKey) :
    decodeIfProvided provider (.ofDelegation d) =
      .ok (if provider ∈ d.stake.providers then some d.unsigned else none) := by
  have hsearch : KeyList.searched? (DelegationRow.ofDelegation d).providers =
      some (Column.keyTexts d.stake.providers) := KeyList.searched?_encodeKeys d.stake.providers
  rw [decodeIfProvided, hsearch, DelegationRow.decode_ofDelegation h]
  simp only [KeyList.text_mem_keyTexts]
  split <;> rfl

/-- The records that have `provider` among their finality providers are listed, in some order. -/
theorem delegationsByProvider (h : db.Mirrors s) (provider : XOnlyKey) :
    ∃ l, db.delegationsByProvider provider = .ok l ∧
      l.Perm (s.records.filter fun d => provider ∈ d.stake.providers) := by
  obtain ⟨records, hperm, hrows⟩ := exists_map_eq_of_perm h.delegations
  have hread := decodeAll_map fun d hd =>
    decodeIfProvided_ofDelegation (h.storable.records d (hperm.mem_iff.1 hd)) provider
  have hselected := hperm.filter fun d => decide (provider ∈ d.stake.providers)
  refine ⟨_, ?_, hselected⟩
  rw [Database.delegationsByProvider, ← hrows, hread]
  change db.withSignatures _ = _
  rw [filterMap_map_ite]
  exact withSignatures_unsigned (MemoryStore.nodup_selected h.storable.keyed hselected)
    (h.hasSignatures fun d hd => hperm.mem_iff.1 (List.mem_of_mem_filter hd))

end Mirrors

end Database

end StakeLedger
