import StakeLedger.Proofs.Store.Memory
import StakeLedger.Store.Disturbance

/-!
# Listing the Records of the Memory Store

Where every record is kept under its own identifier (`MemoryStore.IsKeyed`), the list of records
says all that is found in the store (`mem_records_iff`), and a write puts its record in place of the
one with the same identifier (`records_written`).
-/

namespace StakeLedger.MemoryStore

variable {s : MemoryStore} {txid : Txid} {d : Delegation}

/-- Every record of the store is kept under its own identifier. -/
def IsKeyed (s : MemoryStore) : Prop := ∀ txid d, s.delegation? txid = some d → d.txid = txid

/-- The records of the memory store in the order of their identifiers. -/
def records (s : MemoryStore) : List Delegation := s.delegations.values

/-- The records apart from the one of `txid`. -/
def others (s : MemoryStore) (txid : Txid) : List Delegation := (s.delegations.erase txid).values

/-- The record of `txid` is listed with the `others`. -/
theorem records_of_delegation? (h : s.delegation? txid = some d) :
    s.records.Perm (d :: s.others txid) :=
  (SortedMap.entries_of_find? h).map Prod.snd

/-- If there is no record of `txid`, the `others` are all records. -/
theorem others_of_delegation? (h : s.delegation? txid = none) : s.others txid = s.records := by
  rw [others, SortedMap.erase_of_find? h, records]

/-- A record that is written is listed with the `others`. -/
theorem records_written (s : MemoryStore) (txid : Txid) (d : Delegation) (opened : Option Marker) :
    (s.written txid d opened).records.Perm (d :: s.others txid) :=
  (s.delegations.entries_insert txid d).map Prod.snd

/-- A store stays keyed when a record is written under its own identifier. -/
theorem IsKeyed.written (h : s.IsKeyed) (hd : d.txid = txid) (opened : Option Marker) :
    (s.written txid d opened).IsKeyed := by
  intro txid' d' hd'
  by_cases heq : txid' = txid
  · rw [heq, delegation?_written_self] at hd'
    rw [heq, ← Option.some.inj hd', hd]
  · rw [delegation?_written_of_ne s d opened heq] at hd'
    exact h txid' d' hd'

/-- Whatever a keyed store is asked, it stays keyed: records are written under their identifiers. -/
theorem IsKeyed.answer (h : s.IsKeyed) (r : Request) : (backend.answer r s).2.IsKeyed := by
  have halters := s.alters_answer r
  show (s.answer r).2.IsKeyed
  generalize (s.answer r).2 = s' at halters ⊢
  cases halters with
  | created _ => exact h.written rfl none
  | @moved txid u d hd _ =>
    have htxid : (u.applyTo d).txid = txid := h txid d hd
    exact h.written htxid u.timelock
  | @signed txid key signature d hd _ =>
    have htxid : { d with signatures := d.signatures.insert key signature }.txid = txid :=
      h txid d hd
    exact h.written htxid none
  | unchanged | queued | unqueued | advanced => exact h

theorem IsKeyed.run {α : Type} (h : s.IsKeyed) (p : Program α) : (p.run backend s).2.IsKeyed := by
  induction p generalizing s with
  | done a => exact h
  | call r next ih => exact ih _ (h.answer r)

theorem IsKeyed.of_run {α : Type} (h : s.IsKeyed) {p : Program α} {a : α} {s' : MemoryStore}
    (hrun : p.run backend s = (a, s')) : s'.IsKeyed := by
  have hs' := h.run p
  rwa [hrun] at hs'

/-- Whatever `requests` a store has answered since it was empty, it is keyed. -/
theorem isKeyed_replay (requests : List Request) :
    (Disturbed.replay backend requests empty).IsKeyed := by
  have hreplay : ∀ s : MemoryStore, s.IsKeyed → (Disturbed.replay backend requests s).IsKeyed := by
    induction requests with
    | nil => exact fun s hs => hs
    | cons r requests ih => exact fun s hs => ih _ (hs.answer r)
  exact hreplay empty fun txid d hd => by cases hd

/-- The records are what is found in the store. -/
theorem mem_records_iff (h : s.IsKeyed) : d ∈ s.records ↔ s.delegation? d.txid = some d := by
  constructor
  · intro hd
    obtain ⟨⟨txid, d⟩, hentry, rfl⟩ := List.mem_map.1 hd
    have hfound := SortedMap.mem_entries_iff.1 hentry
    rwa [← delegation?, ← h txid d hfound] at hfound
  · intro hd
    exact List.mem_map.2 ⟨(d.txid, d), SortedMap.mem_entries_iff.2 hd, rfl⟩

/-- No two records have the same identifier, if each is kept under its own. -/
theorem nodup_records (h : s.IsKeyed) : (s.records.map (·.txid)).Nodup := by
  have hkeys : s.records.map (·.txid) = s.delegations.keys := by
    rw [records, SortedMap.values, List.map_map]
    exact List.map_congr_left fun e he => h e.1 e.2 (SortedMap.mem_entries_iff.1 he)
  rw [hkeys]
  exact s.delegations.nodup_keys

/-- No two records that `p` selects have the same identifier. -/
theorem nodup_selected (h : s.IsKeyed) {l : List Delegation} {p : Delegation → Bool}
    (hl : l.Perm (s.records.filter p)) : (l.map (·.txid)).Nodup := by
  have hsublist : (s.records.filter p).Sublist s.records := List.filter_sublist
  exact (hl.map _).nodup_iff.2 ((nodup_records h).sublist (hsublist.map _))

/-- Where every record has become its image under `f`, so have the listed ones. -/
theorem records_map {s' : MemoryStore} {f : Delegation → Delegation}
    (h : ∀ txid, s'.delegation? txid = (s.delegation? txid).map f) :
    s'.records.Perm (s.records.map f) := by
  have hkeys : ((s.delegations.entries.map fun e => (e.1, f e.2)).map Prod.fst).Nodup := by
    rw [List.map_map]
    exact s.delegations.nodup_keys
  have hnodup : (s.delegations.entries.map fun e => (e.1, f e.2)).Nodup :=
    List.Pairwise.of_map _ (fun _ _ hne heq => hne (congrArg _ heq)) hkeys
  -- no entry is listed twice on either side, so that the same members are enough
  have hentries : s'.delegations.entries.Perm (s.delegations.entries.map fun e =>
      (e.1, f e.2)) := by
    refine (List.perm_ext_iff_of_nodup s'.delegations.nodup_entries hnodup).2 fun e => ?_
    obtain ⟨txid, d⟩ := e
    rw [SortedMap.mem_entries_iff, ← delegation?, h, delegation?, Option.map_eq_some_iff]
    simp only [List.mem_map, Prod.exists, Prod.mk.injEq, SortedMap.mem_entries_iff]
    constructor
    · rintro ⟨d', hd', heq⟩
      exact ⟨txid, d', hd', rfl, heq⟩
    · rintro ⟨_, d', hd', rfl, heq⟩
      exact ⟨d', hd', heq⟩
  have hvalues := hentries.map Prod.snd
  rw [List.map_map] at hvalues
  rw [records, records, SortedMap.values, SortedMap.values, List.map_map]
  exact hvalues

/-- The `others` are records of other identifiers. -/
theorem mem_others (h : s.IsKeyed) (hd : d ∈ s.others txid) : d ∈ s.records ∧ d.txid ≠ txid := by
  obtain ⟨⟨txid', d⟩, hentry, rfl⟩ := List.mem_map.1 hd
  have hfound := SortedMap.mem_entries_iff.1 hentry
  rw [SortedMap.find?_erase] at hfound
  split at hfound
  next => cases hfound
  next hne =>
    have htxid := h txid' d hfound
    refine ⟨List.mem_map.2 ⟨(txid', d), SortedMap.mem_entries_iff.2 hfound, rfl⟩, fun heq => hne ?_⟩
    rw [← htxid, heq]
    exact Std.ReflCmp.compare_self

end StakeLedger.MemoryStore
