import StakeLedger.Proofs.Interleaving.Requests
import StakeLedger.Proofs.Store.Records

/-!
# Programs that Are Confined to One Delegation

A request that concerns one delegation is answered from its record, and rewrites this record at most
(`Request.Concerns.answer_eq`). A program that makes only such requests is confined to the
delegation (`Program.IsConfinedTo`): on stores that hold the same record it comes to the same result
and leaves the same record and markers, and it leaves the other delegations alone.
-/

namespace StakeLedger

variable {txid txid' : Txid} {s t u : MemoryStore}

namespace MemoryStore

/-- The stores `s` and `t` hold the same of the delegation `txid`. -/
structure AgreesOn (txid : Txid) (s t : MemoryStore) : Prop where
  /-- The record of `txid` is the same. -/
  record : t.delegation? txid = s.delegation? txid
  /-- The same markers of `txid` are queued. -/
  markers : ∀ m : Marker, m.txid = txid → (m ∈ t.queue ↔ m ∈ s.queue)

/-- What has become of `s` is `t`, which is the same apart from the delegation `txid`. -/
structure DiffersOnlyAt (txid : Txid) (s t : MemoryStore) : Prop where
  /-- The delegations other than `txid` are as they were. -/
  others : ∀ txid', txid' ≠ txid → s.AgreesOn txid' t
  cursors : t.cursors = s.cursors

theorem AgreesOn.refl (txid : Txid) (s : MemoryStore) : s.AgreesOn txid s := ⟨rfl, fun _ _ => .rfl⟩

theorem AgreesOn.symm (h : s.AgreesOn txid t) : t.AgreesOn txid s :=
  ⟨h.record.symm, fun m hm => (h.markers m hm).symm⟩

theorem AgreesOn.trans (h : s.AgreesOn txid t) (h' : t.AgreesOn txid u) : s.AgreesOn txid u :=
  ⟨h'.record.trans h.record, fun m hm => (h'.markers m hm).trans (h.markers m hm)⟩

theorem DiffersOnlyAt.refl (txid : Txid) (s : MemoryStore) : s.DiffersOnlyAt txid s :=
  ⟨fun txid' _ => .refl txid' s, rfl⟩

theorem DiffersOnlyAt.trans (h : s.DiffersOnlyAt txid t) (h' : t.DiffersOnlyAt txid u) :
    s.DiffersOnlyAt txid u :=
  ⟨fun txid' hne => (h.others txid' hne).trans (h'.others txid' hne), h'.cursors.trans h.cursors⟩

/-- Stores that agree on every delegation hold the same delegations and markers, so that they are
equal if their cursors are. -/
theorem eq_of_agreesOn (h : ∀ txid, s.AgreesOn txid t) (hcursors : t.cursors = s.cursors) :
    t = s := by
  obtain ⟨delegations, queue, cursors⟩ := s
  obtain ⟨delegations', queue', cursors'⟩ := t
  obtain rfl : delegations' = delegations := SortedMap.eq_of_find? fun txid => (h txid).record
  obtain rfl : queue' = queue := SortedSet.eq_of_mem_iff fun m => (h m.txid).markers m rfl
  rw [mk.injEq]
  exact ⟨rfl, rfl, hcursors⟩

/-! ## Writes -/

/-- The store once the record of `txid` is rewritten, if it is: the record, and the marker that is
queued with it. -/
def rewritten (s : MemoryStore) (txid : Txid) : Option (Delegation × Option Marker) → MemoryStore
  | none => s
  | some (d, opened) => s.written txid d opened

theorem AgreesOn.written (h : s.AgreesOn txid t) (d : Delegation) (opened : Option Marker) :
    (s.written txid d opened).AgreesOn txid (t.written txid d opened) where
  record := by rw [delegation?_written_self, delegation?_written_self]
  markers m hm := by rw [mem_queue_written, mem_queue_written, h.markers m hm]

/-- Stores that agree on a delegation still do after the same `change` of it, which may be none. -/
theorem AgreesOn.rewritten (h : s.AgreesOn txid t) (change : Option (Delegation × Option Marker)) :
    (s.rewritten txid change).AgreesOn txid (t.rewritten txid change) := by
  cases change with
  | none => exact h
  | some change => exact h.written change.1 change.2

/-- A write leaves the other delegations alone if the marker `opened` that it queues belongs to its
own. -/
theorem differsOnlyAt_written (s : MemoryStore) (d : Delegation) {opened : Option Marker}
    (hopened : ∀ m, opened = some m → m.txid = txid) :
    s.DiffersOnlyAt txid (s.written txid d opened) where
  others txid' hne := by
    refine ⟨delegation?_written_of_ne s d opened hne, fun m hm => ?_⟩
    rw [mem_queue_written, or_iff_right]
    intro hm'
    exact hne (hm.symm.trans (hopened m hm'))
  cursors := rfl

end MemoryStore

/-! ## Requests -/

/-- The request reads and writes the record of the delegation `txid`, and queues markers of this
delegation only. -/
def Request.Concerns (txid : Txid) : Request → Prop
  | .getDelegation txid' | .saveSignature txid' _ _ => txid' = txid
  | .saveDelegation d => d.txid = txid
  | .updateState txid' u => txid' = txid ∧ ∀ m, u.timelock = some m → m.txid = txid
  | _ => False

/-- What a request that concerns a delegation does, given the record of it: the reply, and what is
written. The other requests have no part in this. -/
def Request.effect : (r : Request) → Option Delegation →
    Reply r × Option (Delegation × Option Marker)
  | .getDelegation _, found => (.ok found, none)
  | .saveDelegation d, none => (.ok .inserted, some (d, none))
  | .saveDelegation _, some _ => (.ok .alreadyExists, none)
  | .updateState _ _, none => (.ok .preconditionFailed, none)
  | .updateState _ u, some d =>
    if d.state ∈ u.origins then (.ok .applied, some (u.applyTo d, u.timelock))
    else (.ok .preconditionFailed, none)
  | .saveSignature _ _ _, none => (.error .notFound, none)
  | .saveSignature _ key signature, some d =>
    if d.signatures.contains key then (.ok .alreadyExists, none)
    else (.ok (.inserted (d.signatures.insert key signature).size),
      some ({ d with signatures := d.signatures.insert key signature }, none))
  | _, _ => (.error .notFound, none)

/-- What a request does to the delegation that it concerns depends on the record of it alone, by
`Request.effect`. -/
theorem Request.Concerns.answer_eq {r : Request} (hr : r.Concerns txid) (s : MemoryStore) :
    MemoryStore.backend.answer r s =
      ((r.effect (s.delegation? txid)).1, s.rewritten txid (r.effect (s.delegation? txid)).2) := by
  cases r with
  | getDelegation txid' =>
    obtain rfl : txid' = txid := hr
    rfl
  | saveDelegation d =>
    obtain rfl : d.txid = txid := hr
    show (Except.ok (s.saveDelegation d).1, (s.saveDelegation d).2) = _
    rcases s.saveDelegation_cases d with ⟨d', hd', hsave⟩ | ⟨hnone, hsave⟩
    · rw [hsave, hd']
      rfl
    · rw [hsave, hnone]
      rfl
  | updateState txid' u =>
    -- what is written depends on the record alone, and so does the condition
    obtain ⟨rfl, -⟩ := hr
    show (Except.ok (s.updateState txid' u).1, (s.updateState txid' u).2) = _
    rcases s.updateState_cases txid' u with ⟨hnot, hupdate⟩ | ⟨d, hd, horigin, hupdate⟩
    · rw [hupdate]
      cases hd : s.delegation? txid' with
      | none => rfl
      | some d => simp [effect, hnot d hd, MemoryStore.rewritten]
    · rw [hupdate, hd]
      simp [effect, horigin, MemoryStore.rewritten]
  | saveSignature txid' key signature =>
    obtain rfl : txid' = txid := hr
    show s.saveSignature txid' key signature = _
    rcases s.saveSignature_cases txid' key signature with ⟨hnone, hsave⟩ | ⟨d, hd,
      ⟨hkey, hsave⟩ | ⟨hkey, hsave⟩⟩
    · rw [hsave, hnone]
      rfl
    · rw [hsave, hd]
      simp [effect, hkey, MemoryStore.rewritten]
    · rw [hsave, hd]
      simp [effect, hkey, MemoryStore.rewritten]
  | _ => exact hr.elim

/-- A request that concerns a delegation leaves the other ones alone. -/
theorem Request.Concerns.differsOnlyAt {r : Request} (hr : r.Concerns txid) (s : MemoryStore) :
    s.DiffersOnlyAt txid (MemoryStore.backend.answer r s).2 := by
  rw [hr.answer_eq s]
  generalize s.delegation? txid = found
  -- writing the record of `txid` is all that any of them does
  cases r with
  | updateState txid' u =>
    cases found with
    | none => exact .refl txid s
    | some d =>
      rw [effect]
      split
      · exact s.differsOnlyAt_written _ hr.2
      · exact .refl txid s
  | saveDelegation d =>
    cases found with
    | none =>
      show s.DiffersOnlyAt txid (s.written txid d none)
      exact s.differsOnlyAt_written d (by simp)
    | some _ => exact .refl txid s
  | saveSignature txid' key signature =>
    cases found with
    | none => exact .refl txid s
    | some d =>
      rw [effect]
      split
      · exact .refl txid s
      · show s.DiffersOnlyAt txid
          (s.written txid { d with signatures := d.signatures.insert key signature } none)
        exact s.differsOnlyAt_written _ (by simp)
  | _ => exact .refl txid s

/-! ## Programs -/

namespace Program

variable {α β : Type}

/-- On keyed stores that agree on the delegation `txid`, the program `p` comes to the same result
and they agree on it afterwards. It leaves everything else alone. -/
def IsConfinedTo (txid : Txid) (p : Program α) : Prop :=
  ∀ s t : MemoryStore, s.IsKeyed → t.IsKeyed → s.AgreesOn txid t →
    (p.run MemoryStore.backend t).1 = (p.run MemoryStore.backend s).1 ∧
    (p.run MemoryStore.backend s).2.AgreesOn txid (p.run MemoryStore.backend t).2 ∧
    s.DiffersOnlyAt txid (p.run MemoryStore.backend s).2

theorem isConfinedTo_done (a : α) : (done a).IsConfinedTo txid :=
  fun s _ _ _ h => ⟨rfl, h, .refl txid s⟩

/-- Programs in sequence are confined to a delegation if the first one is, and what follows each of
its results. -/
theorem IsConfinedTo.bind {p : Program α} {f : α → Program β} (hp : p.IsConfinedTo txid)
    (hf : ∀ a, (f a).IsConfinedTo txid) : (p.bind f).IsConfinedTo txid := by
  intro s t hs ht h
  obtain ⟨hresult, hagree, honly⟩ := hp s t hs ht h
  rw [run_bind, run_bind, hresult]
  obtain ⟨hresult', hagree', honly'⟩ := hf _ _ _ (hs.run p) (ht.run p) hagree
  exact ⟨hresult', hagree', honly.trans honly'⟩

/-- A request is confined to the delegation that it concerns, if what follows it is, after every
answer `a` that a keyed store can give. -/
theorem isConfinedTo_request {r : Request} {next : r.Answer → Program (Except TrackingError α)}
    (hr : r.Concerns txid)
    (hnext : ∀ (s : MemoryStore) a, s.IsKeyed → (MemoryStore.backend.answer r s).1 = .ok a →
      (next a).IsConfinedTo txid) : (Program.request r next).IsConfinedTo txid := by
  intro s t hs ht h
  have hs' := hs.answer r
  have ht' := ht.answer r
  have honly := hr.differsOnlyAt s
  have hreply := hnext s
  have hagree := h.rewritten (r.effect (s.delegation? txid)).2
  have hanswer_s := hr.answer_eq s
  have hanswer_t := hr.answer_eq t
  rw [h.record] at hanswer_t
  rw [hanswer_s] at hs' honly hreply
  rw [hanswer_t] at ht'
  -- both stores give the same reply
  generalize r.effect (s.delegation? txid) = result at *
  obtain ⟨reply, change⟩ := result
  cases reply with
  | error e =>
    rw [run_request_error hanswer_s, run_request_error hanswer_t]
    exact ⟨rfl, hagree, honly⟩
  | ok a =>
    rw [run_request hanswer_s, run_request hanswer_t]
    obtain ⟨hresult, hagree', honly'⟩ := hreply a hs rfl _ _ hs' ht' hagree
    exact ⟨hresult, hagree', honly.trans honly'⟩

end Program

end StakeLedger
