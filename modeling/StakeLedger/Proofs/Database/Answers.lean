import StakeLedger.Proofs.Database.Cursors
import StakeLedger.Proofs.Database.Writes

/-!
# Answers from the Database

A database that mirrors the memory store answers a request as the memory store does
(`Request.Agrees`) if heights and transactions are read back from their columns
(`Request.IsStorable`), and mirrors it again afterwards unless the version of a cursor has come to
two to the 63rd (`Database.Mirrors.answer`).
-/

namespace StakeLedger

namespace Request

/-- A request all of whose heights and transactions are read back from their columns. The version
that `advanceCursor` expects is not the last one, so that the next version exists. -/
def IsStorable : Request → Prop
  | saveDelegation d => d.IsStorable
  | updateState _ u => u.IsStorable
  | saveMarker m => IsStorableHeight m.expireHeight
  | dueMarkers tip after _ => IsStorableHeight tip ∧ ∀ m ∈ after, IsStorableHeight m.expireHeight
  | deleteMarker m => IsStorableHeight m.expireHeight
  | advanceCursor _ expected height => expected.toNat + 1 < UInt64.size ∧ IsStorableHeight height
  | getDelegation _ | saveSignature _ _ _ | delegationsByStates _ | delegationsByProvider _
  | getCursor _ => True

/-- The memory store and the database answer the request alike: with the first reply and the second.
Their lists of delegations may differ in the order, and where there is no delegation to sign for,
either fails with an error of its own. -/
def Agrees : (r : Request) → Reply r → Reply r → Prop
  | delegationsByStates _, a, b => ∃ l l', a = .ok l ∧ b = .ok l' ∧ l'.Perm l
  | delegationsByProvider _, a, b => ∃ l l', a = .ok l ∧ b = .ok l' ∧ l'.Perm l
  | saveSignature txid _ _, a, b =>
    (∃ outcome, a = .ok outcome ∧ b = .ok outcome) ∨
      (a = .error .notFound ∧
        b = .error (.database (.data s!"no delegation with staking txid {txid.text}")))
  | _, a, b => ∃ answer, a = .ok answer ∧ b = .ok answer

end Request

namespace Database

variable {db : Database} {s : MemoryStore}

/-- A database that mirrors the memory store answers a storable request `r` alike, and mirrors it
again afterwards unless the version of a cursor has come to `2 ^ 63`. -/
theorem Mirrors.answer (h : db.Mirrors s) {r : Request} (hr : r.IsStorable) :
    r.Agrees (s.answer r).1 ((db.answer r).1.mapError .database) ∧
      ((∀ name, ((s.answer r).2.cursor name).version.toNat < 2 ^ 63) →
        (db.answer r).2.Mirrors (s.answer r).2) := by
  cases r with
  | getDelegation txid =>
    refine ⟨⟨s.delegation? txid, rfl, ?_⟩, fun _ => h⟩
    exact congrArg (Except.mapError StoreError.database) (h.getDelegation txid)
  | saveDelegation d =>
    obtain ⟨houtcome, hmirrors⟩ := h.saveDelegation hr
    exact ⟨⟨_, rfl, congrArg Except.ok houtcome⟩, fun _ => hmirrors⟩
  | updateState txid u =>
    obtain ⟨houtcome, hmirrors⟩ := h.updateState hr txid
    exact ⟨⟨_, rfl, congrArg Except.ok houtcome⟩, fun _ => hmirrors⟩
  | saveSignature txid key signature =>
    -- an unknown delegation fails on the two sides in different words
    rcases h.saveSignature txid key signature with ⟨-, hdb, hs⟩ | ⟨outcome, hdb, hs, hmirrors⟩
    · simp only [Database.answer, MemoryStore.answer, hdb, hs]
      exact ⟨.inr ⟨rfl, rfl⟩, fun _ => h⟩
    · refine ⟨.inl ⟨outcome, hs, ?_⟩, fun _ => hmirrors⟩
      exact congrArg (Except.mapError StoreError.database) hdb
  | delegationsByStates states =>
    obtain ⟨l, hl, hperm⟩ := h.delegationsByStates states
    exact ⟨⟨_, l, rfl, congrArg (Except.mapError StoreError.database) hl, hperm⟩, fun _ => h⟩
  | delegationsByProvider provider =>
    obtain ⟨l, hl, hperm⟩ := h.delegationsByProvider provider
    exact ⟨⟨_, l, rfl, congrArg (Except.mapError StoreError.database) hl, hperm⟩, fun _ => h⟩
  | saveMarker m =>
    obtain ⟨houtcome, hmirrors⟩ := h.saveMarker hr
    exact ⟨⟨_, rfl, congrArg Except.ok houtcome⟩, fun _ => hmirrors⟩
  | dueMarkers tip after limit =>
    have hlist := h.dueMarkers hr.1 hr.2 limit
    exact ⟨⟨_, rfl, congrArg (Except.mapError StoreError.database) hlist⟩, fun _ => h⟩
  | deleteMarker m =>
    obtain ⟨houtcome, hmirrors⟩ := h.deleteMarker m
    exact ⟨⟨_, rfl, congrArg Except.ok houtcome⟩, fun _ => hmirrors⟩
  | getCursor name =>
    exact ⟨⟨_, rfl, congrArg (Except.mapError StoreError.database) (h.getCursor name)⟩, fun _ => h⟩
  | advanceCursor name expected height =>
    obtain ⟨houtcome, hmirrors⟩ := h.advanceCursor name expected hr.2
    exact ⟨⟨_, rfl, congrArg (Except.mapError StoreError.database) houtcome⟩,
      fun hbound => hmirrors (hbound name)⟩

end Database

end StakeLedger
