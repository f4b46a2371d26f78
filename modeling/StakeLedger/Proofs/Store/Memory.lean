import StakeLedger.Proofs.Order.Listing
import StakeLedger.Store.Memory

/-!
# What Requests Do to the Memory Store

Each request that writes either leaves the memory store as it was or makes one change, which is read
off its result here. Later proofs about the store go through these statements and do not open the
requests: one lemma for each request says what it answers and leaves, and `MemoryStore.Alters` lists
the changes of all of them, for what holds whatever is asked.

A page lists the first due markers behind the one it starts after
(`MemoryStore.mem_of_mem_dueMarkers`), and is full if it leaves any out
(`MemoryStore.mem_dueMarkers_or_behind`).
-/

namespace StakeLedger

namespace Marker

/-- A marker does not run out before one that stands in front of it. -/
theorem expireHeight_le_of_compare {a b : Marker} (h : compare a b = .lt) :
    a.expireHeight ≤ b.expireHeight := by
  rw [compare_eq, Ordering.then_eq_lt] at h
  rcases h with hlt | ⟨heq, -⟩
  · exact UInt64.le_of_lt (compareOfLessAndEq_eq_lt.1 hlt)
  · rw [Std.LawfulEqOrd.eq_of_compare heq]
    exact UInt64.le_refl _

/-- In ascending order, the due markers come first, so that taking markers while they are due takes
them all. -/
theorem takeWhile_isDue (tip : Height) {l : List Marker}
    (h : l.Pairwise fun a b => compare a b = .lt) :
    (l.takeWhile fun m => m.IsDue tip) = l.filter fun m => m.IsDue tip := by
  induction l with
  | nil => rfl
  | cons m l ih =>
    obtain ⟨hhead, hrest⟩ := List.pairwise_cons.1 h
    by_cases hm : m.IsDue tip
    · simp [hm, ih hrest]
    -- behind a marker that is not due none is
    · have hnone : ∀ m' ∈ m :: l, ¬decide (m'.IsDue tip) = true := by
        intro m' hm' hdue
        have hdue := of_decide_eq_true hdue
        rcases List.mem_cons.1 hm' with rfl | hm'
        · exact hm hdue
        · exact hm (UInt64.le_trans (expireHeight_le_of_compare (hhead m' hm')) hdue)
      rw [List.filter_eq_nil_iff.2 hnone]
      simp [hm]

end Marker

namespace MemoryStore

variable {s s' : MemoryStore}

@[simp]
theorem not_mem_queue_empty (m : Marker) : ¬m ∈ empty.queue := List.not_mem_nil

/-- The store once the record `d` is written under `txid` and, if one is given, the marker `opened`
is queued. Every request that writes a record does this. -/
def written (s : MemoryStore) (txid : Txid) (d : Delegation) (opened : Option Marker) :
    MemoryStore where
  delegations := s.delegations.insert txid d
  queue := match opened with
    | some m => s.queue.insert m
    | none => s.queue
  cursors := s.cursors

@[simp]
theorem delegation?_written_self (s : MemoryStore) (txid : Txid) (d : Delegation)
    (opened : Option Marker) : (s.written txid d opened).delegation? txid = some d :=
  s.delegations.find?_insert_self txid d

/-- What is found under another identifier `txid'` does not depend on the record that is written. -/
theorem delegation?_written_of_ne (s : MemoryStore) {txid txid' : Txid} (d : Delegation)
    (opened : Option Marker) (h : txid' ≠ txid) :
    (s.written txid d opened).delegation? txid' = s.delegation? txid' :=
  s.delegations.find?_insert_of_ne d h

/-- A write adds its marker `opened` to the queue, and keeps what is queued. -/
theorem mem_queue_written {txid : Txid} {d : Delegation} {opened : Option Marker} {m : Marker} :
    m ∈ (s.written txid d opened).queue ↔ opened = some m ∨ m ∈ s.queue := by
  cases opened with
  | none => simp [written]
  | some m' =>
    change m ∈ s.queue.insert m' ↔ _
    rw [SortedSet.mem_insert_iff, Option.some.injEq, eq_comm]

/-- An insertion of `d` finds the key in use, or writes the record under it. -/
theorem saveDelegation_cases (s : MemoryStore) (d : Delegation) :
    (∃ d', s.delegation? d.txid = some d' ∧ s.saveDelegation d = (.alreadyExists, s)) ∨
    (s.delegation? d.txid = none ∧ s.saveDelegation d = (.inserted, s.written d.txid d none)) := by
  rw [saveDelegation]
  cases hd : s.delegation? d.txid with
  | none =>
    have hc : ¬s.delegations.contains d.txid := by
      rw [SortedMap.contains, ← delegation?, hd]
      decide
    rw [if_neg hc]
    exact .inr ⟨rfl, rfl⟩
  | some d' =>
    rw [if_pos (SortedMap.contains_eq_true_iff.2 ⟨d', hd⟩)]
    exact .inl ⟨d', rfl, rfl⟩

/-- A conditional update finds no record in one of the states `u.origins` that it may leave, or
changes the record to `u.applyTo d`. -/
theorem updateState_cases (s : MemoryStore) (txid : Txid) (u : StateUpdate) :
    ((∀ d, s.delegation? txid = some d → d.state ∉ u.origins) ∧
      s.updateState txid u = (.preconditionFailed, s)) ∨
    ∃ d, s.delegation? txid = some d ∧ d.state ∈ u.origins ∧
      s.updateState txid u = (.applied, s.written txid (u.applyTo d) u.timelock) := by
  rw [updateState]
  cases hd : s.delegation? txid with
  | none =>
    refine .inl ⟨fun d h => ?_, rfl⟩
    cases h
  | some d =>
    dsimp only
    split
    next h => exact .inr ⟨d, rfl, h, rfl⟩
    next h =>
      refine .inl ⟨fun d' hd' => ?_, rfl⟩
      obtain rfl := Option.some.inj hd'
      exact h

/-- Storing a signature finds no record, or one that the key has signed, or adds the signature. -/
theorem saveSignature_cases (s : MemoryStore) (txid : Txid) (key : XOnlyKey)
    (signature : Signature) :
    (s.delegation? txid = none ∧ s.saveSignature txid key signature = (.error .notFound, s)) ∨
    ∃ d, s.delegation? txid = some d ∧
      ((d.signatures.contains key ∧ s.saveSignature txid key signature = (.ok .alreadyExists, s)) ∨
        (¬d.signatures.contains key ∧ s.saveSignature txid key signature =
          (.ok (.inserted (d.signatures.insert key signature).size),
            s.written txid { d with signatures := d.signatures.insert key signature } none))) := by
  rw [saveSignature]
  cases hd : s.delegation? txid with
  | none => exact .inl ⟨rfl, rfl⟩
  | some d =>
    refine .inr ⟨d, rfl, ?_⟩
    dsimp only
    split
    next h => exact .inl ⟨h, rfl⟩
    next h => exact .inr ⟨h, rfl⟩

theorem deleteMarker_cases (s : MemoryStore) (m : Marker) :
    (m ∉ s.queue ∧ s.deleteMarker m = (.notFound, s)) ∨
    (m ∈ s.queue ∧ s.deleteMarker m = (.deleted, { s with queue := s.queue.erase m })) := by
  rw [deleteMarker]
  split
  next h => exact .inr ⟨h, rfl⟩
  next h => exact .inl ⟨h, rfl⟩

theorem saveMarker_cases (s : MemoryStore) (m : Marker) :
    (m ∈ s.queue ∧ s.saveMarker m = (.alreadyExists, s)) ∨
    (m ∉ s.queue ∧ s.saveMarker m = (.inserted, { s with queue := s.queue.insert m })) := by
  rw [saveMarker]
  split
  next h => exact .inl ⟨h, rfl⟩
  next h => exact .inr ⟨h, rfl⟩

/-- An advance finds the cursor at the version `expected` and moves it, or finds it elsewhere. -/
theorem advanceCursor_cases (s : MemoryStore) (name : String) (expected : UInt64)
    (height : Height) :
    ((s.cursor name).version = expected ∧ s.advanceCursor name expected height =
      (.advanced ⟨height, expected + 1⟩,
        { s with cursors := s.cursors.insert name ⟨height, expected + 1⟩ })) ∨
    ((s.cursor name).version ≠ expected ∧
      s.advanceCursor name expected height = (.stale (s.cursor name), s)) := by
  simp only [advanceCursor]
  split
  next h =>
    subst h
    exact .inl ⟨rfl, rfl⟩
  next h => exact .inr ⟨h, rfl⟩

/-- Storing a signature leaves the cursors out: with other `cursors`, it does the same. -/
theorem saveSignature_with_cursors (s : MemoryStore) (cursors : SortedMap String Cursor)
    (txid : Txid) (key : XOnlyKey) (signature : Signature) :
    ({ s with cursors } : MemoryStore).saveSignature txid key signature =
      ((s.saveSignature txid key signature).1,
        { (s.saveSignature txid key signature).2 with cursors }) := by
  simp only [saveSignature, delegation?]
  split
  · rfl
  · split <;> rfl

/-- Removing a marker leaves the cursors out: with other `cursors`, it does the same. -/
theorem deleteMarker_with_cursors (s : MemoryStore) (cursors : SortedMap String Cursor)
    (m : Marker) :
    ({ s with cursors } : MemoryStore).deleteMarker m =
      ((s.deleteMarker m).1, { (s.deleteMarker m).2 with cursors }) := by
  simp only [deleteMarker]
  split <;> rfl

section Page

variable {m : Marker} {tip : Height} {after : Option Marker} {limit : Nat}

/-- A page is cut off the ascending list of the due markers behind its start. -/
theorem dueMarkers_eq_take (s : MemoryStore) (tip : Height) (after : Option Marker) (limit : Nat) :
    s.dueMarkers tip after limit =
      (s.queue.elements.filter fun m => (∀ a ∈ after, compare a m = .lt) ∧ m.IsDue tip).take
          limit := by
  cases after with
  | none => simp [dueMarkers, Marker.takeWhile_isDue tip s.queue.ascending]
  | some a =>
    rw [dueMarkers, Marker.takeWhile_isDue tip (s.queue.ascending.filter _), List.filter_filter]
    simp [Bool.and_comm]

/-- A marker that is listed is queued and due, and stands behind `after`. -/
theorem mem_of_mem_dueMarkers (h : m ∈ s.dueMarkers tip after limit) :
    m ∈ s.queue ∧ m.IsDue tip ∧ ∀ a ∈ after, compare a m = .lt := by
  rw [dueMarkers_eq_take] at h
  obtain ⟨hm, hlisted⟩ := List.mem_filter.1 (List.mem_of_mem_take h)
  obtain ⟨hafter, hdue⟩ := of_decide_eq_true hlisted
  exact ⟨hm, hdue, hafter⟩

/-- A due marker behind the start of a page is listed, or the page is full and ends before it. -/
theorem mem_dueMarkers_or_behind (hm : m ∈ s.queue) (hdue : m.IsDue tip)
    (hafter : ∀ a ∈ after, compare a m = .lt) (limit : Nat) :
    m ∈ s.dueMarkers tip after limit ∨
      (s.dueMarkers tip after limit).length = limit ∧
        ∀ last ∈ s.dueMarkers tip after limit, compare last m = .lt := by
  rw [dueMarkers_eq_take]
  have hascending := s.queue.ascending.filter fun m =>
    (∀ a ∈ after, compare a m = .lt) ∧ m.IsDue tip
  have hlisted : m ∈ s.queue.elements.filter fun m => (∀ a ∈ after, compare a m = .lt) ∧
      m.IsDue tip :=
    List.mem_filter.2 ⟨hm, decide_eq_true ⟨hafter, hdue⟩⟩
  -- the page is the first part of the due markers behind its start
  generalize (s.queue.elements.filter fun m => (∀ a ∈ after, compare a m = .lt) ∧ m.IsDue tip) =
    due at *
  rw [← List.take_append_drop limit due] at hascending hlisted
  obtain ⟨-, -, hlt⟩ := List.pairwise_append.1 hascending
  rcases List.mem_append.1 hlisted with hfirst | hrest
  · exact .inl hfirst
  · refine .inr ⟨?_, fun last hlast => hlt last hlast m hrest⟩
    have hpos := List.length_pos_of_mem hrest
    rw [List.length_drop] at hpos
    rw [List.length_take]
    omega

/-- A page of fewer than `limit` markers lists all due ones. -/
theorem mem_dueMarkers_iff (h : (s.dueMarkers tip none limit).length < limit) :
    m ∈ s.dueMarkers tip none limit ↔ m ∈ s.queue ∧ m.IsDue tip := by
  constructor
  · intro hm
    obtain ⟨hqueued, hdue, -⟩ := mem_of_mem_dueMarkers hm
    exact ⟨hqueued, hdue⟩
  · rintro ⟨hqueued, hdue⟩
    have hafter : ∀ a ∈ (none : Option Marker), compare a m = .lt := by simp
    rcases mem_dueMarkers_or_behind hqueued hdue hafter limit with hm | ⟨hfull, -⟩
    · exact hm
    · exact absurd hfull (Nat.ne_of_lt h)

end Page

/-! ## Changes -/

/-- The changes that a request may make: `Alters s r s'` if `r` may leave `s'` of the store `s`.
What it answers is left out here. -/
inductive Alters (s : MemoryStore) : Request → MemoryStore → Prop where
  /-- Reading changes nothing, and neither does a write that finds its condition not met. -/
  | unchanged {r : Request} : Alters s r s
  | created {d : Delegation} (hnone : s.delegation? d.txid = none) :
    Alters s (.saveDelegation d) (s.written d.txid d none)
  /-- The record `d` is in one of the states that the update may leave. -/
  | moved {txid : Txid} {u : StateUpdate} {d : Delegation} (hd : s.delegation? txid = some d)
    (horigin : d.state ∈ u.origins) :
    Alters s (.updateState txid u) (s.written txid (u.applyTo d) u.timelock)
  /-- The `key` has not signed before. -/
  | signed {txid : Txid} {key : XOnlyKey} {signature : Signature} {d : Delegation}
    (hd : s.delegation? txid = some d) (hkey : ¬d.signatures.contains key) :
    Alters s (.saveSignature txid key signature)
      (s.written txid { d with signatures := d.signatures.insert key signature } none)
  | queued {m : Marker} : Alters s (.saveMarker m) { s with queue := s.queue.insert m }
  | unqueued {m : Marker} : Alters s (.deleteMarker m) { s with queue := s.queue.erase m }
  | advanced {name : String} {expected : UInt64} {height : Height} :
    Alters s (.advanceCursor name expected height)
      { s with cursors := s.cursors.insert name ⟨height, expected + 1⟩ }

/-- What is left of the store by a request is one of the changes that `Alters` lists. -/
theorem alters_answer (s : MemoryStore) (r : Request) : s.Alters r (s.answer r).2 := by
  cases r with
  | saveDelegation d =>
    show s.Alters _ (s.saveDelegation d).2
    rcases s.saveDelegation_cases d with ⟨_, -, hsave⟩ | ⟨hnone, hsave⟩ <;> rw [hsave]
    · exact .unchanged
    · exact .created hnone
  | updateState txid u =>
    show s.Alters _ (s.updateState txid u).2
    rcases s.updateState_cases txid u with ⟨-, hupdate⟩ | ⟨d, hd, horigin, hupdate⟩ <;> rw [hupdate]
    · exact .unchanged
    · exact .moved hd horigin
  | saveSignature txid key signature =>
    show s.Alters _ (s.saveSignature txid key signature).2
    rcases s.saveSignature_cases txid key signature with
      ⟨-, hsave⟩ | ⟨d, hd, ⟨-, hsave⟩ | ⟨hkey, hsave⟩⟩ <;> rw [hsave]
    · exact .unchanged
    · exact .unchanged
    · exact .signed hd hkey
  | saveMarker m =>
    show s.Alters _ (s.saveMarker m).2
    rcases s.saveMarker_cases m with ⟨-, hsave⟩ | ⟨-, hsave⟩ <;> rw [hsave]
    · exact .unchanged
    · exact .queued
  | deleteMarker m =>
    show s.Alters _ (s.deleteMarker m).2
    rcases s.deleteMarker_cases m with ⟨-, hdelete⟩ | ⟨-, hdelete⟩ <;> rw [hdelete]
    · exact .unchanged
    · exact .unqueued
  | advanceCursor name expected height =>
    show s.Alters _ (s.advanceCursor name expected height).2
    rcases s.advanceCursor_cases name expected height with ⟨-, hadvance⟩ | ⟨-, hadvance⟩ <;>
      rw [hadvance]
    · exact .advanced
    · exact .unchanged
  | _ => exact .unchanged

/-- Only the request `advanceCursor` changes the cursors. -/
theorem cursors_answer (s : MemoryStore) {r : Request} (h : r.method ≠ .advanceCursor) :
    (s.answer r).2.cursors = s.cursors := by
  have halters := s.alters_answer r
  generalize (s.answer r).2 = s' at halters ⊢
  cases halters with
  | advanced => exact absurd rfl h
  | _ => rfl

end MemoryStore

end StakeLedger
