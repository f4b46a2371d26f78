import StakeLedger.Proofs.Database.Answers
import StakeLedger.Proofs.Database.Sessions
import StakeLedger.Proofs.Lifecycle.Rejection
import StakeLedger.Store.Disturbance

/-!
# The Database Refines the Memory Store

A session with a fresh database that meets no obstacles cannot be told from the memory store
(`Session.Refines`), as long as heights and transactions are read back from their columns and no
version of a cursor comes to two to the 63rd. A cursor that is advanced as often as that is lost to
the database.
-/

namespace StakeLedger

namespace Disturbed

variable {σ : Type}

theorem replay_append (backend : Backend σ) (earlier later : List Request) (s : σ) :
    replay backend (earlier ++ later) s = replay backend later (replay backend earlier s) := by
  rw [replay, replay, replay, List.foldl_append]

end Disturbed

open Disturbed (replay replay_append)

namespace MemoryStore

/-- One request leaves the version of a cursor as it is, or advances it by one. -/
theorem version_answer (s : MemoryStore) {r : Request} (hr : r.IsStorable) (name : String) :
    ((s.answer r).2.cursor name).version.toNat = (s.cursor name).version.toNat ∨
      ((s.answer r).2.cursor name).version.toNat = (s.cursor name).version.toNat + 1 := by
  by_cases hmethod : r.method = .advanceCursor
  · -- one more for the cursor that is advanced
    cases r with
    | advanceCursor name' expected height =>
      change ((s.advanceCursor name' expected height).2.cursor name).version.toNat = _ ∨
        ((s.advanceCursor name' expected height).2.cursor name).version.toNat = _
      rcases s.advanceCursor_cases name' expected height with ⟨hversion, hadvance⟩ | ⟨-, hadvance⟩
      · rw [hadvance, cursor, cursor]
        by_cases hname : name = name'
        · right
          rw [hname, SortedMap.find?_insert_self, ← cursor, hversion, Option.getD_some,
            Cursor.toNat_next hr.1]
        · left
          rw [SortedMap.find?_insert_of_ne _ _ hname]
      · left
        rw [hadvance]
    | _ => cases hmethod
  · left
    rw [cursor, cursor, s.cursors_answer hmethod]

/-- In a history `calls`, the version of a cursor does not go back, and it rises by no more than
`calls.length`. -/
theorem version_replay {calls : List Request} (hcalls : ∀ r ∈ calls, r.IsStorable) (s : MemoryStore)
    (name : String) :
    (s.cursor name).version.toNat ≤ ((replay backend calls s).cursor name).version.toNat ∧
      ((replay backend calls s).cursor name).version.toNat ≤
        (s.cursor name).version.toNat + calls.length := by
  induction calls generalizing s with
  | nil => exact ⟨Nat.le_refl _, Nat.le_refl _⟩
  | cons r calls ih =>
    obtain ⟨hr, hrest⟩ := List.forall_mem_cons.1 hcalls
    have hstep := s.version_answer hr name
    obtain ⟨hle, hge⟩ : ((s.answer r).2.cursor name).version.toNat ≤
          ((replay backend (r :: calls) s).cursor name).version.toNat ∧
        ((replay backend (r :: calls) s).cursor name).version.toNat ≤
          ((s.answer r).2.cursor name).version.toNat + calls.length := ih hrest (s.answer r).2
    rw [List.length_cons]
    omega

end MemoryStore

/-- The session answers all `calls` as the memory store does, and its database mirrors the store
throughout. -/
structure Session.Refines (retries : Nat) (calls : List Request) : Prop where
  /-- The call `r` that follows on `earlier` has an answer that `Agrees` with that of the memory
  store. -/
  answers : ∀ earlier r later, calls = earlier ++ r :: later → r.Agrees
    (MemoryStore.answer r (replay MemoryStore.backend earlier .empty)).1
    (answer retries r (replay (backend retries) earlier .fresh)).1
  /-- After the calls `earlier`, the database mirrors the memory store. -/
  states : ∀ earlier later, calls = earlier ++ later →
    (replay (backend retries) earlier .fresh).database.Mirrors
      (replay MemoryStore.backend earlier .empty)

namespace Session

/-- One call is answered as by the memory store, in a session that mirrors it, and the session
mirrors it again unless a version has come to `2 ^ 63`. -/
theorem answer_agrees {session : Session} {s : MemoryStore} (hfree : session.IsFree)
    (h : session.database.Mirrors s) {r : Request} (hr : r.IsStorable) (retries : Nat) :
    r.Agrees (s.answer r).1 (answer retries r session).1 ∧ (answer retries r session).2.IsFree ∧
      ((∀ name, ((s.answer r).2.cursor name).version.toNat < 2 ^ 63) →
        (answer retries r session).2.database.Mirrors (s.answer r).2) := by
  obtain ⟨hagrees, hmirrors⟩ := h.answer hr
  obtain ⟨hreply, hdatabase, hfree'⟩ := answer_eq hfree r retries
  rw [hreply, hdatabase]
  exact ⟨hagrees, hfree', hmirrors⟩

/-- A history of storable requests keeps a free session in correspondence with the memory store, if
no version is at `2 ^ 63` in the end. Since versions do not go back, none was at `2 ^ 63` before. -/
theorem replay_mirrors {session : Session} {s : MemoryStore} (hfree : session.IsFree)
    (h : session.database.Mirrors s) {calls : List Request} (hcalls : ∀ r ∈ calls, r.IsStorable)
    (hversions : ∀ name,
      ((replay MemoryStore.backend calls s).cursor name).version.toNat < 2 ^ 63)
    (retries : Nat) :
    (replay (backend retries) calls session).IsFree ∧
      (replay (backend retries) calls session).database.Mirrors
        (replay MemoryStore.backend calls s) := by
  induction calls generalizing session s with
  | nil => exact ⟨hfree, h⟩
  | cons r calls ih =>
    obtain ⟨hr, hrest⟩ := List.forall_mem_cons.1 hcalls
    obtain ⟨-, hfree', hmirrors⟩ := answer_agrees hfree h hr retries
    -- versions only grow from here to the end of the history
    have hbound : ∀ name, ((s.answer r).2.cursor name).version.toNat < 2 ^ 63 := fun name =>
      Nat.lt_of_le_of_lt (MemoryStore.version_replay hrest _ name).1 (hversions name)
    exact ih hfree' (hmirrors hbound) hrest hversions

/-- If all requests are storable and no version comes to `2 ^ 63`, a session with a fresh database
cannot be told from the memory store. -/
theorem refines_memory (retries : Nat) {calls : List Request} (hcalls : ∀ r ∈ calls, r.IsStorable)
    (hversions : ∀ name,
      ((replay MemoryStore.backend calls .empty).cursor name).version.toNat < 2 ^ 63) :
    Session.Refines retries calls := by
  have hearly : ∀ earlier later, calls = earlier ++ later →
      (replay (backend retries) earlier .fresh).IsFree ∧
        (replay (backend retries) earlier .fresh).database.Mirrors
          (replay MemoryStore.backend earlier .empty) := by
    rintro earlier later rfl
    obtain ⟨hearlier, hlater⟩ := List.forall_mem_append.1 hcalls
    refine replay_mirrors isFree_fresh Database.mirrors_empty hearlier (fun name => ?_) retries
    -- versions only grow, so that the bound at the end holds at every point before
    have hle :=
      (MemoryStore.version_replay hlater (replay MemoryStore.backend earlier .empty) name).1
    rw [replay_append] at hversions
    exact Nat.lt_of_le_of_lt hle (hversions name)
  refine ⟨fun earlier r later heq => ?_, fun earlier later heq => (hearly earlier later heq).2⟩
  obtain ⟨hfree, hmirrors⟩ := hearly earlier (r :: later) heq
  have hr : r.IsStorable := hcalls r (by simp [heq])
  exact (answer_agrees hfree hmirrors hr retries).1

/-- A transaction that spends an output with a witness. -/
def burning : Transaction where
  version := 2
  lockTime := 0
  inputs := [⟨⟨⟨0⟩, 0⟩, [], 0, [[1]]⟩]
  outputs := [⟨⟨9⟩, [81]⟩]

/-- Two delegations are created, signed and activated, and one of them is slashed. They are listed,
the markers are fetched in pages of one, and a cursor is advanced. Some of the calls change nothing:
a record and a signature that are there already, a signature for the missing delegation `⟨2⟩`, an
update from a state that was left, a marker that is gone and a cursor that was overtaken. -/
def shortHistory : List Request :=
  [.saveDelegation (.ofStake { loneStake with providers := .ofList [loneKey] }),
    .saveDelegation (.ofStake { loneStake with txid := ⟨1⟩ }), .saveDelegation (.ofStake loneStake),
    .saveSignature ⟨0⟩ loneKey ⟨1⟩, .saveSignature ⟨0⟩ loneKey ⟨2⟩, .saveSignature ⟨2⟩ loneKey ⟨1⟩,
    .updateState ⟨0⟩ ⟨[.pending, .verified], .active, none, some 7,
      some ⟨17, ⟨0⟩, .timelock⟩, none⟩,
    .updateState ⟨1⟩ ⟨[.pending, .verified], .active, none, some 7,
      some ⟨17, ⟨1⟩, .timelock⟩, none⟩,
    .updateState ⟨1⟩ ⟨[.active], .slashed, none, none, none, some ⟨.staking, burning, 9⟩⟩,
    .updateState ⟨1⟩ ⟨[.active], .unbonding, none, none, none, none⟩,
    .getDelegation ⟨0⟩, .delegationsByStates [.active, .slashed], .delegationsByProvider loneKey,
    .dueMarkers 17 none 1, .dueMarkers 17 (some ⟨17, ⟨0⟩, .timelock⟩) 1,
    .deleteMarker ⟨17, ⟨1⟩, .timelock⟩, .deleteMarker ⟨17, ⟨1⟩, .timelock⟩,
    .saveMarker ⟨18, ⟨1⟩, .earlyUnbonding⟩,
    .advanceCursor "scan" 0 17, .advanceCursor "scan" 0 18, .getCursor "scan"]

/-- `shortHistory` makes each of the eleven requests, leaves the delegation `⟨1⟩` slashed, and is
answered alike throughout. -/
theorem refines_shortHistory :
    (∀ r ∈ shortHistory, r.IsStorable) ∧
    (∀ name,
      ((replay MemoryStore.backend shortHistory .empty).cursor name).version.toNat < 2 ^ 63) ∧
    ((replay MemoryStore.backend shortHistory .empty).delegation? ⟨1⟩).map
      (fun d => (d.state, d.expiryHeight, d.slashing.map (·.spendHeight))) =
        some (.slashed, some 17, some 9) ∧
    Session.Refines 3 shortHistory := by
  have hheight : ∀ h : Height, h ≤ 18 → IsStorableHeight h := fun _ h =>
    Nat.lt_of_le_of_lt (UInt64.le_iff_toNat_le.1 h) (by decide)
  have hactivation : ∀ txid, StateUpdate.IsStorable
      ⟨[.pending, .verified], .active, none, some 7, some ⟨17, txid, .timelock⟩, none⟩ := by
    intro txid
    refine ⟨?_, ?_, nofun⟩
    · rintro _ ⟨⟩
      exact hheight 7 (by decide)
    · rintro _ ⟨⟩
      exact hheight 17 (by decide)
  have hslashing : StateUpdate.IsStorable
      ⟨[.active], .slashed, none, none, none, some ⟨.staking, burning, 9⟩⟩ := by
    refine ⟨nofun, nofun, ?_⟩
    rintro _ ⟨⟩
    exact ⟨by decide, hheight 9 (by decide)⟩
  have hunbonding : StateUpdate.IsStorable ⟨[.active], .unbonding, none, none, none, none⟩ :=
    ⟨nofun, nofun, nofun⟩
  have hsize : 1 < UInt64.size := by decide
  have hstorable : ∀ r ∈ shortHistory, r.IsStorable := by
    simp [shortHistory, Request.IsStorable, Delegation.isStorable_ofStake, hactivation, hslashing,
      hunbonding, hheight 17 (by decide), hheight 18 (by decide), hsize]
  have hversions : ∀ name,
      ((replay MemoryStore.backend shortHistory .empty).cursor name).version.toNat < 2 ^ 63 := by
    intro name
    -- the history is too short for a version to leave the range
    have hle : ((replay MemoryStore.backend shortHistory .empty).cursor name).version.toNat ≤
        0 + shortHistory.length := (MemoryStore.version_replay hstorable .empty name).2
    exact Nat.lt_of_le_of_lt hle (by decide)
  have hslashed : ((replay MemoryStore.backend shortHistory .empty).delegation? ⟨1⟩).map
      (fun d => (d.state, d.expiryHeight, d.slashing.map (·.spendHeight))) =
        some (.slashed, some 17, some 9) := by
    rfl
  exact ⟨hstorable, hversions, hslashed, refines_memory 3 hstorable hversions⟩

/-! ## Versions Past the Range -/

/-- The first `n` advances of the cursor `"scan"` from its start, all of them to height `0`. -/
def advances (n : Nat) : List Request :=
  (List.range n).map fun i => .advanceCursor "scan" (UInt64.ofNat i) 0

/-- One more advance comes at the end, from the version `n`. -/
theorem advances_succ (n : Nat) :
    advances (n + 1) = advances n ++ [.advanceCursor "scan" (UInt64.ofNat n) 0] := by
  rw [advances, List.range_succ, List.map_append]
  rfl

/-- As long as the version does not wrap around, advances are storable. -/
theorem isStorable_advances {n : Nat} (hn : n < UInt64.size) : ∀ r ∈ advances n, r.IsStorable := by
  intro r hr
  obtain ⟨i, hi, rfl⟩ := List.mem_map.1 hr
  have hlt : i < n := List.mem_range.1 hi
  have hnumber : (UInt64.ofNat i).toNat = i := UInt64.toNat_ofNat_of_lt (Nat.lt_trans hlt hn)
  refine ⟨?_, Nat.two_pow_pos 63⟩
  rw [hnumber]
  exact Nat.lt_of_le_of_lt hlt hn

/-- After `advances n` the version of the cursor is `n`. -/
theorem cursor_replay_advances (n : Nat) (name : String) :
    (replay MemoryStore.backend (advances n) .empty).cursor name =
      ⟨0, if name = "scan" then UInt64.ofNat n else 0⟩ := by
  induction n generalizing name with
  | zero => split <;> rfl
  | succ n ih =>
    rw [advances_succ, replay_append]
    generalize replay MemoryStore.backend (advances n) .empty = s at ih
    change (s.advanceCursor "scan" (UInt64.ofNat n) 0).2.cursor name = _
    have hversion : (s.cursor "scan").version = UInt64.ofNat n := by
      rw [ih, if_pos rfl]
    -- each advance expects the version that the ones before it have made
    rcases s.advanceCursor_cases "scan" (UInt64.ofNat n) 0 with ⟨-, hadvance⟩ | ⟨hstale, -⟩
    · rw [hadvance, MemoryStore.cursor]
      by_cases hname : name = "scan"
      · rw [hname, SortedMap.find?_insert_self, if_pos rfl, UInt64.ofNat_add]
        rfl
      · rw [SortedMap.find?_insert_of_ne _ _ hname, ← MemoryStore.cursor, ih, if_neg hname,
          if_neg hname]
    · exact absurd hversion hstale

/-- When a cursor is advanced from version `2 ^ 63 - 1`, the session cannot read it any more. -/
theorem getCursor_past_range {session : Session} {s : MemoryStore} (hfree : session.IsFree)
    (h : session.database.Mirrors s) {name : String} {c : Cursor}
    (hc : s.cursors.find? name = some c) (hlast : c.version.toNat + 1 = 2 ^ 63) {height : Height}
    (hheight : IsStorableHeight height) (retries : Nat) :
    (answer retries (.getCursor name)
      (answer retries (.advanceCursor name c.version height) session).2).1 =
        .error (.database (.driver (.column "version" (.notInteger .version .real)))) := by
  have hread := h.getCursor_overflow hc hlast hheight
  -- the database has made the advance
  obtain ⟨-, hdatabase, hfree'⟩ := answer_eq hfree (.advanceCursor name c.version height) retries
  generalize (answer retries (.advanceCursor name c.version height) session).2 = advanced
    at hdatabase hfree' ⊢
  have hfailure : (advanced.database.answer (.getCursor name)).1 =
      .error (.driver (.column "version" (.notInteger .version .real))) := by
    rw [hdatabase]
    exact hread
  rw [(answer_eq hfree' (.getCursor name) retries).1, hfailure]
  rfl

/-- After `2 ^ 63` advances the database cannot read the cursor any more. -/
theorem getCursor_replay_advances {n : Nat} (hn : n + 1 = 2 ^ 63) (retries : Nat) :
    (answer retries (.getCursor "scan") (replay (backend retries) (advances (n + 1)) .fresh)).1 =
      .error (.database (.driver (.column "version" (.notInteger .version .real)))) := by
  have hsize : n < UInt64.size := by
    rw [UInt64.size]
    omega
  have hnumber : (UInt64.ofNat n).toNat = n := UInt64.toNat_ofNat_of_lt hsize
  -- one advance before the last one, the database still mirrors the memory store
  have hversions : ∀ name,
      ((replay MemoryStore.backend (advances n) .empty).cursor name).version.toNat < 2 ^ 63 := by
    intro name
    rw [cursor_replay_advances]
    dsimp only
    split
    · rw [hnumber]
      omega
    · exact Nat.two_pow_pos 63
  have hcursor := cursor_replay_advances n "scan"
  obtain ⟨hfree, hmirrors⟩ := replay_mirrors isFree_fresh Database.mirrors_empty
    (isStorable_advances hsize) hversions retries
  rw [advances_succ, replay_append]
  generalize replay MemoryStore.backend (advances n) .empty = s at hmirrors hcursor
  generalize replay (backend retries) (advances n) .fresh = session at hfree hmirrors
  rw [if_pos rfl] at hcursor
  -- the row of the cursor is there, as its version is not `0`
  obtain ⟨c, hc⟩ : ∃ c, s.cursors.find? "scan" = some c := by
    refine Option.ne_none_iff_exists'.1 fun hnone => ?_
    have hzero := congrArg UInt64.toNat (hmirrors.storable.version_eq_zero_iff.2 hnone)
    rw [hcursor, hnumber, UInt64.toNat_zero] at hzero
    omega
  have hversion : c.version = UInt64.ofNat n := by
    rw [MemoryStore.cursor, hc, Option.getD_some] at hcursor
    rw [hcursor]
  have hlast : c.version.toNat + 1 = 2 ^ 63 := by
    rw [hversion, hnumber]
    exact hn
  have hheight : IsStorableHeight 0 := Nat.two_pow_pos 63
  rw [← hversion]
  exact getCursor_past_range hfree hmirrors hc hlast hheight retries

/-- At version `2 ^ 63` the memory store still reads the cursor, and the database fails. -/
theorem overflowing_advances :
    (∀ r ∈ advances (2 ^ 63) ++ [.getCursor "scan"], r.IsStorable) ∧
    (MemoryStore.answer (.getCursor "scan")
      (replay MemoryStore.backend (advances (2 ^ 63)) .empty)).1 = .ok ⟨0, 9223372036854775808⟩ ∧
    (answer 3 (.getCursor "scan") (replay (backend 3) (advances (2 ^ 63)) .fresh)).1 =
      .error (.database (.driver (.column "version" (.notInteger .version .real)))) ∧
    ¬Session.Refines 3 (advances (2 ^ 63) ++ [.getCursor "scan"]) := by
  have hstorable : ∀ r ∈ advances (2 ^ 63) ++ [.getCursor "scan"], r.IsStorable :=
    List.forall_mem_append.2 ⟨isStorable_advances (by decide), List.forall_mem_singleton.2 trivial⟩
  have hmemory : (MemoryStore.answer (.getCursor "scan")
      (replay MemoryStore.backend (advances (2 ^ 63)) .empty)).1 = .ok ⟨0, 9223372036854775808⟩ :=
    congrArg Except.ok (cursor_replay_advances (2 ^ 63) "scan")
  -- `2 ^ 63` as a successor, so that the history of this length is not unfolded
  obtain ⟨n, hn⟩ : ∃ n, n + 1 = 2 ^ 63 := ⟨9223372036854775807, by decide⟩
  have hdatabase := getCursor_replay_advances hn 3
  rw [hn] at hdatabase
  refine ⟨hstorable, hmemory, hdatabase, fun hrefines => ?_⟩
  obtain ⟨answer, -, hok⟩ := hrefines.answers (advances (2 ^ 63)) (.getCursor "scan") [] rfl
  rw [hdatabase] at hok
  cases hok

end Session

end StakeLedger
