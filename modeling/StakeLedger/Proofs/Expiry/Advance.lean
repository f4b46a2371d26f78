import Mathlib.Data.List.Chain
import Mathlib.Logic.Relation
import StakeLedger.Proofs.Interleaving.Traces
import StakeLedger.Proofs.Lifecycle.Asked
import StakeLedger.Proofs.Lifecycle.Calls

/-!
# The Cursor of the Scanner

However ticks and other calls take turns on a store, and whatever fails or is abandoned, the cursor
of the scanner only moves forward (`scanner_cursor_moves_forward`).

A tick compares heights with a cursor that it has read before its scan, while its write only
compares versions. This is enough because no version comes back: each advance raises the height as
well, and there are no more heights than versions (`Cursor.version_ne`). A cursor that has the
version a tick has read is the one it has read (`Cursor.eq_of_version_eq`).
-/

namespace StakeLedger

open Relation

/-! ## Advances -/

namespace Cursor

/-- The cursor `a` comes one advance before the cursor `b`. -/
structure Precedes (a b : Cursor) : Prop where
  /-- The version counts the advance from `a` to `b`. -/
  version : b.version = a.version + 1
  /-- The height has grown from `a` to `b`. -/
  height : a.height < b.height

variable {a b : Cursor}

/-- Some advances, say `n`, raise the version by `n`, and the height by `n` at least. -/
theorem exists_advances (h : TransGen Precedes a b) :
    ∃ n, 0 < n ∧ b.version = a.version + UInt64.ofNat n ∧ a.height.toNat + n ≤ b.height.toNat := by
  induction h with
  | single h => exact ⟨1, Nat.one_pos, h.version, UInt64.lt_iff_toNat_lt.1 h.height⟩
  | tail _ h ih =>
    obtain ⟨n, -, hversion, hheight⟩ := ih
    have hlt := UInt64.lt_iff_toNat_lt.1 h.height
    refine ⟨n + 1, Nat.succ_pos n, ?_, by omega⟩
    rw [h.version, hversion, UInt64.ofNat_add, UInt64.add_assoc]
    rfl

/-- No version comes back: there are `2 ^ 64` versions and no more heights than that, and each
advance takes up one height. -/
theorem version_ne (h : TransGen Precedes a b) : a.version ≠ b.version := by
  obtain ⟨n, hpos, hversion, hheight⟩ := exists_advances h
  have hheight_lt := b.height.toNat_lt
  have hversion_lt := a.version.toNat_lt
  intro heq
  have hmod := congrArg UInt64.toNat (heq.trans hversion)
  rw [UInt64.toNat_add, UInt64.toNat_ofNat'] at hmod
  omega

/-- A cursor whose version has not changed has not been advanced, which is what a conditional write
relies on. -/
theorem eq_of_version_eq (h : ReflTransGen Precedes a b) (hversion : b.version = a.version) :
    a = b := by
  rcases reflTransGen_iff_eq_or_transGen.1 h with rfl | hadvanced
  · rfl
  · exact absurd hversion.symm (version_ne hadvanced)

/-- Along advances, the versions count up by `1`, as long as there are numbers left. -/
theorem isChain_toNat_version {l : List Cursor} (h : (a :: l).IsChain Precedes)
    (hroom : a.version.toNat + l.length < UInt64.size) :
    (a :: l).IsChain fun b c => c.version.toNat = b.version.toNat + 1 := by
  induction l generalizing a with
  | nil => exact .singleton a
  | cons b l ih =>
    obtain ⟨hfirst, hrest⟩ := List.isChain_cons_cons.1 h
    rw [List.length_cons] at hroom
    have hversion : b.version.toNat = a.version.toNat + 1 := by
      rw [hfirst.version, UInt64.toNat_add]
      exact Nat.mod_eq_of_lt (show a.version.toNat + 1 < UInt64.size by omega)
    exact .cons_cons hversion (ih hrest (by omega))

/-- Every advance takes up a height, so that no more than `2 ^ 64 - 1` of them are possible. -/
theorem toNat_height_add_length {l : List Cursor} (h : (a :: l).IsChain Precedes) :
    a.height.toNat + l.length < UInt64.size := by
  induction l generalizing a with
  | nil => exact a.height.toNat_lt_size
  | cons b l ih =>
    obtain ⟨hfirst, hrest⟩ := List.isChain_cons_cons.1 h
    have hlt := UInt64.lt_iff_toNat_lt.1 hfirst.height
    have hmore := ih hrest
    rw [List.length_cons]
    omega

theorem nodup_versions {l : List Cursor} (h : l.IsChain Precedes) : (l.map (·.version)).Nodup := by
  have hadvances : l.IsChain (TransGen Precedes) := h.imp fun _ _ => TransGen.single
  exact List.pairwise_map.2 (hadvances.pairwise.imp version_ne)

end Cursor

/-- The cursor of the scanner that an exchange writes, if it writes one. -/
def Exchange.advanced? : Exchange → Option Cursor
  | ⟨.advanceCursor name expected height, .ok (.advanced _)⟩ =>
    if name = scannerCursor then some ⟨height, expected + 1⟩ else none
  | _ => none

/-- The cursors of the scanner that `history` writes, the first one first. -/
def advances (history : List (Entry Call)) : List Cursor := history.filterMap (·.exchange.advanced?)

/-- Only the request `advanceCursor` writes the cursor. -/
theorem Exchange.advanced?_of_method {e : Exchange} (h : e.request.method ≠ .advanceCursor) :
    e.advanced? = none := by
  rw [advanced?.eq_def]
  split
  · exact absurd rfl h
  · rfl

/-- The cursor written by an exchange has the height that was asked for and the version after the
expected one. -/
theorem Exchange.eq_of_advanced? {name : String} {expected : UInt64} {height : Height}
    {reply : Reply (.advanceCursor name expected height)} {c : Cursor}
    (h : advanced? ⟨.advanceCursor name expected height, reply⟩ = some c) :
    c = ⟨height, expected + 1⟩ := by
  rcases reply with e | outcome | current
  · cases h
  · simp only [advanced?] at h
    split at h
    · exact (Option.some.inj h).symm
    · cases h
  · cases h

/-! ## The Discipline -/

/-- The request advances no cursor but that of the scanner, and that one only to a greater height,
if it has the `expected` version. -/
def Request.MovesForward : Request → MemoryStore → Prop
  | .advanceCursor name expected height, s => name = scannerCursor ∧
      ((s.cursor scannerCursor).version = expected → (s.cursor scannerCursor).height < height)
  | _, _ => True

/-- Every request but `advanceCursor` meets `MovesForward`, as it leaves the cursor alone. -/
theorem Request.movesForward_of_method {r : Request} (h : r.method ≠ .advanceCursor)
    (s : MemoryStore) :
    r.MovesForward s := by
  cases r with
  | advanceCursor name expected height => exact absurd rfl h
  | _ => trivial

namespace MemoryStore

variable {s : MemoryStore} {r : Request}

/-- Only `advanceCursor` changes a cursor. -/
theorem cursor_answer (h : r.method ≠ .advanceCursor) (name : String) :
    (s.answer r).2.cursor name = s.cursor name := by
  rw [cursor, s.cursors_answer h, ← cursor]

/-- A request that moves the cursor forward writes the next one, as `Precedes` has it, or leaves the
one there is. -/
theorem advanced?_answer (h : r.MovesForward s) :
    (Exchange.advanced? ⟨r, (s.answer r).1⟩ = none ∧ (s.answer r).2.cursor scannerCursor =
      s.cursor scannerCursor) ∨
    ∃ c, Exchange.advanced? ⟨r, (s.answer r).1⟩ = some c ∧ (s.answer r).2.cursor scannerCursor = c ∧
      (s.cursor scannerCursor).Precedes c := by
  by_cases hmethod : r.method = .advanceCursor
  · cases r with
    | advanceCursor name expected height =>
      obtain ⟨rfl, hheight⟩ := h
      simp only [answer]
      -- `MovesForward` speaks about an advance that goes through, so the version decides
      rcases s.advanceCursor_cases scannerCursor expected height with ⟨hversion, heq⟩ | ⟨-, heq⟩
      · rw [heq]
        refine .inr ⟨⟨height, expected + 1⟩, by simp [Exchange.advanced?], ?_, by rw [hversion],
          hheight hversion⟩
        rw [cursor, SortedMap.find?_insert_self]
        rfl
      · rw [heq]
        exact .inl ⟨rfl, rfl⟩
    | _ => cases hmethod
  · exact .inl ⟨Exchange.advanced?_of_method hmethod, cursor_answer hmethod _⟩

end MemoryStore

/-- The discipline under which calls move the cursor of the scanner forward, and rely on each other
to do so. -/
def advancing : Discipline Call MemoryStore.backend where
  Invariant _ := True
  Later s s' := ReflTransGen Cursor.Precedes (s.cursor scannerCursor) (s'.cursor scannerCursor)
  Permits _ := Request.MovesForward
  later_refl _ := .refl
  later_trans h h' := h.trans h'
  invariant_answer _ _ := trivial
  later_answer {_ _ s} _ h := by
    rcases MemoryStore.advanced?_answer h with ⟨-, heq⟩ | ⟨c, -, heq, hc⟩
    · exact heq ▸ .refl
    · exact .single (heq ▸ hc)

namespace Registry

variable {registry : Registry} {call : Call} {log : List Exchange}

theorem onlyAsks_scan_method (registry : Registry) (pageSize : Nat) (tip : Height) :
    (registry.scan pageSize tip).OnlyAsks (·.method ≠ .advanceCursor) := by
  apply onlyAsks_scan <;> simp [Request.method]

/-- Only a tick asks for the cursor to be advanced. -/
theorem onlyAsks_program_method (hcall : ∀ pageSize tip, call ≠ .tick pageSize tip) :
    (registry.program call).OnlyAsks (·.method ≠ .advanceCursor) := by
  cases call with
  | apply event =>
    refine Program.OnlyAsks.bind ?_ fun _ => trivial
    apply onlyAsks_apply <;> simp [Request.method]
  | sign txid key signature =>
    refine Program.OnlyAsks.bind ?_ fun _ => trivial
    apply onlyAsks_sign <;> simp [Request.method]
  | scan pageSize tip => exact (registry.onlyAsks_scan_method pageSize tip).bind fun _ => trivial
  | tick pageSize tip => exact absurd rfl (hcall pageSize tip)

/-- A tick keeps to `advancing`: as long as the cursor has the version that was read, its height is
the one that was, and this is below `tip`. -/
theorem keeps_advancing_tick (registry : Registry) (pageSize : Nat) (tip : Except ChainError Height)
    (log : List Exchange) (s : MemoryStore) :
    (registry.tick pageSize tip).Keeps advancing call (fun _ _ _ => True) log s := by
  cases tip with
  | error e => exact Program.Keeps.done fun _ _ _ => trivial
  | ok tip =>
    refine Program.Keeps.request (fun _ _ => trivial) fun s' _ _ => ⟨trivial, fun seen hseen => ?_⟩
    obtain rfl : s'.cursor scannerCursor = seen := Except.ok.inj hseen
    have hscan : (registry.scan pageSize tip).Keeps advancing call (fun _ _ _ => True)
        (log ++ [⟨.getCursor scannerCursor, .ok (s'.cursor scannerCursor)⟩]) s' :=
      (registry.onlyAsks_scan_method pageSize tip).keeps
        (fun r s h => Request.movesForward_of_method h s) _ _
    refine Program.Keeps.bind (hscan.since.imp fun log' result s'' => ?_)
    rintro ⟨-, hlater, -⟩
    cases result with
    | error e => exact Program.Keeps.done fun _ _ _ => trivial
    | ok report =>
      dsimp only
      split
      next hlt =>
        refine Program.Keeps.request (fun _ _ => trivial) fun last hlast _ =>
            ⟨⟨rfl, fun hversion => ?_⟩, fun _ _ =>
          Program.Keeps.done fun _ _ _ => trivial⟩
        -- whatever other calls have done since the cursor was read, it was not advanced
        rw [← Cursor.eq_of_version_eq (hlater.trans hlast) hversion]
        exact hlt
      next => exact Program.Keeps.done fun _ _ _ => trivial

/-- Every call keeps to `advancing`. -/
theorem keeps_advancing (registry : Registry) (call : Call) (s : MemoryStore) :
    (registry.workload.program call).Keeps advancing call (fun _ _ _ => True) [] s := by
  by_cases htick : ∃ pageSize tip, call = .tick pageSize tip
  · obtain ⟨pageSize, tip, rfl⟩ := htick
    refine Program.Keeps.bind
      ((registry.keeps_advancing_tick pageSize tip [] s).imp fun _ _ _ _ => ?_)
    exact Program.Keeps.done fun _ _ _ => trivial
  · have honly := registry.onlyAsks_program_method fun pageSize tip heq =>
      htick ⟨pageSize, tip, heq⟩
    exact honly.keeps (fun r s h => Request.movesForward_of_method h s) [] s

end Registry

/-! ## The Path of the Cursor -/

/-- The cursor of the scanner has come from `start` to where it stands in `s` by the advances of
`history`, one after the other. -/
structure HasAdvanced (start : Cursor) (history : List (Entry Call)) (s : MemoryStore) : Prop where
  /-- Each advance starts from the one before, the first one from `start`. -/
  path : (start :: advances history).IsChain Cursor.Precedes
  /-- The last advance is stored, or `start` if there was none. -/
  stored : (start :: advances history).getLast? = some (s.cursor scannerCursor)

variable {start : Cursor} {history : List (Entry Call)} {s s' : MemoryStore} {e : Entry Call}

/-- An exchange that writes no cursor keeps the path and its end. -/
theorem HasAdvanced.unchanged (h : HasAdvanced start history s) (he : e.exchange.advanced? = none)
    (hcursor : s'.cursor scannerCursor = s.cursor scannerCursor) :
    HasAdvanced start (history ++ [e]) s' := by
  have hnone : advances (history ++ [e]) = advances history := by
    simp [advances, he]
  constructor
  · rw [hnone]
    exact h.path
  · rw [hnone, hcursor]
    exact h.stored

/-- An exchange that writes the next cursor `c` makes the path longer by one. -/
theorem HasAdvanced.advanced (h : HasAdvanced start history s) {c : Cursor}
    (he : e.exchange.advanced? = some c) (hcursor : s'.cursor scannerCursor = c)
    (hc : (s.cursor scannerCursor).Precedes c) :
    HasAdvanced start (history ++ [e]) s' := by
  have hsome : start :: advances (history ++ [e]) = (start :: advances history) ++ [c] := by
    simp [advances, he]
  constructor
  · rw [hsome]
    refine h.path.append (.singleton c) fun last hlast next hnext => ?_
    rw [h.stored] at hlast
    cases hlast
    cases hnext
    exact hc
  · rw [hsome, hcursor, List.getLast?_concat]

/-- Whatever calls do and however they take turns, the cursor goes from one advance to the next, and
`HasAdvanced` to where it is stored. -/
theorem Registry.run_hasAdvanced (registry : Registry) (start : MemoryStore)
    (schedule : List (Action Call)) :
    HasAdvanced (start.cursor scannerCursor) (registry.workload.run start schedule).history
      (registry.workload.run start schedule).store := by
  refine Workload.run_history (w := registry.workload) (D := advancing)
    (Q := HasAdvanced (start.cursor scannerCursor))
    (fun call s _ => registry.keeps_advancing call s) trivial
    ⟨.singleton _, rfl⟩ ?_ ?_ schedule
  · intro history s caller call r _ hforward h
    rcases MemoryStore.advanced?_answer hforward with ⟨hnone, hcursor⟩ | ⟨c, hsome, hcursor, hc⟩
    · exact h.unchanged hnone hcursor
    · exact h.advanced hsome hcursor hc
  · intro history s caller call r error h
    have hnone : Exchange.advanced? ⟨r, .error error⟩ = none := by
      cases r <;> rfl
    exact h.unchanged hnone rfl

end StakeLedger
