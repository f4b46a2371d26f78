import StakeLedger.Proofs.Database.Refinement
import StakeLedger.Proofs.Database.Retries
import StakeLedger.Proofs.Lifecycle.Rejection

/-!
# Queries for Many Records

The queries for many records read delegations and signatures with one statement each, and put them
together afterwards. What they list is nevertheless what the query for one record gives: each record
once, with all of its signatures, and no other (`Session.AgreesOnQueries`).

This holds whatever requests a session has had before, and whatever obstacles it has met
(`queries_agree`), as long as heights and transactions are read back from their columns. Versions of
cursors may leave their range: the tables of delegations and signatures know nothing of them
(`Database.MirrorsRecords`).
-/

namespace StakeLedger

namespace Database

/-! ## Forgetting Cursors -/

/-- The database `db` without its cursors, which the queries for records know nothing of. -/
def withoutCursors (db : Database) : Database := { db with cursors := [] }

variable {db : Database}

theorem withoutCursors_insertSignature (db : Database) (row : SignatureRow) :
    (db.insertSignature row).withoutCursors = db.withoutCursors.insertSignature row := by
  rw [insertSignature, insertSignature]
  -- the rows that decide are the same on both sides
  show _ = if db.hasSignature row then _ else _
  split <;> rfl

theorem withoutCursors_insertMarker (db : Database) (row : MarkerRow) :
    (db.insertMarker row).withoutCursors = db.withoutCursors.insertMarker row := by
  rw [insertMarker, insertMarker]
  show _ = if row ∈ db.markers then _ else _
  split <;> rfl

theorem withoutCursors_saveDelegation (db : Database) (d : Delegation) :
    (db.saveDelegation d).2.withoutCursors = (db.withoutCursors.saveDelegation d).2 := by
  rw [saveDelegation, saveDelegation]
  show _ = (if (db.delegationRow? d.txid.text).isSome then _ else _ : InsertOutcome × Database).2
  split
  · rfl
  · dsimp only
    refine (List.foldl_hom withoutCursors fun db e => ?_).symm
    exact (db.withoutCursors_insertSignature (.ofSignature d.txid e.1 e.2)).symm

theorem withoutCursors_updateState (db : Database) (txid : Txid) (u : StateUpdate) :
    (db.updateState txid u).2.withoutCursors = (db.withoutCursors.updateState txid u).2 := by
  rw [updateState, updateState]
  show _ = (if db.delegations.any (isQualified txid.text u.origins) then _ else _ :
    UpdateOutcome × Database).2
  split
  · cases u.timelock with
    | none => rfl
    | some m => exact withoutCursors_insertMarker _ _
  · rfl

theorem withoutCursors_saveSignature (db : Database) (txid : Txid) (key : XOnlyKey)
    (signature : Signature) :
    (db.saveSignature txid key signature).2.withoutCursors =
      (db.withoutCursors.saveSignature txid key signature).2 := by
  rw [saveSignature, saveSignature]
  show _ = (if (db.delegationRow? txid.text).isNone then _ else if db.hasSignature _ then _ else _ :
    Outcome SignatureOutcome × Database).2
  split
  · rfl
  · split
    · rfl
    · exact withoutCursors_insertSignature _ _

theorem withoutCursors_deleteMarker (db : Database) (m : Marker) :
    (db.deleteMarker m).2.withoutCursors = (db.withoutCursors.deleteMarker m).2 := by
  rw [deleteMarker, deleteMarker]
  show _ = (if MarkerRow.ofMarker m ∈ db.markers then _ else _ : DeleteOutcome × Database).2
  split <;> rfl

theorem withoutCursors_advanceCursor (db : Database) (name : String) (expected : UInt64)
    (height : Height) :
    (db.advanceCursor name expected height).2.withoutCursors = db.withoutCursors := by
  rw [advanceCursor]
  split <;> split <;> rfl

/-- Requests other than advances change the other tables alike, whatever the cursors are. -/
theorem withoutCursors_answer (db : Database) {r : Request} (hr : r.method ≠ .advanceCursor) :
    (db.answer r).2.withoutCursors = (db.withoutCursors.answer r).2 := by
  cases r with
  | saveDelegation d => exact db.withoutCursors_saveDelegation d
  | updateState txid u => exact db.withoutCursors_updateState txid u
  | saveSignature txid key signature => exact db.withoutCursors_saveSignature txid key signature
  | saveMarker m => exact db.withoutCursors_insertMarker (.ofMarker m)
  | deleteMarker m => exact db.withoutCursors_deleteMarker m
  | advanceCursor name expected height => exact absurd rfl hr
  | getDelegation _ | delegationsByStates _ | delegationsByProvider _ | dueMarkers _ _ _
  | getCursor _ => rfl

/-! ## Records -/

/-- Apart from its cursors, the database mirrors a memory store, which has none. -/
def MirrorsRecords (db : Database) : Prop :=
  ∃ s : MemoryStore, s.cursors = .empty ∧ db.withoutCursors.Mirrors s

/-- One request keeps the records mirrored. An advance need not be storable for it. -/
theorem MirrorsRecords.answer (h : db.MirrorsRecords) {r : Request}
    (hr : r.method ≠ .advanceCursor → r.IsStorable) : (db.answer r).2.MirrorsRecords := by
  obtain ⟨s, hcursors, hmirrors⟩ := h
  by_cases hmethod : r.method = .advanceCursor
  · refine ⟨s, hcursors, ?_⟩
    cases r with
    | advanceCursor name expected height =>
      have hsame : (db.answer (.advanceCursor name expected height)).2.withoutCursors =
          db.withoutCursors :=
        db.withoutCursors_advanceCursor name expected height
      rwa [hsame]
    | _ => cases hmethod
  · have hcursors' : (s.answer r).2.cursors = .empty := (s.cursors_answer hmethod).trans hcursors
    refine ⟨(s.answer r).2, hcursors', ?_⟩
    rw [db.withoutCursors_answer hmethod]
    refine (hmirrors.answer (hr hmethod)).2 fun name => ?_
    -- a cursor that was never advanced is at version zero
    rw [MemoryStore.cursor, hcursors']
    exact Nat.two_pow_pos 63

end Database

namespace Session

open Disturbed (replay)

variable {session : Session}

/-- A history `calls` keeps the records mirrored, whatever obstacles are met in it. -/
theorem mirrorsRecords_replay (h : session.database.MirrorsRecords) {calls : List Request}
    (hcalls : ∀ r ∈ calls, r.method ≠ .advanceCursor → r.IsStorable) (retries : Nat) :
    (replay (backend retries) calls session).database.MirrorsRecords := by
  induction calls generalizing session with
  | nil => exact h
  | cons r calls ih =>
    obtain ⟨hr, hrest⟩ := List.forall_mem_cons.1 hcalls
    refine ih ?_ hrest
    show (answer retries r session).2.database.MirrorsRecords
    rcases session.database_answer_cases retries r with hsame | hanswered
    · rwa [hsame]
    · rw [hanswered]
      exact h.answer hr

/-- The record `d` is what the query for one record gives for its transaction. -/
def Gives (session : Session) (retries : Nat) (d : Delegation) : Prop :=
  (answer retries (.getDelegation d.txid) session).1 = .ok (some d)

/-- The list `l` holds each record with the property `p` once, as the query for one record gives it,
and nothing else. -/
structure Lists (session : Session) (retries : Nat) (p : Delegation → Prop)
    (l : List Delegation) : Prop where
  /-- No record is listed twice: all records of `l` are of different transactions. -/
  once : (l.map (·.txid)).Nodup
  /-- A record is listed if and only if the query for one record gives it and it has the property
  `p`. -/
  mem_iff : ∀ d, d ∈ l ↔ session.Gives retries d ∧ p d

/-- The queries for many records, by states and by provider, agree with the one for a single record,
and the tables have no rows that belong to no record. -/
structure AgreesOnQueries (session : Session) (retries : Nat) : Prop where
  /-- The query by states lists the records whose state is one of `states`. -/
  byStates : ∀ states, ∃ l, (answer retries (.delegationsByStates states) session).1 = .ok l ∧
    session.Lists retries (·.state ∈ states) l
  /-- The query by finality provider lists the records that have `provider` among theirs. -/
  byProvider : ∀ provider, ∃ l,
    (answer retries (.delegationsByProvider provider) session).1 = .ok l ∧
    session.Lists retries (provider ∈ ·.stake.providers) l
  /-- The rows of delegations are those of the records that `Gives` tells, and no others. -/
  delegations : ∀ row, row ∈ session.database.delegations ↔
    ∃ d, session.Gives retries d ∧ .ofDelegation d = row
  /-- The rows of signatures are `d.signatureRows` of these records, and no others. -/
  signatures : ∀ row, row ∈ session.database.signatures ↔
    ∃ d, session.Gives retries d ∧ row ∈ d.signatureRows

theorem isFree_unlock (session : Session) : session.unlock.IsFree := fun _ => rfl

/-- If the records are mirrored and no obstacles are met, the queries agree. -/
theorem agreesOnQueries_of_mirrorsRecords (hfree : session.IsFree)
    (h : session.database.MirrorsRecords) (retries : Nat) : session.AgreesOnQueries retries := by
  obtain ⟨s, -, hmirrors⟩ := h
  have hkeyed := hmirrors.storable.keyed
  -- the delegations that a point read gives are the records of the mirrored store `s`
  have hgives : ∀ d, session.Gives retries d ↔ d ∈ s.records := by
    intro d
    have hread : (session.database.answer (.getDelegation d.txid)).1 = .ok (s.delegation? d.txid) :=
      hmirrors.getDelegation d.txid
    rw [Gives, (answer_eq hfree _ retries).1, hread, MemoryStore.mem_records_iff hkeyed]
    exact ⟨Except.ok.inj, congrArg _⟩
  -- so a list of exactly the records with `p` is a list of what the point reads give
  have hlists : ∀ (p : Delegation → Prop) [DecidablePred p] (l : List Delegation),
      l.Perm (s.records.filter p) → session.Lists retries p l := by
    intro p _ l hl
    refine ⟨MemoryStore.nodup_selected hkeyed hl, fun d => ?_⟩
    rw [hl.mem_iff, List.mem_filter, hgives, decide_eq_true_iff]
  refine ⟨fun states => ?_, fun provider => ?_, fun row => ?_, fun row => ?_⟩
  · obtain ⟨l, hquery, hl⟩ := hmirrors.delegationsByStates states
    have hread : (session.database.answer (.delegationsByStates states)).1 = .ok l := hquery
    exact ⟨l, by rw [(answer_eq hfree _ retries).1, hread]; rfl, hlists _ l hl⟩
  · obtain ⟨l, hquery, hl⟩ := hmirrors.delegationsByProvider provider
    have hread : (session.database.answer (.delegationsByProvider provider)).1 = .ok l := hquery
    exact ⟨l, by rw [(answer_eq hfree _ retries).1, hread]; rfl, hlists _ l hl⟩
  · simp only [hgives]
    exact hmirrors.delegations.mem_iff.trans List.mem_map
  · simp only [hgives]
    exact hmirrors.signatures.mem_iff.trans List.mem_flatMap

end Session

open Disturbed (replay)

/-- After any history of storable requests, and whatever obstacles were met in it, the queries for
many records agree with the one for a single record. Cursors may have been advanced to any version
and height. -/
theorem queries_agree (obstacle : Nat → Option DriverFailure) {calls : List Request}
    (hcalls : ∀ r ∈ calls, r.method ≠ .advanceCursor → r.IsStorable) (retries : Nat) :
    (replay (Session.backend retries) calls
      { Session.fresh with obstacle }).unlock.AgreesOnQueries retries := by
  have hempty : ({ Session.fresh with obstacle } : Session).database.MirrorsRecords :=
    ⟨.empty, rfl, Database.mirrors_empty⟩
  have hmirrors := Session.mirrorsRecords_replay hempty hcalls retries
  exact Session.agreesOnQueries_of_mirrorsRecords (Session.isFree_unlock _) hmirrors retries

/-- Two delegations, one of them with a signature and one with a finality provider, and a cursor
that stands at a height that is not read back. -/
def mixedHistory : List Request :=
  [.saveDelegation (.ofStake loneStake), .saveSignature loneStake.txid loneKey default,
    .saveDelegation (.ofStake { loneStake with txid := ⟨1⟩, providers := .ofList [loneKey] }),
    .advanceCursor "scan" 0 (UInt64.ofNat (2 ^ 63)), .getCursor "scan"]

/-- The queries agree although the database was locked for a while. -/
theorem mixedHistory_queries_agree :
    (∀ r ∈ mixedHistory, r.method ≠ .advanceCursor → r.IsStorable) ∧
      (replay (Session.backend 1) mixedHistory
        { Session.fresh with
          obstacle := fun n =>
            if n = 1 then some .locked else none }).unlock.AgreesOnQueries 1 := by
  have hcalls : ∀ r ∈ mixedHistory, r.method ≠ .advanceCursor → r.IsStorable := by
    simp [mixedHistory, Request.IsStorable, Request.method, Delegation.isStorable_ofStake]
  exact ⟨hcalls, queries_agree _ hcalls 1⟩

end StakeLedger
