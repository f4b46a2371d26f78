import StakeLedger.Database.Session
import StakeLedger.Proofs.Database.Failures
import StakeLedger.Proofs.Database.Loading

/-!
# Sessions without Obstacles

In a session that meets no obstacles (`Session.IsFree`) a request is answered by the database, at
the first attempt and even where the answer does not depend on the database (`Session.answer_eq`).
-/

namespace StakeLedger

/-- An attempt that does not fail for a transient cause is not repeated. -/
theorem withRetries_eq {σ α : Type} {attempt : σ → Except DatabaseError α × σ} {s : σ}
    (h : ∀ e, (attempt s).1 = .error e → ¬e.isTransient) (retries : Nat) :
    withRetries attempt retries s = attempt s := by
  cases retries with
  | zero => rfl
  | succ retries =>
    rw [withRetries]
    rcases hattempt : attempt s with ⟨_ | _, s'⟩
    · rw [hattempt] at h
      exact if_neg (h _ rfl)
    · rfl

namespace Session

/-- The session meets no obstacles, at whatever attempt. -/
def IsFree (s : Session) : Prop := ∀ n, s.obstacle n = none

theorem isFree_fresh : fresh.IsFree := fun _ => rfl

/-- A request that is answered without the database, by `immediate?`, would have the same answer
from it. -/
theorem answer_of_immediate? {r : Request} {a : r.Answer} (h : immediate? r = some a)
    (db : Database) :
    db.answer r = (.ok a, db) := by
  cases r with
  | updateState txid u =>
    rw [immediate?] at h
    split at h
    next hempty =>
      obtain rfl := Option.some.inj h
      -- without a state to leave, no row qualifies
      have hnone : ¬db.delegations.any (Database.isQualified txid.text u.origins) = true := by
        rw [List.isEmpty_iff.1 hempty, List.any_eq_true]
        rintro ⟨row, -, hqualified⟩
        exact absurd ((Bool.and_eq_true _ _).mp hqualified).2 (by simp)
      rw [Database.answer, Database.updateState, if_neg hnone]
    next => cases h
  | delegationsByStates states =>
    rw [immediate?] at h
    split at h
    next hempty =>
      obtain rfl := Option.some.inj h
      -- without a state to look for, no row is found
      have hnone : (db.delegations.filter fun r => r.state ∈ states.map (·.name)) = [] := by
        rw [List.isEmpty_iff.1 hempty]
        exact List.filter_eq_nil_iff.2 fun row _ => by simp
      have hload : db.load (([] : List Delegation).map .ofDelegation) = .ok [] :=
        Database.load_map (fun _ h => by cases h) .nil fun _ h => by cases h
      rw [List.map_nil] at hload
      rw [Database.answer, Database.delegationsByStates, hnone, List.mergeSort_nil, hload]
    next => cases h
  | _ => cases h

/-- In a session without obstacles a request is answered by the database, however many `retries`
there are. -/
theorem answer_eq {s : Session} (hfree : s.IsFree) (r : Request) (retries : Nat) :
    (answer retries r s).1 = (s.database.answer r).1.mapError .database ∧
      (answer retries r s).2.database = (s.database.answer r).2 ∧
      (answer retries r s).2.IsFree := by
  -- nothing stands between an attempt and the database
  have hattempt : attempt r s = ((s.database.answer r).1,
      { s with database := (s.database.answer r).2, attempts := s.attempts + 1 }) := by
    rw [attempt, hfree]
  rw [answer]
  cases himmediate : immediate? r with
  | some a =>
    rw [answer_of_immediate? himmediate]
    exact ⟨rfl, rfl, hfree⟩
  | none =>
    dsimp only
    rw [withRetries_eq, hattempt]
    · exact ⟨rfl, rfl, hfree⟩
    · rw [hattempt]
      exact s.database.answer_isLasting r

/-- What the database answers, a session without obstacles answers. -/
theorem answer_of_database {s : Session} (hfree : s.IsFree) {r : Request} {a : r.Answer}
    {db : Database} (h : s.database.answer r = (.ok a, db)) (retries : Nat) :
    ∃ s', (backend retries).answer r s = (.ok a, s') ∧ s'.IsFree ∧ s'.database = db := by
  obtain ⟨hreply, hdatabase, hfree'⟩ := answer_eq hfree r retries
  rw [h] at hreply hdatabase
  exact ⟨_, Prod.ext hreply rfl, hfree', hdatabase⟩

end Session

end StakeLedger
