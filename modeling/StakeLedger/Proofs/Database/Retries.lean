import StakeLedger.Proofs.Database.Sessions

/-!
# Retries

An operation on a store is attempted again after a transient failure (`withRetries`). If an attempt
that fails leaves the store as it is, then all attempts begin with the store that the first one
began with, and the outcome of the last one is the outcome of them all: `Attempts.withRetries_made`
counts the attempts, and `Attempts.Transparent` says what follows from the count.

The attempts of a session at a request are of this kind (`Session.tries`). Undisturbed, an attempt
is answered by the database, so that retries show in the answer only if there are not enough of them
(`retrying_is_transparent`).
-/

namespace StakeLedger

/-- Attempts at an operation on stores of type `σ`, each of which knows its number. One that fails
leaves the store as it is. -/
structure Attempts (σ α : Type) where
  /-- The attempt of a number, with its outcome and the store it leaves. -/
  run : Nat → σ → Except DatabaseError α × σ
  /-- An attempt that fails leaves the store `s` as it is. -/
  unchanged : ∀ {n s e}, (run n s).1 = .error e → (run n s).2 = s

/-- The outcome is a transient failure: one that comes from contention or connectivity. -/
def FailsTransiently {α : Type} (outcome : Except DatabaseError α) : Prop :=
  ∃ e, outcome = .error e ∧ e.IsContention

theorem not_failsTransiently_ok {α : Type} {outcome : Except DatabaseError α} {a : α}
    (h : outcome = .ok a) : ¬FailsTransiently outcome := by
  rintro ⟨e, he, -⟩
  cases h.symm.trans he

theorem not_failsTransiently_error {α : Type} {outcome : Except DatabaseError α} {e : DatabaseError}
    (h : outcome = .error e) (hlasting : ¬e.IsContention) : ¬FailsTransiently outcome := by
  rintro ⟨e', he, hcontention⟩
  obtain rfl := Except.error.inj (h.symm.trans he)
  exact hlasting hcontention

namespace Attempts

variable {σ α : Type}

/-- The attempts as one operation on the store and the number of the next attempt, which is what
`withRetries` repeats. -/
def numbered (attempts : Attempts σ α) (s : σ × Nat) : Except DatabaseError α × (σ × Nat) :=
  ((attempts.run s.2 s.1).1, ((attempts.run s.2 s.1).2, s.2 + 1))

/-- The `result` of the attempts from number `n` on, with the store and the number of the next
attempt, is what the outcomes of the single attempts at the same store `s` allow. -/
structure Transparent (attempts : Attempts σ α) (retries n : Nat) (s : σ)
    (result : Except DatabaseError α × (σ × Nat)) : Prop where
  /-- At least one attempt is made, and at most one more than there are `retries`. All but the last
  one fail for a transient cause, and the last one does not unless there are no more retries. -/
  made : ∃ k ≤ retries, (∀ i < k, FailsTransiently (attempts.run (n + i) s).1) ∧
    (k < retries → ¬FailsTransiently (attempts.run (n + k) s).1) ∧
    result.2.2 = n + k + 1 ∧ (result.1, result.2.1) = attempts.run (n + k) s
  /-- If the first `k ≤ retries` attempts fail for a transient cause and the next one does not, the
  result is that of the next one, as if it was the only one. -/
  settled : ∀ k ≤ retries, (∀ i < k, FailsTransiently (attempts.run (n + i) s).1) →
    ¬FailsTransiently (attempts.run (n + k) s).1 →
      result.2.2 = n + k + 1 ∧ (result.1, result.2.1) = attempts.run (n + k) s
  /-- A failure that is not transient is returned at once, whatever retries are left. -/
  refused : ∀ k ≤ retries, (∀ i < k, FailsTransiently (attempts.run (n + i) s).1) →
    ∀ e, (attempts.run (n + k) s).1 = .error e → ¬e.IsContention →
      result = (.error e, (s, n + k + 1))
  /-- If all `retries + 1` attempts fail for a transient cause, the last cause is returned and
  nothing has changed. -/
  exhausted : (∀ i ≤ retries, FailsTransiently (attempts.run (n + i) s).1) →
    ∃ e, (attempts.run (n + retries) s).1 = .error e ∧ e.IsContention ∧
      result = (.error e, (s, n + retries + 1))

variable (attempts : Attempts σ α)

theorem numbered_error {n : Nat} {s : σ} {e : DatabaseError} (h : (attempts.run n s).1 = .error e) :
    attempts.numbered (s, n) = (.error e, (s, n + 1)) := by
  rw [numbered, h, attempts.unchanged h]

/-- The attempts are made one after the other, all at the same store: `k + 1` of them, the last one
with number `n + k`. The induction is on the retries that are left. -/
theorem withRetries_made (retries n : Nat) (s : σ) :
    ∃ k ≤ retries, (∀ i < k, FailsTransiently (attempts.run (n + i) s).1) ∧
      (k < retries → ¬FailsTransiently (attempts.run (n + k) s).1) ∧
      withRetries attempts.numbered retries (s, n) = attempts.numbered (s, n + k) := by
  induction retries generalizing n with
  | zero => exact ⟨0, le_rfl, by simp, by simp, rfl⟩
  | succ retries ih =>
    rw [withRetries]
    cases houtcome : (attempts.run n s).1 with
    | ok a =>
      -- an answer is final, and this attempt the only one
      have hfinal : attempts.numbered (s, n) = (.ok a, ((attempts.run n s).2, n + 1)) := by
        rw [numbered, ← houtcome]
      refine ⟨0, Nat.zero_le _, by simp, fun _ => not_failsTransiently_ok houtcome, ?_⟩
      rw [hfinal]
      exact hfinal.symm
    | error e =>
      have hfailed := attempts.numbered_error houtcome
      by_cases he : e.isTransient
      · -- this attempt comes in front of those that are made from the next number on
        obtain ⟨k, hk, htransient, hlast, hresult⟩ := ih (n + 1)
        refine ⟨k + 1, Nat.succ_le_succ hk, fun i hi => ?_, fun hmore => ?_, ?_⟩
        · cases i with
          | zero => exact ⟨e, houtcome, e.isTransient_iff.1 he⟩
          | succ i =>
            have := htransient i (Nat.lt_of_succ_lt_succ hi)
            rwa [Nat.add_assoc, Nat.add_comm 1 i] at this
        · have := hlast (Nat.lt_of_succ_lt_succ hmore)
          rwa [Nat.add_assoc, Nat.add_comm 1 k] at this
        · rw [hfailed]
          dsimp only
          rw [if_pos he, hresult, Nat.add_assoc, Nat.add_comm 1 k]
      · -- a lasting failure is final as well
        have hlasting : ¬e.IsContention := fun hcontention => he (e.isTransient_iff.2 hcontention)
        refine ⟨0, Nat.zero_le _, by simp,
          fun _ => not_failsTransiently_error houtcome hlasting, ?_⟩
        rw [hfailed]
        exact (if_neg he).trans hfailed.symm

/-- The outcomes of the single attempts decide how many are made and which one is the result. -/
theorem withRetries_transparent (retries n : Nat) (s : σ) :
    attempts.Transparent retries n s (withRetries attempts.numbered retries (s, n)) := by
  obtain ⟨k, hk, htransient, hlast, hresult⟩ := attempts.withRetries_made retries n s
  rw [hresult]
  -- the attempt that is not followed by another one is known from its outcome
  have hunique : ∀ k' ≤ retries, (∀ i < k', FailsTransiently (attempts.run (n + i) s).1) →
      ¬FailsTransiently (attempts.run (n + k') s).1 → k' = k := by
    intro k' hk' htransient' hfinal
    rcases Nat.lt_trichotomy k' k with hlt | heq | hgt
    · exact absurd (htransient k' hlt) hfinal
    · exact heq
    · exact absurd (htransient' k hgt) (hlast (Nat.lt_of_lt_of_le hgt hk'))
  refine ⟨⟨k, hk, htransient, hlast, rfl, rfl⟩, fun k' hk' htransient' hfinal => ?_,
    fun k' hk' htransient' e he hlasting => ?_, fun hall => ?_⟩
  · obtain rfl := hunique k' hk' htransient' hfinal
    exact ⟨rfl, rfl⟩
  · obtain rfl := hunique k' hk' htransient' (not_failsTransiently_error he hlasting)
    exact attempts.numbered_error he
  · obtain rfl : k = retries := by
      by_contra hne
      exact hlast (Nat.lt_of_le_of_ne hk hne) (hall k hk)
    obtain ⟨e, he, hcontention⟩ := hall k le_rfl
    exact ⟨e, he, hcontention, attempts.numbered_error he⟩

end Attempts

/-- Retries of operations that are the same but for a `view` of their states come to the same. -/
theorem withRetries_view {σ τ α : Type} (attempt : σ → Except DatabaseError α × σ)
    (attempt' : τ → Except DatabaseError α × τ) (view : τ → σ)
    (h : ∀ t, attempt (view t) = ((attempt' t).1, view (attempt' t).2)) (retries : Nat) (t : τ) :
    withRetries attempt retries (view t) =
      ((withRetries attempt' retries t).1, view (withRetries attempt' retries t).2) := by
  induction retries generalizing t with
  | zero => exact h t
  | succ retries ih =>
    rw [withRetries, withRetries, h]
    rcases attempt' t with ⟨e | a, t'⟩
    · dsimp only
      split
      · exact ih t'
      · rfl
    · rfl

/-! ## Sessions -/

namespace Session

/-- The attempts of the session at the request `r`, as operations on its database. -/
def tries (session : Session) (r : Request) : Attempts Database r.Answer where
  run n db :=
    match immediate? r, session.obstacle n with
    | some a, _ => (.ok a, db)
    | none, some failure => (.error (.driver failure), db)
    | none, none => db.answer r
  unchanged {n db e} h := by
    split at h
    · rfl
    · rfl
    · exact db.answer_unchanged h

variable {session : Session} {r : Request}

theorem tries_undisturbed {n : Nat} (h : session.obstacle n = none) (db : Database) :
    (session.tries r).run n db = db.answer r := by
  cases himmediate : immediate? r with
  | some a => simp only [tries, himmediate, answer_of_immediate? himmediate]
  | none => simp only [tries, himmediate, h]

theorem tries_obstacle {n : Nat} {failure : DriverFailure} (h : session.obstacle n = some failure)
    (hr : immediate? r = none) (db : Database) :
    (session.tries r).run n db = (.error (.driver failure), db) := by
  simp only [tries, hr, h]

theorem tries_immediate (session : Session) {a : r.Answer} (h : immediate? r = some a) (n : Nat)
    (db : Database) : (session.tries r).run n db = (.ok a, db) := by
  simp only [tries, h]

/-- The result of all attempts at a request, with the database and the number of the next
attempt. -/
def retried (session : Session) (retries : Nat) (r : Request) :
    Except DatabaseError r.Answer × (Database × Nat) :=
  withRetries (session.tries r).numbered retries (session.database, session.attempts)

/-- A session answers with the result of all its attempts, and counts them if they need the
database. -/
theorem answer_eq_retried (session : Session) (retries : Nat) (r : Request) :
    (answer retries r session).1 = (session.retried retries r).1.mapError .database ∧
      (answer retries r session).2.database = (session.retried retries r).2.1 ∧
      (immediate? r = none →
        (answer retries r session).2.attempts = (session.retried retries r).2.2) := by
  rw [answer]
  cases himmediate : immediate? r with
  | some a =>
    -- the first attempt is the last one, and is not counted
    have hattempt := session.tries_immediate himmediate
    have hretried : session.retried retries r =
        (.ok a, (session.database, session.attempts + 1)) := by
      rw [retried, withRetries_eq]
      · rw [Attempts.numbered, hattempt]
      · rw [Attempts.numbered, hattempt]
        rintro e ⟨⟩
    rw [hretried]
    exact ⟨rfl, rfl, fun hnone => by cases hnone⟩
  | none =>
    have hview := withRetries_view (attempt r) (session.tries r).numbered
      (fun t => { session with database := t.1, attempts := t.2 }) (fun t => ?_) retries
        (session.database, session.attempts)
    · dsimp only at hview ⊢
      rw [hview]
      exact ⟨rfl, rfl, fun _ => rfl⟩
    · rw [attempt, Attempts.numbered]
      dsimp only
      cases hobstacle : session.obstacle t.2 with
      | some failure => rw [tries_obstacle hobstacle himmediate]
      | none => rw [tries_undisturbed hobstacle]

/-- A session leaves its database as it is, or as the database leaves itself when it is asked once:
no request is carried out twice. -/
theorem database_answer_cases (session : Session) (retries : Nat) (r : Request) :
    (answer retries r session).2.database = session.database ∨
      (answer retries r session).2.database = (session.database.answer r).2 := by
  obtain ⟨k, -, -, -, -, hresult⟩ :=
    ((session.tries r).withRetries_transparent retries session.attempts session.database).made
  have hdatabase : (session.retried retries r).2.1 = _ := congrArg Prod.snd hresult
  rw [(answer_eq_retried session retries r).2.1, hdatabase]
  cases himmediate : immediate? r with
  | some a => exact .inl (congrArg Prod.snd (session.tries_immediate himmediate _ _))
  | none =>
    cases hobstacle : session.obstacle (session.attempts + k) with
    | some failure => exact .inl (congrArg Prod.snd (tries_obstacle hobstacle himmediate _))
    | none => exact .inr (congrArg Prod.snd (tries_undisturbed hobstacle _))

/-- The attempt with number `n` meets an obstacle that may be gone at the next one. -/
def IsHeldUp (session : Session) (n : Nat) : Prop :=
  ∃ failure, session.obstacle n = some failure ∧ (DatabaseError.driver failure).IsContention

/-- The session answers the request `r` as if it met no obstacles, or says which one it met. -/
structure AnswersThroughRetries (session : Session) (retries : Nat) (r : Request) : Prop where
  /-- The answer, the database and the count of attempts are those of a `result` of all attempts at
  the request that is `Transparent`. -/
  attempted : ∃ result,
    (session.tries r).Transparent retries session.attempts session.database result ∧
    (answer retries r session).1 = result.1.mapError .database ∧
    (answer retries r session).2.database = result.2.1 ∧
    (immediate? r = none → (answer retries r session).2.attempts = result.2.2)
  /-- Obstacles that are gone after at most `retries` attempts do not show: the answer is that of
  the database. -/
  undisturbed : ∀ k ≤ retries, (∀ i < k, session.IsHeldUp (session.attempts + i)) →
    session.obstacle (session.attempts + k) = none →
      (answer retries r session).1 = (session.database.answer r).1.mapError .database ∧
      (answer retries r session).2.database = (session.database.answer r).2
  /-- An obstacle that does not go away by itself fails the request at once, with the `failure` it
  is. -/
  refused : ∀ k ≤ retries, (∀ i < k, session.IsHeldUp (session.attempts + i)) →
    ∀ failure, session.obstacle (session.attempts + k) = some failure →
      ¬(DatabaseError.driver failure).IsContention → immediate? r = none →
        (answer retries r session).1 = .error (.database (.driver failure)) ∧
        (answer retries r session).2.database = session.database
  /-- Obstacles that outlast the `retries` fail the request, with the last of them. -/
  exhausted : (∀ i ≤ retries, session.IsHeldUp (session.attempts + i)) → immediate? r = none →
    ∃ failure, session.obstacle (session.attempts + retries) = some failure ∧
      (answer retries r session).1 = .error (.database (.driver failure)) ∧
      (answer retries r session).2.database = session.database

/-- An attempt that is held up fails for a transient cause, if the request needs the database. -/
theorem IsHeldUp.failsTransiently {n : Nat} (h : session.IsHeldUp n) (hr : immediate? r = none)
    (db : Database) : FailsTransiently ((session.tries r).run n db).1 := by
  obtain ⟨failure, hobstacle, hcontention⟩ := h
  exact ⟨_, congrArg Prod.fst (tries_obstacle hobstacle hr db), hcontention⟩

/-- An attempt that meets no obstacle does not fail for a transient cause: the database itself has
only lasting failures. -/
theorem tries_not_failsTransiently {n : Nat} (h : session.obstacle n = none) (db : Database) :
    ¬FailsTransiently ((session.tries r).run n db).1 := by
  rw [tries_undisturbed h]
  rintro ⟨e, he, hcontention⟩
  exact db.answer_isLasting r e he (e.isTransient_iff.2 hcontention)

/-- Every request is answered through retries, whatever obstacles the session meets. -/
theorem answersThroughRetries (session : Session) (retries : Nat) (r : Request) :
    session.AnswersThroughRetries retries r := by
  have htransparent : (session.tries r).Transparent retries session.attempts session.database
      (session.retried retries r) := (session.tries r).withRetries_transparent retries _ _
  obtain ⟨hreply, hdatabase, hcount⟩ := answer_eq_retried session retries r
  refine ⟨⟨_, htransparent, hreply, hdatabase, hcount⟩, fun k hk hheld hfree => ?_,
    fun k hk hheld failure hobstacle hlasting hr => ?_, fun hheld hr => ?_⟩
  · have hresult : ((session.retried retries r).1, (session.retried retries r).2.1) =
        session.database.answer r := by
      cases himmediate : immediate? r with
      | some a =>
        -- no obstacle is met
        have hattempt := session.tries_immediate himmediate
        have hfinal : ¬FailsTransiently
            ((session.tries r).run (session.attempts + 0) session.database).1 :=
          not_failsTransiently_ok (congrArg Prod.fst (hattempt _ _))
        rw [(htransparent.settled 0 (Nat.zero_le _) (by simp) hfinal).2, hattempt,
          answer_of_immediate? himmediate]
      | none =>
        have hfailed := fun i hi => (hheld i hi).failsTransiently himmediate session.database
        rw [(htransparent.settled k hk hfailed (tries_not_failsTransiently hfree _)).2,
          tries_undisturbed hfree]
    rw [hreply, hdatabase, ← hresult]
    exact ⟨rfl, rfl⟩
  · have hresult := htransparent.refused k hk (fun i hi => (hheld i hi).failsTransiently hr _) _
      (congrArg Prod.fst (tries_obstacle hobstacle hr _)) hlasting
    rw [hreply, hdatabase, hresult]
    exact ⟨rfl, rfl⟩
  · obtain ⟨e, he, -, hresult⟩ := htransparent.exhausted fun i hi =>
      (hheld i hi).failsTransiently hr _
    obtain ⟨failure, hobstacle, -⟩ := hheld retries le_rfl
    rw [tries_obstacle hobstacle hr] at he
    cases he
    rw [hreply, hdatabase, hresult]
    exact ⟨failure, hobstacle, rfl, rfl⟩

end Session

/-- Retries are transparent: for operations on any store whose failed attempts change nothing, and
for every request to a database. What is attempted again are exactly the failures that come from
contention or connectivity. -/
theorem retrying_is_transparent :
    (∀ e : DatabaseError, e.isTransient ↔ e.IsContention) ∧
      (∀ (σ α : Type) (attempts : Attempts σ α) (retries n : Nat) (s : σ),
        attempts.Transparent retries n s (withRetries attempts.numbered retries (s, n))) ∧
      ∀ (session : Session) (retries : Nat) (r : Request),
        session.AnswersThroughRetries retries r :=
  ⟨DatabaseError.isTransient_iff, fun _ _ attempts => attempts.withRetries_transparent,
    Session.answersThroughRetries⟩

/-- A lock that is held during two attempts shows with one retry, and does not with two. -/
example :
    (Session.answer 1 (.getCursor "scanner")
      ⟨.empty, fun n => if n < 2 then some .locked else none, 0⟩).1 =
        .error (.database (.driver .locked)) ∧
    (Session.answer 2 (.getCursor "scanner")
      ⟨.empty, fun n => if n < 2 then some .locked else none, 0⟩).1 = .ok default :=
  ⟨rfl, rfl⟩

end StakeLedger
